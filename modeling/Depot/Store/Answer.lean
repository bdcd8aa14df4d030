import Depot.Store.Call

namespace Depot.Store

def customerJson (r : User × Profile) : Json := .obj [("user", r.1.toJson), ("profile", r.2.toJson)]

def registeredJson (r : Organization × Role × User) : Json :=
  .obj [("organization", r.1.toJson), ("role", r.2.1.toJson), ("user", r.2.2.toJson)]

def OrganizationCall.answerJson : (c : OrganizationCall) → c.Answer → Json
  | .byId _, o | .byCode _, o | .update _, o => Organization.toJson o
  | .many _, os | .list, os => Json.ofList Organization.toJson os
  | .register _ _, r => registeredJson r
  | .delete _, _ => .null

def RoleCall.answerJson : (c : RoleCall) → c.Answer → Json
  | .byId _, r | .byCode _, r | .insert _, r | .update _, r => Role.toJson r
  | .many _, rs | .list, rs | .ofOrganization _, rs => Json.ofList Role.toJson rs
  | .delete _, _ => .null

def UserCall.answerJson : (c : UserCall) → c.Answer → Json
  | .byId _, u | .byEmail _, u | .byPhone _, u | .insert _, u | .update _, u => User.toJson u
  | .many _, us | .list _, us | .ofOrganization _, us => Json.ofList User.toJson us
  | .insertCustomer _, r => customerJson r
  | .updatePassword _ _, _ | .delete _, _ => .null

def ProfileCall.answerJson : (c : ProfileCall) → c.Answer → Json
  | .byUser _, p => Profile.toJson p
  | .many _, ps => Json.ofList Profile.toJson ps

def ContainerCall.answerJson : (c : ContainerCall) → c.Answer → Json
  | .byId _, c | .byUid _, c | .byCode _, c | .insert _, c | .update _, c => Container.toJson c
  | .many _, cs | .list, cs | .ofOrganization _, cs => Json.ofList Container.toJson cs
  | .delete _, _ => .null

def PalletCall.answerJson : (c : PalletCall) → c.Answer → Json
  | .byId _, p | .byUid _, p | .byCode _, p | .insert _, p | .update _, p => Pallet.toJson p
  | .list, ps | .ofOrganization _, ps | .ofContainer _, ps | .ofContainers _, ps =>
    Json.ofList Pallet.toJson ps
  | .delete _, _ => .null

def Call.answerJson : (c : Call) → c.Answer → Json
  | .organizations c => c.answerJson
  | .roles c => c.answerJson
  | .users c => c.answerJson
  | .profiles c => c.answerJson
  | .containers c => c.answerJson
  | .pallets c => c.answerJson

end Depot.Store
