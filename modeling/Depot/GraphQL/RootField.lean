import Depot.Operation.Job

namespace Depot.GraphQL

open Operation

/-- A root field with its arguments: the catalog of permissions, which anybody may see, or an
operation. -/
inductive RootField where
  | permissions
  | job (j : Job)

/-- A permission that the caller must hold, and whether members and customers may hold it. -/
structure Demand where
  permission : Permission
  memberView : Bool
  customerView : Bool
  deriving DecidableEq

def Demand.ofMember (permission : Permission) : Demand := ⟨permission, true, false⟩

def demand : Job → Option Demand
  | .me | .profile | .changePassword .. => none
  | .organizations | .organization _ => some (.ofMember .readOrganization)
  | .roles _ | .role _ => some (.ofMember .readRole)
  | .users .. => some (.ofMember .readUser)
  | .user _ => some ⟨.readUser, true, true⟩
  | .containers | .container _ => some (.ofMember .readContainer)
  | .pallets _ | .pallet _ => some (.ofMember .readPallet)
  | .organizationUpdate .. | .organizationArchive .. => some (.ofMember .updateOrganization)
  | .organizationDelete _ => some (.ofMember .deleteOrganization)
  | .roleCreate _ => some (.ofMember .createRole)
  | .roleUpdate _ => some (.ofMember .updateRole)
  | .roleDelete _ => some (.ofMember .deleteRole)
  | .userUpdate .. => some (.ofMember .updateUser)
  | .userDelete _ => some (.ofMember .deleteUser)
  | .containerCreate _ => some (.ofMember .createContainer)
  | .containerUpdate .. | .containerArchive .. => some (.ofMember .updateContainer)
  | .containerDelete _ => some (.ofMember .deleteContainer)
  | .palletCreate _ => some (.ofMember .createPallet)
  | .palletUpdate _ | .palletArchive .. => some (.ofMember .updatePallet)
  | .palletDelete _ => some (.ofMember .deletePallet)

def Demand.check (p : Principal) : Option Demand → Program Unit
  | none => pure ()
  | some d => Authorization.grant p d.permission d.memberView d.customerView

def execute (s : Accounts.Settings) (p : Principal) (j : Job) : Program Value := do
  Demand.check p (demand j)
  j.perform s p

end Depot.GraphQL
