import Depot.Inventory
import Depot.Organization
import Depot.Role
import Depot.User

namespace Depot.Store

inductive OrganizationCall where
  | byId (id : Id)
  | byCode (code : String)
  | many (ids : List Id)
  | list
  | register (organization : NewOrganization) (owner : NewAccount)
  | update (organization : Organization)
  | delete (id : Id)

inductive RoleCall where
  | byId (id : Id)
  | byCode (code : String)
  | many (ids : List Id)
  | list
  | ofOrganization (organization : Id)
  | insert (role : NewRole)
  | update (role : Role)
  | delete (id : Id)

inductive UserCall where
  | byId (id : Id)
  | byEmail (email : String)
  | byPhone (phone : String)
  | many (ids : List Id)
  | list (filter : UserFilter)
  | ofOrganization (organization : Id)
  | insert (user : NewUser)
  | insertCustomer (account : NewAccount)
  | update (user : User)
  | updatePassword (id : Id) (hash : PasswordHash)
  | delete (id : Id)

inductive ProfileCall where
  | byUser (id : Id)
  | many (ids : List Id)

inductive ContainerCall where
  | byId (id : Id)
  | byUid (uid : Uid)
  | byCode (code : String)
  | many (ids : List Id)
  | list
  | ofOrganization (organization : Id)
  | insert (container : NewContainer)
  | update (container : Container)
  | delete (id : Id)

inductive PalletCall where
  | byId (id : Id)
  | byUid (uid : Uid)
  | byCode (code : String)
  | list
  | ofOrganization (organization : Id)
  | ofContainer (container : Id)
  | ofContainers (containers : List Id)
  | insert (pallet : NewPallet)
  | update (pallet : Pallet)
  | delete (id : Id)

inductive Call where
  | organizations (call : OrganizationCall)
  | roles (call : RoleCall)
  | users (call : UserCall)
  | profiles (call : ProfileCall)
  | containers (call : ContainerCall)
  | pallets (call : PalletCall)

@[reducible] def OrganizationCall.Answer : OrganizationCall → Type
  | .byId _ | .byCode _ | .update _ => Organization
  | .many _ | .list => List Organization
  | .register _ _ => Organization × Role × User
  | .delete _ => Unit

@[reducible] def RoleCall.Answer : RoleCall → Type
  | .byId _ | .byCode _ | .insert _ | .update _ => Role
  | .many _ | .list | .ofOrganization _ => List Role
  | .delete _ => Unit

@[reducible] def UserCall.Answer : UserCall → Type
  | .byId _ | .byEmail _ | .byPhone _ | .insert _ | .update _ => User
  | .many _ | .list _ | .ofOrganization _ => List User
  | .insertCustomer _ => User × Profile
  | .updatePassword _ _ | .delete _ => Unit

@[reducible] def ProfileCall.Answer : ProfileCall → Type
  | .byUser _ => Profile
  | .many _ => List Profile

@[reducible] def ContainerCall.Answer : ContainerCall → Type
  | .byId _ | .byUid _ | .byCode _ | .insert _ | .update _ => Container
  | .many _ | .list | .ofOrganization _ => List Container
  | .delete _ => Unit

@[reducible] def PalletCall.Answer : PalletCall → Type
  | .byId _ | .byUid _ | .byCode _ | .insert _ | .update _ => Pallet
  | .list | .ofOrganization _ | .ofContainer _ | .ofContainers _ => List Pallet
  | .delete _ => Unit

@[reducible] def Call.Answer : Call → Type
  | .organizations c => c.Answer
  | .roles c => c.Answer
  | .users c => c.Answer
  | .profiles c => c.Answer
  | .containers c => c.Answer
  | .pallets c => c.Answer

/-- The six tables. -/
inductive TableName where
  | organizations
  | roles
  | users
  | profiles
  | containers
  | pallets
  deriving Repr, DecidableEq, Inhabited

def TableName.text : TableName → String
  | .organizations => "organizations"
  | .roles => "roles"
  | .users => "users"
  | .profiles => "profiles"
  | .containers => "containers"
  | .pallets => "pallets"

def TableName.ofText? (s : String) : Option TableName :=
  [TableName.organizations, .roles, .users, .profiles, .containers, .pallets].find? (·.text == s)

def Call.table : Call → TableName
  | .organizations _ => .organizations
  | .roles _ => .roles
  | .users _ => .users
  | .profiles _ => .profiles
  | .containers _ => .containers
  | .pallets _ => .pallets

end Depot.Store
