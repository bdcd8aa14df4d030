import Depot.Operation.Accounts
import Depot.Operation.Containers
import Depot.Operation.Organizations
import Depot.Operation.Pallets
import Depot.Operation.Roles
import Depot.Operation.Users

namespace Depot.Operation

/-- How a row is asked for. -/
inductive Finder where
  | id (id : Id)
  | code (code : String)
  | uid (uid : Uid)
  | email (email : String)
  | phone (phone : String)
  | missing
  deriving Repr, DecidableEq, Inhabited

/-- An operation with its arguments. -/
inductive Job where
  | organizations
  | organization (finder : Finder)
  | roles (organization : Option Id)
  | role (finder : Finder)
  | users (filter : UserFilter) (organization : Option Id)
  | user (finder : Finder)
  | me
  | profile
  | containers
  | container (finder : Finder)
  | pallets (container : Option Id)
  | pallet (finder : Finder)
  | organizationUpdate (id : Id) (name : String) (website : Option String)
  | organizationArchive (id : Id) (archived : Bool)
  | organizationDelete (id : Id)
  | roleCreate (creation : Roles.Creation)
  | roleUpdate (change : Roles.Change)
  | roleDelete (id : Id)
  | userUpdate (id : Id) (change : Users.Change)
  | userDelete (id : Id)
  | changePassword (old new : String)
  | containerCreate (creation : Containers.Creation)
  | containerUpdate (id : Id) (description : Option String)
  | containerArchive (id : Id) (archived : Bool)
  | containerDelete (id : Id)
  | palletCreate (creation : Pallets.Creation)
  | palletUpdate (change : Pallets.Change)
  | palletArchive (id : Id) (archived : Bool)
  | palletDelete (id : Id)

inductive Row where
  | organization (o : Organization)
  | role (r : Role)
  | user (u : User)
  | profile (p : Profile)
  | container (c : Container)
  | pallet (x : Pallet)

inductive RowType where
  | organization
  | role
  | user
  | profile
  | container
  | pallet
  deriving Repr, DecidableEq, Inhabited

namespace Row

def type : Row → RowType
  | .organization _ => .organization
  | .role _ => .role
  | .user _ => .user
  | .profile _ => .profile
  | .container _ => .container
  | .pallet _ => .pallet

def toJson : Row → Json
  | .organization o => o.toJson
  | .role r => r.toJson
  | .user u => u.toJson
  | .profile p => p.toJson
  | .container c => c.toJson
  | .pallet x => x.toJson

end Row

/-- What an operation answers. -/
inductive Value where
  | done
  | row (r : Row)
  | page (type : RowType) (rows : List Row)

def Value.toJson : Value → Json
  | .done => .null
  | .row r => r.toJson
  | .page _ rows => Json.ofList Row.toJson rows

def missingKey : Error := .badRequest "id or code is required"

def missingUidKey : Error := .badRequest "id, uid or code is required"

def missingUserKey : Error := .badRequest "id, email or phone is required"

def findOrganization (p : Principal) : Finder → Program Organization
  | .id id => Organizations.get p id
  | .code code => Organizations.getByCode p code
  | _ => throw missingKey

def findRole (p : Principal) : Finder → Program Role
  | .id id => Roles.get p id
  | .code code => Roles.getByCode p code
  | _ => throw missingKey

def findUser (p : Principal) : Finder → Program User
  | .id id => Users.get p id
  | .email email => Users.getByEmail p email
  | .phone phone => Users.getByPhone p phone
  | _ => throw missingUserKey

def findContainer (p : Principal) : Finder → Program Container
  | .id id => Containers.get p id
  | .uid uid => Containers.getByUid p uid
  | .code code => Containers.getByCode p code
  | _ => throw missingUidKey

def findPallet (p : Principal) : Finder → Program Pallet
  | .id id => Pallets.get p id
  | .uid uid => Pallets.getByUid p uid
  | .code code => Pallets.getByCode p code
  | _ => throw missingUidKey

def Job.perform (s : Accounts.Settings) (p : Principal) : Job → Program Value
  | .organizations => return .page .organization ((← Organizations.list p).map .organization)
  | .organization finder => return .row (.organization (← findOrganization p finder))
  | .roles o => return .page .role ((← Roles.list p o).map .role)
  | .role finder => return .row (.role (← findRole p finder))
  | .users filter o =>
    return .page .user ((← Users.list p filter o).map .user)
  | .user finder => return .row (.user (← findUser p finder))
  | .me => return .row (.user (← Users.me p))
  | .profile => return .row (.profile (← Users.profile p))
  | .containers => return .page .container ((← Containers.list p).map .container)
  | .container finder => return .row (.container (← findContainer p finder))
  | .pallets c => return .page .pallet ((← Pallets.list p c).map .pallet)
  | .pallet finder => return .row (.pallet (← findPallet p finder))
  | .organizationUpdate id name website =>
    return .row (.organization (← Organizations.update p id name website))
  | .organizationArchive id archived =>
    return .row (.organization (← Organizations.setArchived p id archived))
  | .organizationDelete id => do
    Organizations.delete p id
    pure .done
  | .roleCreate creation => return .row (.role (← Roles.create p creation))
  | .roleUpdate change => return .row (.role (← Roles.update p change))
  | .roleDelete id => do
    Roles.delete p id
    pure .done
  | .userUpdate id change => return .row (.user (← Users.update p id change))
  | .userDelete id => do
    Users.delete p id
    pure .done
  | .changePassword old new => do
    Accounts.changePassword s p old new
    pure .done
  | .containerCreate creation => return .row (.container (← Containers.create p creation))
  | .containerUpdate id description =>
    return .row (.container (← Containers.update p id description))
  | .containerArchive id archived =>
    return .row (.container (← Containers.setArchived p id archived))
  | .containerDelete id => do
    Containers.delete p id
    pure .done
  | .palletCreate creation => return .row (.pallet (← Pallets.create p creation))
  | .palletUpdate change => return .row (.pallet (← Pallets.update p change))
  | .palletArchive id archived => return .row (.pallet (← Pallets.setArchived p id archived))
  | .palletDelete id => do
    Pallets.delete p id
    pure .done

end Depot.Operation
