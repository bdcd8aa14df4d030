import Depot.Password
import Depot.Principal
import Depot.Text.LowerCase
import Depot.Uid

namespace Depot

structure User where
  id : Id
  firstName : String
  lastName : String
  email : String
  phone : String
  isAdmin : Bool
  isMember : Bool
  isCustomer : Bool
  passwordHash : PasswordHash
  organizationId : Option Id
  roleId : Option Id
  createdAt : Timestamp
  updatedAt : Timestamp
  deriving Repr, DecidableEq, Inhabited

structure Profile where
  userId : Id
  dateOfBirth : Option String
  referralCode : Option String
  walletPoints : Int
  createdAt : Timestamp
  updatedAt : Timestamp
  deriving Repr, DecidableEq, Inhabited

structure NewAccount where
  firstName : String
  lastName : String
  email : String
  phone : String
  passwordHash : PasswordHash
  deriving Repr, DecidableEq, Inhabited

structure NewUser where
  account : NewAccount
  kind : Kind
  deriving Repr, DecidableEq, Inhabited

/-- Which kinds of user to list: no flag asks for all of them. -/
structure UserFilter where
  isAdmin : Bool
  isMember : Bool
  isCustomer : Bool
  deriving Repr, DecidableEq, Inhabited

/-- The form in which an e-mail address is stored and looked up. -/
def normalizeEmail (email : String) : String := Text.lower (Text.trim email)

namespace User

def flags (u : User) : Flags :=
  ⟨u.id, u.isAdmin, u.isMember, u.isCustomer, u.organizationId, u.roleId⟩

def principal (u : User) : Except Error Principal :=
  match u.flags.principal? with
  | some p => .ok p
  | none => .error (.internal ("user " ++ toString u.id ++ " has an inconsistent kind"))

def kindLabel (u : User) : String :=
  if u.isAdmin then "Super Admin" else if u.isMember then "Member" else "Customer"

/-- All but the password hash. -/
def toJson (u : User) : Json :=
  .obj [("id", .int u.id), ("firstName", .str u.firstName), ("lastName", .str u.lastName),
    ("email", .str u.email), ("phone", .str u.phone), ("isAdmin", .bool u.isAdmin),
    ("isMember", .bool u.isMember), ("isCustomer", .bool u.isCustomer),
    ("organizationId", Json.ofOption .int u.organizationId), ("roleId", Json.ofOption .int u.roleId),
    ("createdAt", .str u.createdAt.text), ("updatedAt", .str u.updatedAt.text)]

end User

def UserFilter.admits (f : UserFilter) (u : User) : Bool :=
  (!f.isAdmin && !f.isMember && !f.isCustomer) ||
    (f.isAdmin && u.isAdmin) || (f.isMember && u.isMember) || (f.isCustomer && u.isCustomer)

def Profile.toJson (p : Profile) : Json :=
  .obj [("userId", .int p.userId), ("dateOfBirth", Json.ofOption .str p.dateOfBirth),
    ("referralCode", Json.ofOption .str p.referralCode), ("walletPoints", .int p.walletPoints),
    ("createdAt", .str p.createdAt.text), ("updatedAt", .str p.updatedAt.text)]

end Depot
