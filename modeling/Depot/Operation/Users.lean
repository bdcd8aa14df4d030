import Depot.Authorization
import Depot.Tenancy

namespace Depot.Operation.Users

open Store Program

structure Change where
  firstName : Option String
  lastName : Option String
  email : Option String
  phone : Option String
  deriving Repr, DecidableEq, Inhabited

def list (p : Principal) (filter : UserFilter) (organization : Option Id) : Program (List User) :=
  match p.kind with
  | .admin =>
    match organization with
    | some o => call (.users (.ofOrganization o))
    | none => call (.users (.list filter))
  | .member own _ => call (.users (.ofOrganization own))
  | .customer => throw .notPermitted

/-- An administrator sees everyone, a member the members of the own organization, a customer only
the customer's own row. -/
def sees (p : Principal) (u : User) : Bool :=
  match p.kind with
  | .admin => true
  | .member own _ => u.isMember && u.organizationId == some own
  | .customer => u.id == p.id

def visible (p : Principal) (u : User) : Except Error User :=
  if sees p u then .ok u else .error .noUser

def get (p : Principal) (id : Id) : Program User := do
  let u ← call (.users (.byId id))
  visible p u

def getByEmail (p : Principal) (email : String) : Program User := do
  let u ← call (.users (.byEmail (normalizeEmail email)))
  visible p u

def getByPhone (p : Principal) (phone : String) : Program User := do
  let u ← call (.users (.byPhone phone))
  visible p u

def me (p : Principal) : Program User := call (.users (.byId p.id))

def profile (p : Principal) : Program Profile := do
  if !p.isCustomer then
    throw (.unauthorized "only customers have a profile")
  call (.profiles (.byUser p.id))

/-- A given text that is more than white space replaces the old one; it is trimmed. -/
def replaced (old : String) (new : Option String) : String :=
  match Text.nonBlank? new with
  | some s => Text.trim s
  | none => old

def Change.apply (c : Change) (u : User) : User :=
  { u with
    firstName := replaced u.firstName c.firstName
    lastName := replaced u.lastName c.lastName
    email :=
      match Text.nonBlank? c.email with
      | some e => normalizeEmail e
      | none => u.email
    phone := replaced u.phone c.phone }

def update (p : Principal) (id : Id) (c : Change) : Program User := do
  let u ← get p id
  call (.users (.update (c.apply u)))

def delete (p : Principal) (id : Id) : Program Unit := do
  p.requireAdmin
  call (.users (.delete id))

end Depot.Operation.Users
