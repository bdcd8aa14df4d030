import Depot.Error
import Depot.Json.Access

namespace Depot

abbrev Id := Int

inductive Kind where
  | admin
  | member (organization role : Id)
  | customer
  deriving Repr, DecidableEq, Inhabited

namespace Kind

def isAdmin : Kind → Bool
  | .admin => true
  | _ => false

def isMember : Kind → Bool
  | .member .. => true
  | _ => false

def isCustomer : Kind → Bool
  | .customer => true
  | _ => false

def organization? : Kind → Option Id
  | .member organization _ => some organization
  | _ => none

def role? : Kind → Option Id
  | .member _ role => some role
  | _ => none

end Kind

structure Principal where
  id : Id
  kind : Kind
  deriving Repr, DecidableEq, Inhabited

/-- A principal as it is stored and sent: one flag for each kind. Not every combination names a
principal. -/
structure Flags where
  id : Id
  isAdmin : Bool
  isMember : Bool
  isCustomer : Bool
  organizationId : Option Id
  roleId : Option Id
  deriving Repr, DecidableEq, Inhabited

namespace Flags

/-- Exactly one flag must be set, and a member needs an organization and a role. -/
def principal? (f : Flags) : Option Principal :=
  match f.isAdmin, f.isMember, f.isCustomer with
  | true, false, false => some ⟨f.id, .admin⟩
  | false, true, false =>
    f.organizationId.bind fun o => f.roleId.map fun r => ⟨f.id, .member o r⟩
  | false, false, true => some ⟨f.id, .customer⟩
  | _, _, _ => none

def toJson (f : Flags) : Json :=
  .obj [("id", .int f.id), ("isAdmin", .bool f.isAdmin), ("isMember", .bool f.isMember),
    ("isCustomer", .bool f.isCustomer), ("organizationId", Json.ofOption .int f.organizationId),
    ("roleId", Json.ofOption .int f.roleId)]

def ofJson (j : Json) : Flags :=
  ⟨j.intAt "id", j.flagAt "isAdmin", j.flagAt "isMember", j.flagAt "isCustomer",
    j.intAt? "organizationId", j.intAt? "roleId"⟩

end Flags

namespace Principal

def isAdmin (p : Principal) : Bool := p.kind.isAdmin

def isMember (p : Principal) : Bool := p.kind.isMember

def isCustomer (p : Principal) : Bool := p.kind.isCustomer

def organization? (p : Principal) : Option Id := p.kind.organization?

def role? (p : Principal) : Option Id := p.kind.role?

def flags (p : Principal) : Flags :=
  ⟨p.id, p.isAdmin, p.isMember, p.isCustomer, p.organization?, p.role?⟩

theorem principal?_flags (p : Principal) : p.flags.principal? = some p := by
  obtain ⟨id, kind⟩ := p
  cases kind <;> rfl

end Principal

end Depot
