import Depot.Authorization
import Depot.Tenancy
import Depot.Text.Blank

namespace Depot.Operation.Organizations

open Store Program

def list (p : Principal) : Program (List Organization) :=
  match p.kind with
  | .admin => call (.organizations .list)
  | .member own _ => do
    let o ← call (.organizations (.byId own))
    pure [o]
  | .customer => pure []

/-- Hides an organization from members of others. -/
def visible (p : Principal) (o : Organization) : Except Error Organization := do
  p.ensureSameTenant (some o.id) .noOrganization
  pure o

def get (p : Principal) (id : Id) : Program Organization := do
  let o ← call (.organizations (.byId id))
  visible p o

def getByCode (p : Principal) (code : String) : Program Organization := do
  let o ← call (.organizations (.byCode code))
  visible p o

def update (p : Principal) (id : Id) (name : String) (website : Option String) :
    Program Organization := do
  if Text.isBlankText name then
    throw (.badRequest "name is required")
  let o ← get p id
  call (.organizations (.update { o with name := Text.trim name, website := website }))

/-- Archives an organization or takes it back; doing what is already done is refused. -/
def setArchived (p : Principal) (id : Id) (archived : Bool) : Program Organization := do
  let o ← get p id
  if o.isArchived = archived then
    throw (.badRequest (if archived then "organization is already archived"
      else "organization is not archived"))
  call (.organizations (.update { o with isArchived := archived }))

def delete (p : Principal) (id : Id) : Program Unit := do
  p.requireAdmin
  call (.organizations (.delete id))

end Depot.Operation.Organizations
