import Depot.Authorization
import Depot.Tenancy

namespace Depot.Operation.Containers

open Store Program

structure Creation where
  description : Option String
  organizationId : Option Id
  deriving Repr, DecidableEq, Inhabited

def list (p : Principal) : Program (List Container) :=
  match p.kind with
  | .admin => call (.containers .list)
  | .member own _ => call (.containers (.ofOrganization own))
  | .customer => pure []

def visible (p : Principal) (c : Container) : Except Error Container := do
  p.ensureSameTenant c.organizationId .noContainer
  pure c

def get (p : Principal) (id : Id) : Program Container := do
  let c ← call (.containers (.byId id))
  visible p c

def getByUid (p : Principal) (uid : Uid) : Program Container := do
  let c ← call (.containers (.byUid uid))
  visible p c

def getByCode (p : Principal) (code : String) : Program Container := do
  let c ← call (.containers (.byCode code))
  visible p c

def create (p : Principal) (c : Creation) : Program Container := do
  let organization ← p.owningTenant c.organizationId
  call (.containers (.insert ⟨c.description, organization, p.id⟩))

def update (p : Principal) (id : Id) (description : Option String) : Program Container := do
  let c ← get p id
  call (.containers (.update { c with description := description }))

/-- Archives a container or takes it back; doing what is already done is refused. -/
def setArchived (p : Principal) (id : Id) (archived : Bool) : Program Container := do
  let c ← get p id
  if c.isArchived = archived then
    throw (.badRequest (if archived then "container is already archived"
      else "container is not archived"))
  call (.containers (.update { c with isArchived := archived }))

def delete (p : Principal) (id : Id) : Program Unit := do
  p.requireAdmin
  call (.containers (.delete id))

end Depot.Operation.Containers
