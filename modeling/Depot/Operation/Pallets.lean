import Depot.Authorization
import Depot.Tenancy

namespace Depot.Operation.Pallets

open Store Program

structure Creation where
  description : Option String
  organizationId : Option Id
  containerId : Option Id
  deriving Repr, DecidableEq, Inhabited

structure Change where
  id : Id
  description : Option String
  containerId : Option Id
  deriving Repr, DecidableEq, Inhabited

/-- The pallets of one container, if the caller sees the container, or all that the caller sees. -/
def list (p : Principal) (container : Option Id) : Program (List Pallet) :=
  match container with
  | some id => do
    let c ← call (.containers (.byId id))
    p.ensureSameTenant c.organizationId .noContainer
    call (.pallets (.ofContainer c.id))
  | none =>
    match p.kind with
    | .admin => call (.pallets .list)
    | .member own _ => call (.pallets (.ofOrganization own))
    | .customer => pure []

def visible (p : Principal) (x : Pallet) : Except Error Pallet := do
  p.ensureSameTenant x.organizationId .noPallet
  pure x

def get (p : Principal) (id : Id) : Program Pallet := do
  let x ← call (.pallets (.byId id))
  visible p x

def getByUid (p : Principal) (uid : Uid) : Program Pallet := do
  let x ← call (.pallets (.byUid uid))
  visible p x

def getByCode (p : Principal) (code : String) : Program Pallet := do
  let x ← call (.pallets (.byCode code))
  visible p x

def foreignContainer : Error := .notFound "no container found with given container id"

/-- Requires a container of the organization; a missing one and another's are told alike. -/
def requireContainer (container organization : Id) : Program Unit :=
  .ask (.containers (.byId container)) fun
    | .ok c => if c.organizationId = some organization then pure () else throw foreignContainer
    | .error (.notFound _) => throw foreignContainer
    | .error e => throw e

def create (p : Principal) (c : Creation) : Program Pallet := do
  let organization ← p.owningTenant c.organizationId
  if let some container := c.containerId then
    requireContainer container organization
  call (.pallets (.insert ⟨c.description, organization, c.containerId, p.id⟩))

/-- A pallet that stays where it is needs no look at its container. -/
def update (p : Principal) (c : Change) : Program Pallet := do
  let x ← get p c.id
  if c.containerId ≠ x.containerId then
    match c.containerId, x.organizationId with
    | some container, some organization => requireContainer container organization
    | _, _ => pure ()
  call (.pallets (.update { x with description := c.description, containerId := c.containerId }))

/-- Archives a pallet or takes it back; doing what is already done is refused. -/
def setArchived (p : Principal) (id : Id) (archived : Bool) : Program Pallet := do
  let x ← get p id
  if x.isArchived = archived then
    throw (.badRequest (if archived then "pallet is already archived" else "pallet is not archived"))
  call (.pallets (.update { x with isArchived := archived }))

def delete (p : Principal) (id : Id) : Program Unit := do
  p.requireAdmin
  call (.pallets (.delete id))

end Depot.Operation.Pallets
