import Depot.Authorization
import Depot.Tenancy
import Depot.Text.Blank

namespace Depot.Operation.Roles

open Store Program

structure Creation where
  name : String
  permissions : List String
  isOrgAdmin : Bool
  organizationId : Option Id
  deriving Repr, DecidableEq, Inhabited

structure Change where
  id : Id
  name : String
  permissions : List String
  isArchived : Bool
  deriving Repr, DecidableEq, Inhabited

/-- A member sees the roles of the member's own organization, an administrator all of them or those
of one organization. -/
def list (p : Principal) (organization : Option Id) : Program (List Role) :=
  match p.kind with
  | .admin =>
    match organization with
    | some o => call (.roles (.ofOrganization o))
    | none => call (.roles .list)
  | .member own _ => call (.roles (.ofOrganization own))
  | .customer => throw .notPermitted

def visible (p : Principal) (r : Role) : Except Error Role := do
  p.ensureSameTenant (some r.organizationId) .noRole
  pure r

def get (p : Principal) (id : Id) : Program Role := do
  let r ← call (.roles (.byId id))
  visible p r

def getByCode (p : Principal) (code : String) : Program Role := do
  let r ← call (.roles (.byCode code))
  visible p r

def nameRequired : Error := .badRequest "name is required"

def permissionsRequired : Error := .badRequest "permissions are required"

/-- Only who administers an organization may create another role that does. -/
def create (p : Principal) (c : Creation) : Program Role := do
  if Text.isBlankText c.name then
    throw nameRequired
  let permissions := if c.isOrgAdmin then [] else Permission.known c.permissions
  if !c.isOrgAdmin && permissions.isEmpty then
    throw permissionsRequired
  let organization ← p.owningTenant c.organizationId
  if p.isAdmin then
    let _ ← call (.organizations (.byId organization))
  if c.isOrgAdmin then
    let administers ← Authorization.administers p
    if !administers then
      throw .notPermitted
  call (.roles (.insert ⟨Text.trim c.name, permissions, c.isOrgAdmin, organization⟩))

/-- The list of permissions must not be empty even where it is not used, in a role that
administers. -/
def update (p : Principal) (c : Change) : Program Role := do
  if Text.isBlankText c.name then
    throw nameRequired
  if c.permissions.isEmpty then
    throw permissionsRequired
  let r ← get p c.id
  call (.roles (.update
    { r with
      name := Text.trim c.name
      permissions := if r.isOrgAdmin then r.permissions else Permission.known c.permissions
      isArchived := c.isArchived }))

def delete (p : Principal) (id : Id) : Program Unit := do
  p.requireAdmin
  call (.roles (.delete id))

end Depot.Operation.Roles
