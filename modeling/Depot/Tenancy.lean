import Depot.Principal

namespace Depot.Principal

/-- Only an administrator sees rows outside the caller's own organization. -/
def ensureSameTenant (p : Principal) (owner : Option Id) (missing : Error) : Except Error Unit :=
  if p.isAdmin then .ok ()
  else match p.organization?, owner with
    | some own, some owner => if own = owner then .ok () else .error missing
    | _, _ => .error missing

/-- The organization that a new row belongs to: an administrator names it, a member writes into the
member's own whatever the request names. -/
def owningTenant (p : Principal) (requested : Option Id) : Except Error Id :=
  match p.kind with
  | .admin =>
    match requested with
    | some id => if id = 0 then .error (.badRequest "organization id is required") else .ok id
    | none => .error (.badRequest "organization id is required")
  | .member organization _ => .ok organization
  | .customer => .error .notPermitted

def requireAdmin (p : Principal) : Except Error Unit :=
  if p.isAdmin then .ok () else .error .notPermitted

end Depot.Principal
