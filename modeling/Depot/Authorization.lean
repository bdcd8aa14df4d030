import Depot.Program

namespace Depot

open Store

inductive Access where
  | allow
  | deny
  deriving Repr, DecidableEq, Inhabited

namespace Authorization

/-- Decides by the views of the operation and then, for a member, by the stored role. A role that
cannot be read is an error, never a refusal. -/
def evaluate (p : Principal) (permission : Permission) (memberView customerView : Bool) :
    Program Access :=
  match p.kind with
  | .admin => pure .allow
  | .customer => pure (if customerView then .allow else .deny)
  | .member _ roleId =>
    if memberView then do
      let role ← Program.call (.roles (.byId roleId))
      pure (if role.grants permission then .allow else .deny)
    else pure .deny

def grant (p : Principal) (permission : Permission) (memberView customerView : Bool) :
    Program Unit := do
  match ← evaluate p permission memberView customerView with
  | .allow => pure ()
  | .deny => .fail .notAuthorized

/-- Whether the principal runs the platform, or holds a role that administers an organization. -/
def administers (p : Principal) : Program Bool :=
  match p.kind with
  | .admin => pure true
  | .member _ roleId => do
    let role ← Program.call (.roles (.byId roleId))
    pure role.isOrgAdmin
  | .customer => pure false

end Authorization

end Depot
