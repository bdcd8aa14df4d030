import Depot.Config
import Depot.Sql.Migration
import Depot.Sql.Repository

namespace Depot.Startup

open Operation

inductive Fault where
  | unreachable
  | outdated
  | noAdminEmail
  | noAdminPassword
  | noAdmin (cause : Error)
  | unbound
  deriving Repr, DecidableEq, Inhabited

def Fault.text : Fault → String
  | .unreachable => "Falha ao conectar ao banco de dados"
  | .outdated => "Falha ao rodar as migrações do banco de dados"
  | .noAdminEmail => "SEED_ADMIN_EMAIL deve ser definido"
  | .noAdminPassword => "SEED_ADMIN_PASSWORD deve ser definido"
  | .noAdmin cause => "Falha ao criar o administrador: " ++ cause.text
  | .unbound => "Falha ao iniciar o listener TCP"

def prepare {σ : Type} (db : Sql.Script.Database σ) (s : σ) : Except Fault Unit × σ :=
  let (r, s) := (Sql.Migration.run Sql.Migration.all).run db s
  (match r with
    | .ok _ => .ok ()
    | .error _ => .error .outdated, s)

/-- The administrator that the settings name; the address is asked for before the password. -/
def adminOf (c : Config) : Except Fault (String × String × String) :=
  match c.adminEmail, c.adminPassword with
  | none, _ => .error .noAdminEmail
  | some _, none => .error .noAdminPassword
  | some email, some password => .ok (email, c.adminPhone, password)

/-- Creates the administrator of the settings in a store, unless there is one. -/
def seed {σ : Type} (handle : Program.Handler σ) (settings : Accounts.Settings) (c : Config) (s : σ) :
    Except Fault (Option User) × σ :=
  match adminOf c with
  | .error f => (.error f, s)
  | .ok (email, phone, password) =>
    let (r, s) := (Accounts.seedAdmin settings email phone password).run handle s
    (match r with
      | .ok u => .ok u
      | .error e => .error (.noAdmin e), s)

/-- Where to listen. -/
structure Address where
  host : String
  port : Nat
  deriving Repr, DecidableEq, Inhabited

/-- A host and a port around the last colon. -/
def Address.ofText? (s : String) : Option Address :=
  let r := s.toList.reverse
  match r.dropWhile (· != ':') with
  | [] => none
  | _ :: host =>
    match (⟨0, 0xFFFF⟩ : Text.IntegerRange).read (String.ofList (r.takeWhile (· != ':')).reverse) with
    | .ok port => some ⟨String.ofList host.reverse, port.toNat⟩
    | .error _ => none

def address (c : Config) : Except Fault Address :=
  match Address.ofText? c.serverAddress with
  | some a => .ok a
  | none => .error .unbound

end Depot.Startup
