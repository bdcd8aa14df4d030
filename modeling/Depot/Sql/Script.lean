import Depot.Password
import Depot.Sql.Cell

namespace Depot.Sql

inductive Param where
  | null
  | int (n : Int)
  | bool (b : Bool)
  | text (s : String)
  | texts (ss : List String)
  | ints (ns : List Int)
  | uid (u : Uid)
  | hash (h : PasswordHash)
  deriving Repr, DecidableEq, Inhabited

def Param.ofInt? : Option Int → Param
  | some n => .int n
  | none => .null

def Param.ofText? : Option String → Param
  | some s => .text s
  | none => .null

/-- A statement with the values of its numbered parameters, and the columns of the rows that it
gives back. -/
structure Statement where
  sql : String
  params : List Param
  columns : Columns
  deriving Repr, DecidableEq, Inhabited

def RowKind.statement {α : Type} (k : RowKind α) (sql : String) (params : List Param) : Statement :=
  ⟨sql, params, k.columns⟩

inductive Command where
  | begin
  | commit
  | rollback
  | execute (s : Statement)
  deriving Repr, DecidableEq, Inhabited

def Command.text : Command → String
  | .begin => "BEGIN"
  | .commit => "COMMIT"
  | .rollback => "ROLLBACK"
  | .execute s => s.sql

/-- The rows that a statement gave back, and how many it touched. -/
structure Reply where
  rows : List Row
  affected : Nat
  deriving Repr, DecidableEq, Inhabited

inductive Script (α : Type) where
  | done (a : α)
  | fail (e : Error)
  | send (c : Command) (next : Except DatabaseFault Reply → Script α)

namespace Script

variable {α β σ : Type}

def bind : Script α → (α → Script β) → Script β
  | .done a, f => f a
  | .fail e, _ => .fail e
  | .send c next, f => .send c fun r => (next r).bind f

instance : Monad Script where
  pure := .done
  bind := bind

/-- Rolls back, whatever the database says to it, and fails. -/
def abandon (e : Error) : Script α := .send .rollback fun _ => .fail e

/-- Ends a transaction: what was done in it counts only once it is committed. -/
def close : Script α → Script α
  | .done a => .send .commit fun
    | .ok _ => .done a
    | .error f => abandon f.toError
  | .fail e => abandon e
  | .send c next => .send c fun r => (next r).close

/-- Runs a script as one transaction. If it cannot be begun, nothing follows. -/
def transaction (body : Script α) : Script α :=
  .send .begin fun
    | .ok _ => body.close
    | .error f => .fail f.toError

/-- Sends a statement; `blame` words the error if it is refused. -/
def reply (blame : DatabaseFault → Error) (s : Statement) : Script Reply :=
  .send (.execute s) fun
    | .ok r => .done r
    | .error f => .fail (blame f)

def lift (blame : DatabaseFault → Error) : Except DatabaseFault α → Script α
  | .ok a => .done a
  | .error f => .fail (blame f)

def first? (blame : DatabaseFault → Error) (k : RowKind α) (s : Statement) : Script (Option α) := do
  let r ← reply blame s
  match r.rows with
  | [] => pure none
  | row :: _ => some <$> lift blame (k.read row)

def first (blame : DatabaseFault → Error) (k : RowKind α) (s : Statement) : Script α := do
  match ← first? blame k s with
  | some a => pure a
  | none => .fail (blame .noRow)

def found (blame : DatabaseFault → Error) (k : RowKind α) (s : Statement) : Script α := do
  match ← first? blame k s with
  | some a => pure a
  | none => .fail k.missing

def all (k : RowKind α) (s : Statement) : Script (List α) := do
  let r ← reply DatabaseFault.toError s
  lift DatabaseFault.toError (r.rows.mapM k.read)

def touch (blame : DatabaseFault → Error) (missing : Error) (s : Statement) : Script Unit := do
  let r ← reply blame s
  if r.affected = 0 then .fail missing else pure ()

abbrev Database (σ : Type) := Command → σ → Except DatabaseFault Reply × σ

def run (db : Database σ) : Script α → σ → Except Error α × σ
  | .done a, s => (.ok a, s)
  | .fail e, s => (.error e, s)
  | .send c next, s =>
    let (r, s) := db c s
    (next r).run db s

end Script

end Depot.Sql
