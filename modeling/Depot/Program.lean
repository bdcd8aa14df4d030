import Depot.Store.Call

namespace Depot

open Store

inductive Program (α : Type) where
  | done (a : α)
  | fail (e : Error)
  | ask (c : Call) (next : Except Error c.Answer → Program α)

namespace Program

variable {α β σ : Type}

def bind : Program α → (α → Program β) → Program β
  | .done a, f => f a
  | .fail e, _ => .fail e
  | .ask c next, f => .ask c fun r => (next r).bind f

instance : Monad Program where
  pure := .done
  bind := bind

def attempt : Program α → Program (Except Error α)
  | .done a => .done (.ok a)
  | .fail e => .done (.error e)
  | .ask c next => .ask c fun r => (next r).attempt

def tryCatch (p : Program α) (recover : Error → Program α) : Program α :=
  match p with
  | .done a => .done a
  | .fail e => recover e
  | .ask c next => .ask c fun r => (next r).tryCatch recover

instance : MonadExcept Error Program := ⟨.fail, tryCatch⟩

def ofExcept : Except Error α → Program α
  | .ok a => .done a
  | .error e => .fail e

instance : MonadLift (Except Error) Program := ⟨ofExcept⟩

/-- One call whose error ends the program. -/
def call (c : Call) : Program c.Answer := .ask c ofExcept

/-- How long a call takes, and whether it is carried out even if nobody waits for it any longer. -/
structure Wait where
  millis : Nat
  lands : Bool
  deriving Repr, DecidableEq, Inhabited

def Wait.total : List Wait → Nat
  | [] => 0
  | w :: waits => w.millis + total waits

/-- A program that is given up once its calls have taken longer than the time. Calls beyond the waits
take none. -/
def within (p : Program α) (time : Nat) (waits : List Wait) : Program (Option α) :=
  match p, waits with
  | .done a, _ => .done (some a)
  | .fail e, _ => .fail e
  | .ask c next, [] => .ask c fun r => (next r).within time []
  | .ask c next, w :: waits =>
    if w.millis ≤ time then .ask c fun r => (next r).within (time - w.millis) waits
    else if w.lands then .ask c fun _ => .done none
    else .done none

/-- How a store in the state `σ` answers a call. -/
abbrev Handler (σ : Type) := (c : Call) → σ → Except Error c.Answer × σ

def run (handle : Handler σ) : Program α → σ → Except Error α × σ
  | .done a, s => (.ok a, s)
  | .fail e, s => (.error e, s)
  | .ask c next, s =>
    let (r, s) := handle c s
    (next r).run handle s

end Program

end Depot
