import Depot.Loader.Entities

namespace Depot.GraphQL

open Loader

inductive Fetch (α : Type) where
  | done (a : α)
  | load (refs : List Ref) (next : List (Result Entity) → Fetch α)

namespace Fetch

variable {α β γ : Type}

def map (f : α → β) : Fetch α → Fetch β
  | .done a => .done (f a)
  | .load refs next => .load refs fun rs => (next rs).map f

/-- Waits for both at once, the loads of the first in front. -/
def both (f : α → β → γ) : Fetch α → Fetch β → Fetch γ
  | .done a, y => y.map (f a)
  | .load refs next, .done b => .load refs fun rs => (next rs).map fun a => f a b
  | .load refs next, .load refs' next' =>
    .load (refs ++ refs') fun rs =>
      both f (next (rs.take refs.length)) (next' (rs.drop refs.length))

def all : List (Fetch α) → Fetch (List α)
  | [] => .done []
  | x :: rest => both List.cons x (all rest)

def one (ref : Ref) (next : Result Entity → Fetch α) : Fetch α :=
  .load [ref] fun
    | r :: _ => next r
    | [] => next (.error State.dropped)

def run (c : Loader.Config) (l : Loaders) : Fetch α → Program (Loaders × α)
  | .done a => pure (l, a)
  | .load refs next => do
    let (l, rs) ← l.loadAll c refs
    (next rs).run c l

end Fetch

end Depot.GraphQL
