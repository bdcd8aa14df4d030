import Depot.Principal

namespace Depot.Loader

/-- How long a batch stays open, and how many distinct keys close it before that. -/
structure Config where
  wait : Nat
  maxBatch : Nat
  deriving Repr, DecidableEq, Inhabited

/-- Loads that one fetch will answer: the distinct keys in the order of their first request, and for
each key the numbers of the loads that wait for it. -/
structure Batch where
  number : Nat
  keys : List Id
  waiters : List (Id × List Nat)
  deriving Repr, DecidableEq, Inhabited

/-- What became of a fetch; a lost one gives no answer at all. -/
inductive Outcome (ν : Type) where
  | rows (rows : List (Id × ν))
  | failed (e : Error)
  | lost

abbrev Result (ν : Type) := Except Error (Option ν)

structure State (ν : Type) where
  cache : List (Id × Option ν)
  pending : Option Batch
  nextBatch : Nat

/-- The effect of one load: the answer if it is cached, the number of a batch whose window starts,
and a batch that is full. -/
structure Loaded (ν : Type) where
  state : State ν
  answer : Option (Option ν)
  opened : Option Nat
  closed : Option Batch

variable {ν : Type}

namespace Batch

def empty (number : Nat) : Batch := ⟨number, [], []⟩

def push (b : Batch) (key : Id) (load : Nat) : Batch :=
  if b.waiters.any (·.1 == key) then
    { b with waiters := b.waiters.map fun w => if w.1 == key then (w.1, w.2 ++ [load]) else w }
  else { b with keys := b.keys ++ [key], waiters := b.waiters ++ [(key, [load])] }

def isFull (b : Batch) (c : Config) : Bool := c.maxBatch ≤ b.keys.length

end Batch

namespace State

def empty : State ν := ⟨[], none, 0⟩

def cached? (s : State ν) (key : Id) : Option (Option ν) :=
  (s.cache.find? (·.1 == key)).map (·.2)

def keepOrClose (c : Config) (s : State ν) (b : Batch) (opened : Option Nat) : Loaded ν :=
  if b.isFull c then ⟨{ s with pending := none }, none, opened, some b⟩
  else ⟨{ s with pending := some b }, none, opened, none⟩

def load (c : Config) (s : State ν) (load : Nat) (key : Id) : Loaded ν :=
  match s.cached? key with
  | some v => ⟨s, some v, none, none⟩
  | none =>
    match s.pending with
    | some b => keepOrClose c s (b.push key load) none
    | none =>
      keepOrClose c { s with nextBatch := s.nextBatch + 1 }
        ((Batch.empty s.nextBatch).push key load) (some s.nextBatch)

/-- The window of a batch ends: the batch is closed unless it was before. -/
def expire (s : State ν) (number : Nat) : State ν × Option Batch :=
  match s.pending with
  | some b => if b.number = number then ({ s with pending := none }, some b) else (s, none)
  | none => (s, none)

/-- The value of the last row of that key. -/
def lastValue (rows : List (Id × ν)) (key : Id) : Option ν :=
  (rows.reverse.find? (·.1 == key)).map (·.2)

def dropped : Error := .internal "loader batch was dropped"

def tell (o : Outcome ν) (key : Id) : Result ν :=
  match o with
  | .rows rows => .ok (lastValue rows key)
  | .failed e => .error e
  | .lost => .error dropped

/-- A fetch ends: its loads are answered, and what it found is cached. -/
def settle (s : State ν) (b : Batch) (o : Outcome ν) : State ν × List (Nat × Result ν) :=
  let answers := b.waiters.flatMap fun w => w.2.map fun load => (load, tell o w.1)
  match o with
  | .rows rows => ({ s with cache := b.keys.map (fun k => (k, lastValue rows k)) ++ s.cache }, answers)
  | _ => (s, answers)

end State

end Depot.Loader
