import Depot.Loader

namespace Depot.Loader

variable {ν : Type}

/-- One request for a key. -/
structure Request where
  time : Nat
  key : Id
  deriving Repr, DecidableEq, Inhabited

/-- One fetch, with its keys. -/
structure Fetch where
  time : Nat
  keys : List Id
  deriving Repr, DecidableEq, Inhabited

/-- The answer to a load, by the number of the load. -/
structure Answer (ν : Type) where
  load : Nat
  time : Nat
  result : Result ν

/-- How a source answers its fetches: by the number of the fetch and its keys. -/
structure Source (ν : Type) where
  duration : Nat
  fetch : Nat → List Id → Outcome ν

/-- A source that serves rows from a table. Fetches of some numbers fail or are lost; the others get the
rows of their keys, or all rows from a table that does not look at keys. -/
structure Served (ν : Type) where
  rows : List (Id × ν)
  duration : Nat
  failing : List Int
  lost : List Int
  ignoresKeys : Bool

def Served.source (t : Served ν) : Source ν where
  duration := t.duration
  fetch n keys :=
    if t.lost.contains n then .lost
    else if t.failing.contains n then
      .failed (.notFound ("fetch " ++ toString n ++ " failed"))
    else .rows (if t.ignoresKeys then t.rows else t.rows.filter (keys.contains ·.1))

/-- A loader at an instant: loads to come, full batches that wait for their fetch, windows that will
end, fetches under way, and all that happened so far. -/
structure Timeline (ν : Type) where
  now : Nat
  state : State ν
  requests : List (Nat × Request)
  full : List Batch
  windows : List (Nat × Nat)
  flights : List (Nat × Batch × Outcome ν)
  fetches : List Fetch
  answers : List (Answer ν)

namespace Timeline

def start (requests : List Request) : Timeline ν :=
  ⟨0, .empty, (List.range requests.length).zip requests, [], [], [], [], []⟩

def takeRequest (c : Config) (t : Timeline ν) (number : Nat) (r : Request)
    (rest : List (Nat × Request)) : Timeline ν :=
  let l := t.state.load c number r.key
  { t with
    now := r.time
    state := l.state
    requests := rest
    full := t.full ++ l.closed.toList
    windows := t.windows ++ l.opened.toList.map fun n => (r.time + c.wait, n)
    answers := t.answers ++ l.answer.toList.map fun v => ⟨number, r.time, .ok v⟩ }

def launch (s : Source ν) (t : Timeline ν) (time : Nat) (b : Batch) : Timeline ν :=
  { t with
    now := time
    flights := t.flights ++ [(time + s.duration, b, s.fetch t.fetches.length b.keys)]
    fetches := t.fetches ++ [⟨time, b.keys⟩] }

def endWindow (s : Source ν) (t : Timeline ν) (time number : Nat) : Timeline ν :=
  match t.state.expire number with
  | (state, some b) => launch s { t with state := state } time b
  | (state, none) => { t with now := time, state := state }

def land (t : Timeline ν) (time : Nat) (b : Batch) (o : Outcome ν) : Timeline ν :=
  let (state, answers) := t.state.settle b o
  { t with
    now := time
    state := state
    answers := t.answers ++ answers.map fun (load, result) => ⟨load, time, result⟩ }

/-- Whether what is due at `time` comes no later than any of the others. -/
def leads (time : Nat) (others : List (Option Nat)) : Bool := others.all fun o => o.all (time ≤ ·)

def windowDue (t : Timeline ν) : Option Nat := t.windows.head?.map (·.1)

def flightDue (t : Timeline ν) : Option Nat := t.flights.head?.map (·.1)

def stepFlight (t : Timeline ν) : Option (Timeline ν) :=
  match t.flights with
  | (time, b, o) :: flights => some (land { t with flights := flights } time b o)
  | [] => none

def stepWindow (s : Source ν) (t : Timeline ν) : Option (Timeline ν) :=
  match t.windows with
  | (time, n) :: windows =>
    if leads time [t.flightDue] then some (endWindow s { t with windows := windows } time n)
    else stepFlight t
  | [] => stepFlight t

/-- A full batch is fetched in the instant in which it was filled. -/
def stepFull (s : Source ν) (t : Timeline ν) : Option (Timeline ν) :=
  match t.full with
  | b :: full => some (launch s { t with full := full } t.now b)
  | [] => stepWindow s t

def step (c : Config) (s : Source ν) (t : Timeline ν) : Option (Timeline ν) :=
  match t.requests with
  | (number, r) :: rest =>
    if leads r.time [t.full.head?.map fun _ => t.now, t.windowDue, t.flightDue] then
      some (takeRequest c t number r rest)
    else stepFull s t
  | [] => stepFull s t

def advance (c : Config) (s : Source ν) : Nat → Timeline ν → Timeline ν
  | 0, t => t
  | fuel + 1, t =>
    match step c s t with
    | some t => advance c s fuel t
    | none => t

/-- A load makes at most four events: itself, the fetch of a full batch, the end of a window and an
answer. -/
def run (c : Config) (s : Source ν) (requests : List Request) : Timeline ν :=
  advance c s (4 * requests.length) (start requests)

end Timeline

end Depot.Loader
