import Depot.Proofs.Gathering
import Depot.Proofs.Loads

namespace Depot.Loader

variable {ν : Type}

/-- The distinct keys that close a batch; one key is always let in. -/
def Config.limit (c : Config) : Nat := max 1 c.maxBatch

/-- A load, and the number of the batch that it joined. -/
structure Join where
  load : Nat
  request : Request
  batch : Nat

/-- A fetch with what comes of it. The time is that of its start or of its end. -/
structure Flight (ν : Type) where
  time : Nat
  batch : Batch
  outcome : Outcome ν

def Flight.cargo (f : Flight ν) : Batch × Outcome ν := (f.batch, f.outcome)

/-- What happens in a loader. -/
inductive Event (ν : Type) where
  | hit (load : Nat) (r : Request) (value : Option ν)
  | join (load : Nat) (r : Request) (batch : Nat)
  /-- The window of a batch ends, whether the batch is still open or not. -/
  | expiry (time batch : Nat)
  | fetch (time : Nat) (b : Batch) (o : Outcome ν)
  | landing (time : Nat) (b : Batch) (o : Outcome ν)

namespace Event

def load? : Event ν → Option (Nat × Request)
  | .hit load r _ | .join load r _ => some (load, r)
  | _ => none

def hit? : Event ν → Option Nat
  | .hit load _ _ => some load
  | _ => none

def join? : Event ν → Option Join
  | .join load r batch => some ⟨load, r, batch⟩
  | _ => none

def fetch? : Event ν → Option (Flight ν)
  | .fetch time b o => some ⟨time, b, o⟩
  | _ => none

def landing? : Event ν → Option (Flight ν)
  | .landing time b o => some ⟨time, b, o⟩
  | _ => none

def answers : Event ν → List (Answer ν)
  | .hit load r value => [⟨load, r.time, .ok value⟩]
  | .landing time b o => b.members.map fun x => ⟨x.1, time, State.tell o x.2⟩
  | _ => []

end Event

abbrev Log (ν : Type) := List (Event ν)

namespace Log

def loads (log : Log ν) : List (Nat × Request) := log.filterMap Event.load?

def hits (log : Log ν) : List Nat := log.filterMap Event.hit?

def joins (log : Log ν) : List Join := log.filterMap Event.join?

def joined (log : Log ν) (batch : Nat) : List (Nat × Request) :=
  (log.joins.filter (·.batch == batch)).map fun j => (j.load, j.request)

def opened (log : Log ν) : List Nat := (log.joins.map (·.batch)).eraseDups

def batch (log : Log ν) (number : Nat) : Batch := .gather number (log.joined number)

def fetches (log : Log ν) : List (Flight ν) := log.filterMap Event.fetch?

def landings (log : Log ν) : List (Flight ν) := log.filterMap Event.landing?

def answers (log : Log ν) : List (Answer ν) := log.flatMap Event.answers

section Concat

variable (log : Log ν) (e : Event ν)

theorem filterMap_concat {α : Type} (f : Event ν → Option α) :
    (log ++ [e]).filterMap f = log.filterMap f ++ (f e).toList := by
  rw [List.filterMap_append]
  cases h : f e <;> simp [h]

@[simp] theorem loads_concat : Log.loads (log ++ [e]) = log.loads ++ e.load?.toList :=
  log.filterMap_concat e _

@[simp] theorem hits_concat : Log.hits (log ++ [e]) = log.hits ++ e.hit?.toList :=
  log.filterMap_concat e _

@[simp] theorem joins_concat : Log.joins (log ++ [e]) = log.joins ++ e.join?.toList :=
  log.filterMap_concat e _

@[simp] theorem fetches_concat : Log.fetches (log ++ [e]) = log.fetches ++ e.fetch?.toList :=
  log.filterMap_concat e _

@[simp] theorem landings_concat : Log.landings (log ++ [e]) = log.landings ++ e.landing?.toList :=
  log.filterMap_concat e _

@[simp] theorem answers_concat : Log.answers (log ++ [e]) = log.answers ++ e.answers := by
  simp [answers]

variable {log e}

theorem joined_concat_of_not_join (log : Log ν) (h : e.join? = none) :
    Log.joined (log ++ [e]) = log.joined := by
  funext number
  simp only [joined, joins_concat, h, Option.toList_none, List.append_nil]

theorem head?_joined_concat {number : Nat} {x : Nat × Request} (h : x ∈ (log.joined number).head?) :
    x ∈ (Log.joined (log ++ [e]) number).head? := by
  simp only [joined, joins_concat, List.filter_append, List.map_append] at h ⊢
  rw [List.head?_append, Option.mem_def.1 h]
  rfl

theorem batch_concat_of_not_join (log : Log ν) (h : e.join? = none) :
    Log.batch (log ++ [e]) = log.batch := by
  funext number
  simp only [batch, joined_concat_of_not_join log h]

theorem opened_concat_of_not_join (h : e.join? = none) :
    Log.opened (log ++ [e]) = log.opened := by
  simp only [opened, joins_concat, h, Option.toList_none, List.append_nil]

theorem joined_concat_join (load : Nat) (r : Request) (number : Nat) :
    Log.joined (log ++ [.join load r number]) number = log.joined number ++ [(load, r)] := by
  simp [joined, Event.join?]

theorem joined_concat_join_of_ne {number other : Nat} (h : other ≠ number) (load : Nat)
    (r : Request) : Log.joined (log ++ [.join load r number]) other = log.joined other := by
  simp [joined, Event.join?, h.symm]

theorem batch_concat_join (load : Nat) (r : Request) (number : Nat) :
    Log.batch (log ++ [.join load r number]) number = (log.batch number).push r.key load := by
  simp [batch, joined_concat_join, Batch.gather_concat]

theorem batch_concat_join_of_ne (log : Log ν) {number other : Nat} (h : other ≠ number) (load : Nat)
    (r : Request) :
    Log.batch (log ++ [.join load r number]) other = log.batch other := by
  simp [batch, joined_concat_join_of_ne h]

theorem opened_concat_join (load : Nat) (r : Request) (number : Nat) :
    Log.opened (log ++ [.join load r number]) =
      if number ∈ log.opened then log.opened else log.opened ++ [number] := by
  have hmem : number ∈ log.opened ↔ number ∈ log.joins.map (·.batch) := List.mem_eraseDups
  simp only [hmem]
  simp only [opened, joins_concat, List.map_append]
  exact eraseDups_concat _ _

@[simp] theorem batch_number (number : Nat) : (log.batch number).number = number :=
  Batch.gather_number _ _

end Concat

theorem mem_joins {log : Log ν} {j : Join} :
    j ∈ log.joins ↔ .join j.load j.request j.batch ∈ log := by
  constructor
  · intro hj
    obtain ⟨e, he, hjoin⟩ := List.mem_filterMap.1 hj
    cases e with
    | join load r batch =>
      cases hjoin
      exact he
    | hit | expiry | fetch | landing => cases hjoin
  · intro he
    exact List.mem_filterMap.2 ⟨_, he, rfl⟩

theorem mem_landings {log : Log ν} {f : Flight ν} :
    f ∈ log.landings ↔ .landing f.time f.batch f.outcome ∈ log := by
  constructor
  · intro hf
    obtain ⟨e, he, hlanding⟩ := List.mem_filterMap.1 hf
    cases e with
    | landing time b o =>
      cases hlanding
      exact he
    | hit | join | expiry | fetch => cases hlanding
  · intro he
    exact List.mem_filterMap.2 ⟨_, he, rfl⟩

theorem mem_opened {log : Log ν} {number : Nat} :
    number ∈ log.opened ↔ ∃ j ∈ log.joins, j.batch = number := by
  rw [opened, List.mem_eraseDups, List.mem_map]

theorem fetches_append (log log' : Log ν) :
    Log.fetches (log ++ log') = log.fetches ++ Log.fetches log' :=
  List.filterMap_append

theorem mem_opened_append {log : Log ν} {number : Nat} (h : number ∈ log.opened) (log' : Log ν) :
    number ∈ Log.opened (log ++ log') := by
  obtain ⟨j, hj, hnumber⟩ := mem_opened.1 h
  refine mem_opened.2 ⟨j, ?_, hnumber⟩
  rw [joins, List.filterMap_append]
  exact List.mem_append_left _ hj

theorem joined_eq_nil_iff {log : Log ν} {number : Nat} :
    log.joined number = [] ↔ number ∉ log.opened := by
  simp only [joined, mem_opened, List.map_eq_nil_iff, List.filter_eq_nil_iff, beq_iff_eq,
    not_exists, not_and]

theorem mem_joined {log : Log ν} {number : Nat} {x : Nat × Request} :
    x ∈ log.joined number ↔ ⟨x.1, x.2, number⟩ ∈ log.joins := by
  simp only [joined, List.mem_map, List.mem_filter, beq_iff_eq]
  constructor
  · rintro ⟨j, ⟨hj, rfl⟩, rfl⟩
    exact hj
  · intro h
    exact ⟨_, ⟨h, rfl⟩, rfl⟩

theorem mem_batch_keys {log : Log ν} {number : Nat} {key : Id} :
    key ∈ (log.batch number).keys ↔ ∃ x ∈ log.joined number, x.2.key = key :=
  Batch.mem_gather_keys

end Log

namespace State

/-- The number of the batch that a load would join now: of the open one, or of the next. -/
def current (s : State ν) : Nat :=
  match s.pending with
  | some b => b.number
  | none => s.nextBatch

def event (s : State ν) (load : Nat) (r : Request) : Event ν :=
  match s.cached? r.key with
  | some value => .hit load r value
  | none => .join load r s.current

end State

namespace Timeline

/-- The moves of a loader by what happens in them. -/
inductive Happens (c : Config) (s : Source ν) (t : Timeline ν) : Event ν → Timeline ν → Prop
  | load {number : Nat} {r : Request} {rest : List (Nat × Request)}
    (h : t.requests = (number, r) :: rest) :
    Happens c s t (t.state.event number r) (takeRequest c t number r rest)
  | launch {b : Batch} {l l' : List Batch} (h : t.full = l ++ b :: l') (time : Nat) :
    Happens c s t (.fetch time b (s.fetch t.fetches.length b.keys))
      (launch s { t with full := l ++ l' } time b)
  | expire {due number : Nat} {l l' : List (Nat × Nat)} (h : t.windows = l ++ (due, number) :: l')
    (time : Nat) :
    Happens c s t (.expiry time number) { t with
      now := time
      state := (t.state.expire number).1
      full := (t.state.expire number).2.toList ++ t.full
      windows := l ++ l' }
  | land {due : Nat} {b : Batch} {o : Outcome ν} {l l' : List (Nat × Batch × Outcome ν)}
    (h : t.flights = l ++ (due, b, o) :: l') (time : Nat) :
    Happens c s t (.landing time b o) (land { t with flights := l ++ l' } time b o)

namespace Happens

variable {c : Config} {s : Source ν} {t t' : Timeline ν} {time number load : Nat} {r : Request}
variable {b : Batch} {o : Outcome ν}

theorem of_join (h : Happens c s t (.join load r number) t') :
    t.state.cached? r.key = none ∧ number = t.state.current ∧
      ∃ rest, t.requests = (load, r) :: rest ∧ t' = takeRequest c t load r rest := by
  generalize he : Event.join load r number = e at h
  cases h with
  | load h =>
    unfold State.event at he
    split at he
    · cases he
    · rename_i hv
      cases he
      exact ⟨hv, rfl, _, h, rfl⟩
  | expire h time => cases he
  | launch h time => cases he
  | land h time => cases he

theorem of_expiry (h : Happens c s t (.expiry time number) t') :
    ∃ due l l', t.windows = l ++ (due, number) :: l' ∧ t' = { t with
      now := time
      state := (t.state.expire number).1
      full := (t.state.expire number).2.toList ++ t.full
      windows := l ++ l' } := by
  generalize he : Event.expiry time number = e at h
  cases h with
  | load h =>
    unfold State.event at he
    split at he <;> cases he
  | expire h time =>
    cases he
    exact ⟨_, _, _, h, rfl⟩
  | launch h time => cases he
  | land h time => cases he

theorem of_landing (h : Happens c s t (.landing time b o) t') :
    ∃ due l l', t.flights = l ++ (due, b, o) :: l' ∧
      t' = Timeline.land { t with flights := l ++ l' } time b o := by
  generalize he : Event.landing time b o = e at h
  cases h with
  | load h =>
    unfold State.event at he
    split at he <;> cases he
  | expire h time => cases he
  | launch h time => cases he
  | land h time =>
    cases he
    exact ⟨_, _, _, h, rfl⟩

end Happens

theorem moves_iff_happens {c : Config} {s : Source ν} {t t' : Timeline ν} :
    Moves c s t t' ↔ ∃ e, Happens c s t e t' := by
  constructor
  · intro h
    cases h with
    | load h => exact ⟨_, .load h⟩
    | launch h time => exact ⟨_, .launch h time⟩
    | expire h time => exact ⟨_, .expire h time⟩
    | land h time => exact ⟨_, .land h time⟩
  · rintro ⟨e, h⟩
    cases h with
    | load h => exact .load h
    | launch h time => exact .launch h time
    | expire h time => exact .expire h time
    | land h time => exact .land h time

/-- What can happen from a state on. -/
inductive Course (c : Config) (s : Source ν) (t₀ : Timeline ν) : Log ν → Timeline ν → Prop
  | refl : Course c s t₀ [] t₀
  | next {log : Log ν} {t t' : Timeline ν} {e : Event ν} (h : Course c s t₀ log t)
    (he : Happens c s t e t') : Course c s t₀ (log ++ [e]) t'

namespace Course

variable {c : Config} {s : Source ν} {t₀ t t' : Timeline ν} {e : Event ν} {log log' : Log ν}

theorem single (he : Happens c s t e t') : Course c s t [e] t' := .next .refl he

theorem append (h : Course c s t₀ log t) (h' : Course c s t log' t') :
    Course c s t₀ (log ++ log') t' := by
  induction h' with
  | refl => rwa [List.append_nil]
  | next _ he ih =>
    rw [← List.append_assoc]
    exact ih.next he

theorem exists_of_concat (h : Course c s t₀ (log ++ [e]) t) :
    ∃ u, Course c s t₀ log u ∧ Happens c s u e t := by
  generalize hlog : log ++ [e] = whole at h
  cases h with
  | refl => exact absurd hlog (List.append_ne_nil_of_right_ne_nil _ (List.cons_ne_nil _ _))
  | next h he =>
    obtain ⟨rfl, heq⟩ := List.append_inj' hlog rfl
    obtain rfl := List.singleton_injective heq
    exact ⟨_, h, he⟩

theorem exists_of_append (h : Course c s t₀ (log ++ log') t) :
    ∃ u, Course c s t₀ log u ∧ Course c s u log' t := by
  induction log' using List.reverseRecOn generalizing t with
  | nil => exact ⟨t, by rwa [List.append_nil] at h, .refl⟩
  | append_singleton log' e ih =>
    rw [← List.append_assoc] at h
    obtain ⟨v, hv, he⟩ := h.exists_of_concat
    obtain ⟨u, hu, hu'⟩ := ih hv
    exact ⟨u, hu, hu'.next he⟩

theorem exists_of_append_cons (h : Course c s t₀ (log ++ e :: log') t) :
    ∃ u u', Course c s t₀ log u ∧ Happens c s u e u' ∧ Course c s u' log' t := by
  rw [List.append_cons] at h
  obtain ⟨u', hu, hu'⟩ := h.exists_of_append
  obtain ⟨u, hu, he⟩ := hu.exists_of_concat
  exact ⟨u, u', hu, he, hu'⟩

theorem exists_of_moves (h : Relation.ReflTransGen (Moves c s) t t') :
    ∃ log, Course c s t log t' := by
  induction h with
  | refl => exact ⟨[], .refl⟩
  | tail _ hm ih =>
    obtain ⟨log, h⟩ := ih
    obtain ⟨e, he⟩ := moves_iff_happens.1 hm
    exact ⟨_, h.next he⟩

end Course

end Timeline

end Depot.Loader
