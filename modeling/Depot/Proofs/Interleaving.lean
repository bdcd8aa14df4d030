import Depot.Proofs.Run

namespace Depot.Operation

open Program Store

/-- An act under way, with what is left of its program. -/
structure Task where
  act : Act
  rest : Program Reply

def Task.call (t : Task) (m : Memory) : Task × Memory :=
  match t.rest with
  | .ask c next => (⟨t.act, next (Memory.handle c m).1⟩, (Memory.handle c m).2)
  | .done _ | .fail _ => (t, m)

/-- A store, and the acts that are under way on it. -/
structure Traffic where
  tasks : List Task
  memory : Memory

/-- What may happen next: time passes, an act comes in, one of those under way makes its next call, or
one of them leaves, be it at its end or because nobody waits for it any more. -/
inductive Move where
  | tick (now : Timestamp)
  | enter (a : Act)
  | call (task : Nat)
  | leave (task : Nat)

namespace Traffic

variable (s : Accounts.Settings)

def move (t : Traffic) : Move → Traffic
  | .tick now => { t with memory := { t.memory with clock := now } }
  | .enter a => { t with tasks := t.tasks ++ [⟨a, a.perform s⟩] }
  | .call i =>
    match t.tasks[i]? with
    | some x => ⟨t.tasks.set i (x.call t.memory).1, (x.call t.memory).2⟩
    | none => t
  | .leave i => { t with tasks := t.tasks.eraseIdx i }

def after (clock : Timestamp) (moves : List Move) : Traffic :=
  moves.foldl (move s) ⟨[], Memory.empty clock⟩

end Traffic

variable {s : Accounts.Settings} {m : Memory} {past states : List Memory}

/-- What is left of the act keeps to its license, told by states that the act saw. -/
def Task.Lawful (s : Accounts.Settings) (states : List Memory) (x : Task) : Prop :=
  ∃ seen ⊆ states, Conforms Memory.handle (fun seen => Act.Licensed s seen x.act)
    (Reply.Justified x.act) seen x.rest

theorem Task.Lawful.mono {states' : List Memory} {x : Task} (hs : states ⊆ states')
    (h : x.Lawful s states) : x.Lawful s states' := by
  obtain ⟨seen, hseen, hx⟩ := h
  exact ⟨seen, List.Subset.trans hseen hs, hx⟩

/-- One call of an act continues the history, whatever other acts have done since its last one. -/
theorem Task.Lawful.call {x : Task} (hist : History s (m :: past)) (h : x.Lawful s (m :: past)) :
    ∃ past', History s ((x.call m).2 :: past') ∧ m :: past ⊆ (x.call m).2 :: past' ∧
      (x.call m).1.Lawful s ((x.call m).2 :: past') := by
  obtain ⟨a, rest⟩ := x
  cases rest with
  | done _ | fail _ => exact ⟨past, hist, List.Subset.refl _, h⟩
  | ask c next =>
    obtain ⟨seen, hseen, hc, hnext⟩ := h
    have hpast : m :: past ⊆ (Memory.handle c m).2 :: m :: past := List.subset_cons_self _ _
    refine ⟨m :: past, hist.call hseen hc, hpast, (Memory.handle c m).2 :: m :: seen, ?_, hnext m⟩
    apply List.cons_subset_cons
    exact List.cons_subset.2 ⟨List.mem_cons_self, hseen⟩

namespace Traffic

/-- The store has come to its state by a history that all tasks keep to. -/
structure Lawful (s : Accounts.Settings) (t : Traffic) (past : List Memory) : Prop where
  history : History s (t.memory :: past)
  tasks : ∀ x ∈ t.tasks, x.Lawful s (t.memory :: past)

theorem Lawful.move {t : Traffic} (h : t.Lawful s past) (step : Move) :
    ∃ past', (t.move s step).Lawful s past' := by
  cases step with
  | tick now =>
    refine ⟨t.memory :: past, h.history.tick now, fun x hx => ?_⟩
    exact (h.tasks x hx).mono (List.subset_cons_self _ _)
  | enter a =>
    refine ⟨past, h.history, fun x hx => ?_⟩
    obtain hx | hx := List.mem_append.1 hx
    · exact h.tasks x hx
    · obtain rfl := List.mem_singleton.1 hx
      exact ⟨[], List.nil_subset _, Act.perform_conforms s a⟩
  | call i =>
    cases hi : t.tasks[i]? with
    | none =>
      simp only [Traffic.move, hi]
      exact ⟨past, h⟩
    | some x =>
      have hx := h.tasks x (List.mem_of_getElem? hi)
      obtain ⟨past', hist, hpast, hx'⟩ := hx.call h.history
      simp only [Traffic.move, hi]
      refine ⟨past', hist, fun y hy => ?_⟩
      obtain hy | rfl := List.mem_or_eq_of_mem_set hy
      · exact (h.tasks y hy).mono hpast
      · exact hx'
  | leave i =>
    refine ⟨past, h.history, fun x hx => ?_⟩
    exact h.tasks x (List.mem_of_mem_eraseIdx hx)

theorem exists_lawful_after (s : Accounts.Settings) (clock : Timestamp) (moves : List Move) :
    ∃ past, (after s clock moves).Lawful s past := by
  have hstart : Lawful s ⟨[], Memory.empty clock⟩ [] :=
    ⟨.start clock, fun _ hx => absurd hx List.not_mem_nil⟩
  have hrun : ∀ t past, Lawful s t past → ∃ past', Lawful s (moves.foldl (Traffic.move s) t) past' := by
    induction moves with
    | nil => exact fun t past h => ⟨past, h⟩
    | cons step moves ih =>
      intro t past h
      obtain ⟨past', h'⟩ := h.move step
      exact ih _ past' h'
  exact hrun _ _ hstart

theorem exists_history_after (s : Accounts.Settings) (clock : Timestamp) (moves : List Move) :
    ∃ past, History s ((after s clock moves).memory :: past) := by
  obtain ⟨past, h⟩ := exists_lawful_after s clock moves
  exact ⟨past, h.history⟩

/-- Wherever a pallet stands, it stands in a container of its own organization. An act looks at the
container before it writes the pallet, and in between the container may go and the pallet may move; but
neither changes its owner, and the number of a container that is gone is not given out again. -/
theorem pallets_stand_with_their_owner (s : Accounts.Settings) (clock : Timestamp)
    (moves : List Move) {x : Pallet} (hx : x ∈ (after s clock moves).memory.pallets.rows) :
    (∃ own, x.organizationId = some own) ∧
      ∀ c ∈ (after s clock moves).memory.containers.rows, x.containerId = some c.id →
        c.organizationId = x.organizationId := by
  obtain ⟨past, hist⟩ := exists_history_after s clock moves
  have hl := hist.lineage
  have hborn := (hl.sound _ List.mem_cons_self).pallets.born x hx
  refine ⟨hborn.2, fun c hc hplace => ?_⟩
  exact hl.owner_of_content ⟨_, List.mem_cons_self, hx⟩ ⟨_, List.mem_cons_self, hc⟩ hplace

/-- A pallet is archived by one who read it before somebody else moved it: the move is undone, and
the pallet stands where it stood. -/
theorem stale_archiving_moves_the_pallet_back :
    ∃ (moves : List Move) (x : Pallet) (c : Container),
      x ∈ (after ⟨"k", 60, 4⟩ ⟨0⟩ moves).memory.pallets.rows ∧
      c ∈ (after ⟨"k", 60, 4⟩ ⟨0⟩ moves).memory.containers.rows ∧
      x.isArchived = true ∧ x.containerId = some c.id ∧ c.organizationId = x.organizationId := by
  let p : Principal := ⟨1, .member 1 1⟩
  let moves : List Move :=
    [.enter (.registerOrganization ⟨"A", none, ⟨"A", "A", "a", "1", "secret"⟩⟩), .call 0,
      .enter (.job p (.containerCreate ⟨none, none⟩)), .call 1,
      .enter (.job p (.containerCreate ⟨none, none⟩)), .call 2,
      .enter (.job p (.palletCreate ⟨none, none, some 1⟩)), .call 3, .call 3,
      .enter (.job p (.palletArchive 1 true)), .call 4,
      .enter (.job p (.palletUpdate ⟨1, none, some 2⟩)), .call 5, .call 5, .call 5, .call 4]
  let x : Pallet := ⟨1, Uid.drawn 2, "PLT00001", none, true, some 1, some 1, 1, ⟨0⟩, ⟨0⟩⟩
  let c : Container := ⟨1, Uid.drawn 0, "CNT00001", none, false, some 1, 1, ⟨0⟩, ⟨0⟩⟩
  have hx : x ∈ (after ⟨"k", 60, 4⟩ ⟨0⟩ moves).memory.pallets.rows := by decide +kernel
  have hc : c ∈ (after ⟨"k", 60, 4⟩ ⟨0⟩ moves).memory.containers.rows := by decide +kernel
  have hstands := pallets_stand_with_their_owner ⟨"k", 60, 4⟩ ⟨0⟩ moves hx
  exact ⟨moves, x, c, hx, hc, rfl, rfl, hstands.2 c hc rfl⟩

end Traffic

end Depot.Operation
