import Depot.Proofs.Edits
import Depot.Proofs.Interleaving

namespace Depot.Operation

open Program Store

variable {s : Accounts.Settings} {m : Memory} {key : RowType × Id} {row old : Row} {f : Row → Row}
variable {x y : Task}

namespace Task

theorem call_of_over (h : x.rest.Over) (m : Memory) : x.call m = (x, m) := by
  obtain ⟨a, rest⟩ := x
  cases rest with
  | ask => exact h.elim
  | done | fail => rfl

theorem call_of_edits (h : Edits key f x.rest) (hrow : m.row? key = some row) :
    Commits (f row) (x.call m).1.rest ∧ (x.call m).2 = m := by
  obtain ⟨a, rest⟩ := x
  cases h with
  | fail e => exact ⟨.fail e, rfl⟩
  | read hc hnext => exact ⟨hnext m row hrow, hc.handle_eq m⟩

theorem call_of_commits (h : Commits row x.rest) (hold : m.row? key = some old)
    (halike : row.Alike old) :
    (Commits row (x.call m).1.rest ∧ (x.call m).2 = m) ∨
      ((x.call m).1.rest.Over ∧ (x.call m).2.row? key = some row) := by
  obtain ⟨a, rest⟩ := x
  cases h with
  | fail e => exact .inl ⟨.fail e, rfl⟩
  | look hc hnext => exact .inl ⟨hnext _, hc.handle_eq m⟩
  | put hc hnext => exact .inr ⟨hnext _, Memory.row?_put hc hold halike⟩

/-- The row is still to be put in the place of one like it, or it has been put. -/
def Lands (key : RowType × Id) (row : Row) (p : Program Reply) (m : Memory) : Prop :=
  (Commits row p ∧ ∃ old, m.row? key = some old ∧ row.Alike old) ∨ p.Over ∧ m.row? key = some row

theorem Lands.call (h : Lands key row x.rest m) : Lands key row (x.call m).1.rest (x.call m).2 := by
  obtain ⟨hx, old, hold, halike⟩ | ⟨hx, hrow⟩ := h
  · obtain ⟨hx', hm⟩ | hlanded := call_of_commits hx hold halike
    · rw [hm]
      exact .inl ⟨hx', old, hold, halike⟩
    · exact .inr hlanded
  · rw [call_of_over hx]
    exact .inr ⟨hx, hrow⟩

theorem Lands.row?_of_done {reply : Reply} (h : Lands key row x.rest m)
    (hx : x.rest = .done reply) : m.row? key = some row := by
  obtain ⟨hcommits, -⟩ | ⟨-, hrow⟩ := h
  · rw [hx] at hcommits
    exact absurd hcommits Commits.not_done
  · exact hrow

/-- The row of that key is still to be read, or what the edit makes of it is to be put or has been put. -/
def Works (key : RowType × Id) (j : Job) (old : Row) (p : Program Reply) (m : Memory) : Prop :=
  (Edits key j.edit p ∧ m.row? key = some old) ∨ Lands key (j.edit old) p m

theorem Works.call {j : Job} (h : Works key j old x.rest m) :
    Works key j old (x.call m).1.rest (x.call m).2 := by
  obtain ⟨hx, hold⟩ | hlands := h
  · obtain ⟨hx', hm⟩ := call_of_edits hx hold
    rw [hm]
    exact .inr (.inl ⟨hx', old, hold, j.edit_alike old⟩)
  · exact .inr hlands.call

theorem Works.row?_of_done {j : Job} {reply : Reply} (h : Works key j old x.rest m)
    (hx : x.rest = .done reply) : m.row? key = some (j.edit old) := by
  obtain ⟨hedits, -⟩ | hlands := h
  · rw [hx] at hedits
    exact absurd hedits Edits.not_done
  · exact hlands.row?_of_done hx

end Task

namespace Traffic

variable {t : Traffic} {i j k : Nat} {order : List Nat}

def calls (s : Accounts.Settings) (t : Traffic) (order : List Nat) : Traffic :=
  order.foldl (fun t i => t.move s (.call i)) t

@[simp] theorem calls_nil : t.calls s [] = t := rfl

@[simp] theorem calls_cons : t.calls s (i :: order) = (t.move s (.call i)).calls s order := rfl

theorem calls_append (first rest : List Nat) :
    t.calls s (first ++ rest) = (t.calls s first).calls s rest := List.foldl_append

def Answered (t : Traffic) (i : Nat) : Prop :=
  ∃ x reply, t.tasks[i]? = some x ∧ x.rest = .done reply

instance (t : Traffic) (i : Nat) : Decidable (t.Answered i) :=
  match h : t.tasks[i]? with
  | some ⟨a, .done reply⟩ => isTrue ⟨⟨a, .done reply⟩, reply, h, rfl⟩
  | some ⟨_, .fail _⟩ | some ⟨_, .ask ..⟩ | none => isFalse fun ⟨_, _, hx, hreply⟩ => by
    rw [h] at hx
    cases hx <;> cases hreply

/-- The task of the first number has answered before that of the second one makes a call. -/
def Precedes (s : Accounts.Settings) (t : Traffic) (i j : Nat) (order : List Nat) : Prop :=
  ∃ first rest, order = first ++ rest ∧ j ∉ first ∧ (t.calls s first).Answered i

/-- The task of the first number has answered when that of the second one has not. -/
def EndsBefore (s : Accounts.Settings) (t : Traffic) (i j : Nat) (order : List Nat) : Prop :=
  ∃ first rest, order = first ++ rest ∧ (t.calls s first).Answered i ∧
    ¬ (t.calls s first).Answered j

theorem Precedes.cons (h : (t.move s (.call k)).Precedes s i j order) (hk : k ≠ j) :
    t.Precedes s i j (k :: order) := by
  obtain ⟨first, rest, rfl, hfirst, hanswered⟩ := h
  exact ⟨k :: first, rest, rfl, by simp [hk.symm, hfirst], hanswered⟩

theorem EndsBefore.cons (h : (t.move s (.call k)).EndsBefore s i j order) :
    t.EndsBefore s i j (k :: order) := by
  obtain ⟨first, rest, rfl, hanswered⟩ := h
  exact ⟨k :: first, rest, rfl, hanswered⟩

/-- There are two tasks, of these numbers. -/
structure Pair (t : Traffic) (i j : Nat) (x y : Task) : Prop where
  ne : i ≠ j
  left : t.tasks[i]? = some x
  right : t.tasks[j]? = some y
  rest : ∀ k, k ≠ i → k ≠ j → t.tasks[k]? = none

namespace Pair

theorem symm (h : t.Pair i j x y) : t.Pair j i y x :=
  ⟨h.ne.symm, h.right, h.left, fun k hj hi => h.rest k hi hj⟩

theorem answered_iff (h : t.Pair i j x y) : t.Answered i ↔ ∃ reply, x.rest = .done reply := by
  constructor
  · rintro ⟨x', reply, hx', hreply⟩
    obtain rfl : x = x' := Option.some.inj (h.left.symm.trans hx')
    exact ⟨reply, hreply⟩
  · rintro ⟨reply, hreply⟩
    exact ⟨x, reply, h.left, hreply⟩

theorem move_eq (h : t.Pair i j x y) :
    t.move s (.call i) = ⟨t.tasks.set i (x.call t.memory).1, (x.call t.memory).2⟩ := by
  simp only [move, h.left]

theorem call (h : t.Pair i j x y) : (t.move s (.call i)).Pair i j (x.call t.memory).1 y := by
  rw [h.move_eq]
  refine ⟨h.ne, ?_, ?_, fun k hi hj => ?_⟩
  · exact List.getElem?_set_self (List.getElem?_eq_some_iff.1 h.left).1
  · rw [List.getElem?_set_ne h.ne]
    exact h.right
  · rw [List.getElem?_set_ne hi.symm]
    exact h.rest k hi hj

theorem memory_call (h : t.Pair i j x y) :
    (t.move s (.call i)).memory = (x.call t.memory).2 := by
  rw [h.move_eq]

theorem call_of_over (h : t.Pair i j x y) (hx : x.rest.Over) : t.move s (.call i) = t := by
  obtain ⟨hlength, hget⟩ := List.getElem?_eq_some_iff.1 h.left
  rw [h.move_eq, Task.call_of_over hx, ← hget, List.set_getElem_self]

theorem call_other (h : t.Pair i j x y) (hi : k ≠ i) (hj : k ≠ j) : t.move s (.call k) = t := by
  simp only [move, h.rest k hi hj]

theorem alone (s : Accounts.Settings) (order : List Nat) {I : Program Reply → Memory → Prop}
    (hcall : ∀ (x : Task) m, I x.rest m → I (x.call m).1.rest (x.call m).2)
    (h : t.Pair i j x y) (hy : y.rest.Over ∨ j ∉ order) (hx : I x.rest t.memory) :
    ∃ x', (t.calls s order).Pair i j x' y ∧ I x'.rest (t.calls s order).memory := by
  induction order generalizing t x with
  | nil => exact ⟨x, h, hx⟩
  | cons k order ih =>
    have hy' : y.rest.Over ∨ j ∉ order := hy.imp id fun hj hmem => hj (List.mem_cons_of_mem k hmem)
    by_cases hi : k = i
    · subst hi
      apply ih h.call hy'
      rw [h.memory_call]
      exact hcall x t.memory hx
    · have hkept : t.move s (.call k) = t := by
        by_cases hj : k = j
        · subst hj
          exact h.symm.call_of_over (hy.resolve_right fun hmem => hmem List.mem_cons_self)
        · exact h.call_other hi hj
      rw [calls_cons, hkept]
      exact ih h hy' hx

theorem answered_of_over (h : t.Pair i j x y) (hx : x.rest.Over)
    (hi : (t.calls s order).Answered i) : t.Answered i := by
  induction order generalizing t y with
  | nil => exact hi
  | cons k order ih =>
    by_cases hki : k = i
    · subst hki
      rw [calls_cons, h.call_of_over hx] at hi
      exact ih h hi
    · by_cases hkj : k = j
      · subst hkj
        obtain ⟨reply, hreply⟩ := h.symm.call.symm.answered_iff.1 (ih h.symm.call.symm hi)
        exact h.answered_iff.2 ⟨reply, hreply⟩
      · rw [calls_cons, h.call_other hki hkj] at hi
        exact ih h hi

theorem not_answered_of_commits (h : t.Pair i j x y) (hx : Commits row x.rest) :
    ¬ t.Answered i := by
  intro hanswered
  obtain ⟨reply, hreply⟩ := h.answered_iff.1 hanswered
  rw [hreply] at hx
  exact Commits.not_done hx

theorem last (h : t.Pair i j x y) (hx : x.rest.Over) (hy : Commits row y.rest)
    (hold : t.memory.row? key = some old) (halike : row.Alike old)
    (hi : (t.calls s order).Answered i) (hj : (t.calls s order).Answered j) :
    t.Answered i ∧ ¬ t.Answered j ∧ (t.calls s order).memory.row? key = some row := by
  refine ⟨h.answered_of_over hx hi, h.symm.not_answered_of_commits hy, ?_⟩
  obtain ⟨y', hpair, hlands⟩ := h.symm.alone s order (I := Task.Lands key row)
    (fun _ _ => Task.Lands.call) (.inl hx) (.inl ⟨hy, old, hold, halike⟩)
  obtain ⟨reply, hreply⟩ := hpair.answered_iff.1 hj
  exact hlands.row?_of_done hreply

variable {v w : Row}

/-- What comes of two edits that both have read the row before one of them puts it: the one that ends last
has the row. -/
def Raced (s : Accounts.Settings) (t : Traffic) (i j : Nat) (order : List Nat) (key : RowType × Id)
    (v w : Row) : Prop :=
  t.EndsBefore s i j order ∧ (t.calls s order).memory.row? key = some w ∨
    t.EndsBefore s j i order ∧ (t.calls s order).memory.row? key = some v

theorem Raced.symm (h : Raced s t i j order key v w) : Raced s t j i order key w v := Or.symm h

theorem Raced.cons (h : Raced s (t.move s (.call k)) i j order key v w) :
    Raced s t i j (k :: order) key v w :=
  h.imp (And.imp_left .cons) (And.imp_left .cons)

theorem race (h : t.Pair i j x y) (hx : Commits v x.rest) (hy : Commits w y.rest)
    (hold : t.memory.row? key = some old) (hv : v.Alike old) (hw : w.Alike old)
    (hi : (t.calls s order).Answered i) (hj : (t.calls s order).Answered j) :
    Raced s t i j order key v w := by
  induction order generalizing t x y with
  | nil => exact absurd hi (h.not_answered_of_commits hx)
  | cons k order ih =>
    by_cases hki : k = i
    · subst hki
      obtain ⟨hx', hm⟩ | ⟨hx', hrow⟩ := Task.call_of_commits hx hold hv
      · rw [← hm, ← h.memory_call (s := s)] at hold
        exact (ih h.call hx' hy hold hi hj).cons
      · rw [← h.memory_call (s := s)] at hrow
        obtain ⟨hi', hj', hfinal⟩ := h.call.last hx' hy hrow (hw.trans_symm hv) hi hj
        exact .inl ⟨⟨[k], order, rfl, hi', hj'⟩, hfinal⟩
    by_cases hkj : k = j
    · subst hkj
      obtain ⟨hy', hm⟩ | ⟨hy', hrow⟩ := Task.call_of_commits hy hold hw
      · rw [← hm, ← h.symm.memory_call (s := s)] at hold
        exact (ih h.symm.call.symm hx hy' hold hi hj).cons
      · rw [← h.symm.memory_call (s := s)] at hrow
        obtain ⟨hj', hi', hfinal⟩ := h.symm.call.last hy' hx hrow (hv.trans_symm hw) hj hi
        exact .inr ⟨⟨[k], order, rfl, hj', hi'⟩, hfinal⟩
    · rw [calls_cons, h.call_other hki hkj] at hi hj
      refine Raced.cons ?_
      rw [h.call_other hki hkj]
      exact ih h hx hy hold hi hj

variable {u a : Job}

theorem race_of_begun (h : t.Pair i j x y) (hx : Commits (u.edit old) x.rest)
    (hy : Edits key a.edit y.rest) (hold : t.memory.row? key = some old)
    (hprecedes : ¬ t.Precedes s i j order) (hi : (t.calls s order).Answered i)
    (hj : (t.calls s order).Answered j) :
    Raced s t i j order key (u.edit old) (a.edit old) := by
  induction order generalizing t x with
  | nil => exact absurd hi (h.not_answered_of_commits hx)
  | cons k order ih =>
    by_cases hki : k = i
    · subst hki
      obtain ⟨hx', hm⟩ | ⟨hx', -⟩ := Task.call_of_commits hx hold (u.edit_alike old)
      · rw [← hm, ← h.memory_call (s := s)] at hold
        exact (ih h.call hx' hold (fun hp => hprecedes (hp.cons h.ne)) hi hj).cons
      · have hanswered := h.call.answered_of_over hx' hi
        exact absurd ⟨[k], order, rfl, by simpa using h.ne.symm, hanswered⟩ hprecedes
    by_cases hkj : k = j
    · subst hkj
      obtain ⟨hy', hm⟩ := Task.call_of_edits hy hold
      have hpair := h.symm.call (s := s)
      rw [← hm, ← h.symm.memory_call (s := s)] at hold
      exact (hpair.symm.race hx hy' hold (u.edit_alike old) (a.edit_alike old) hi hj).cons
    · rw [calls_cons, h.call_other hki hkj] at hi hj
      refine Raced.cons ?_
      rw [h.call_other hki hkj]
      refine ih h hx hold (fun hp => hprecedes ?_) hi hj
      refine Precedes.cons ?_ hkj
      rwa [h.call_other hki hkj]

theorem race_of_fresh (h : t.Pair i j x y) (hx : Edits key u.edit x.rest)
    (hy : Edits key a.edit y.rest) (hold : t.memory.row? key = some old)
    (hij : ¬ t.Precedes s i j order) (hji : ¬ t.Precedes s j i order)
    (hi : (t.calls s order).Answered i) (hj : (t.calls s order).Answered j) :
    Raced s t i j order key (u.edit old) (a.edit old) := by
  induction order generalizing t with
  | nil =>
    obtain ⟨reply, hreply⟩ := h.answered_iff.1 hi
    rw [hreply] at hx
    exact absurd hx Edits.not_done
  | cons k order ih =>
    by_cases hki : k = i
    · subst hki
      obtain ⟨hx', hm⟩ := Task.call_of_edits hx hold
      rw [← hm, ← h.memory_call (s := s)] at hold
      exact (h.call.race_of_begun hx' hy hold (fun hp => hij (hp.cons h.ne)) hi hj).cons
    by_cases hkj : k = j
    · subst hkj
      obtain ⟨hy', hm⟩ := Task.call_of_edits hy hold
      rw [← hm, ← h.symm.memory_call (s := s)] at hold
      exact (h.symm.call.race_of_begun hy' hx hold (fun hp => hji (hp.cons h.ne.symm)) hj hi).cons.symm
    · rw [calls_cons, h.call_other hki hkj] at hi hj
      refine Raced.cons ?_
      rw [h.call_other hki hkj]
      refine ih h hold (fun hp => hij ?_) (fun hp => hji ?_) hi hj
      · refine Precedes.cons ?_ hkj
        rwa [h.call_other hki hkj]
      · refine Precedes.cons ?_ hki
        rwa [h.call_other hki hkj]

theorem turn (h : t.Pair i j x y) (hx : Edits key u.edit x.rest) (hy : Edits key a.edit y.rest)
    (hold : t.memory.row? key = some old) (hprecedes : t.Precedes s i j order)
    (hj : (t.calls s order).Answered j) :
    (t.calls s order).memory.row? key = some (a.edit (u.edit old)) := by
  obtain ⟨first, rest, rfl, hfirst, hanswered⟩ := hprecedes
  obtain ⟨x', hpair, hworks⟩ := h.alone s first (I := Task.Works key u old)
    (fun _ _ => Task.Works.call) (.inr hfirst) (.inl ⟨hx, hold⟩)
  obtain ⟨reply, hreply⟩ := hpair.answered_iff.1 hanswered
  have hrow := hworks.row?_of_done hreply
  have hover : x'.rest.Over := by
    rw [hreply]
    trivial
  rw [calls_append] at hj ⊢
  obtain ⟨y', hpair', hworks'⟩ := hpair.symm.alone s rest
    (I := Task.Works key a (u.edit old)) (fun _ _ => Task.Works.call) (.inl hover) (.inl ⟨hy, hrow⟩)
  obtain ⟨reply', hreply'⟩ := hpair'.answered_iff.1 hj
  exact hworks'.row?_of_done hreply'

end Pair

def both (s : Accounts.Settings) (m : Memory) (a b : Act) : Traffic :=
  ⟨[⟨a, a.perform s⟩, ⟨b, b.perform s⟩], m⟩

theorem pair_both (s : Accounts.Settings) (m : Memory) (a b : Act) :
    (both s m a b).Pair 0 1 ⟨a, a.perform s⟩ ⟨b, b.perform s⟩ := by
  refine ⟨by decide, rfl, rfl, fun k h₀ h₁ => ?_⟩
  have hlength : [(⟨a, a.perform s⟩ : Task), ⟨b, b.perform s⟩].length ≤ k := by
    simp only [List.length_cons, List.length_nil]
    omega
  exact List.getElem?_eq_none hlength

/-- An update and an archiving of one row, whoever asks for them and in whatever order their calls are
made: if one of them had answered before the other one made a call, the row has the change of both. If
not, each of them goes by the row as it was before, and the row has the change of the one that ended
last and nothing of the other one. -/
theorem last_put_has_the_row (s : Accounts.Settings) (m : Memory) (p q : Principal) {u a : Job}
    {key : RowType × Id} (hu : u.Updates key) (ha : a.Archives key) {old : Row}
    (hold : m.row? key = some old) (order : List Nat)
    (h₀ : ((both s m (.job p u) (.job q a)).calls s order).Answered 0)
    (h₁ : ((both s m (.job p u) (.job q a)).calls s order).Answered 1) :
    let t := both s m (.job p u) (.job q a)
    let row := (t.calls s order).memory.row? key
    (t.Precedes s 0 1 order ∨ t.Precedes s 1 0 order → row = some ((u.edit old).archived true)) ∧
      (¬ t.Precedes s 0 1 order → ¬ t.Precedes s 1 0 order →
        t.EndsBefore s 0 1 order ∧ row = some (old.archived true) ∨
          t.EndsBefore s 1 0 order ∧ row = some (u.edit old)) := by
  intro t row
  have hpair : t.Pair 0 1 _ _ := pair_both s m (.job p u) (.job q a)
  have hupdate : Edits key u.edit ((Act.job p u).perform s) := Act.perform_edits s hu.edits?
  have harchive : Edits key a.edit ((Act.job q a).perform s) := Act.perform_edits s ha.edits?
  refine ⟨?_, fun h₀₁ h₁₀ => ?_⟩
  · rintro (hprecedes | hprecedes)
    · rw [← ha.edit]
      exact hpair.turn hupdate harchive hold hprecedes h₁
    · rw [← hu.edit_archived, ← ha.edit]
      exact hpair.symm.turn harchive hupdate hold hprecedes h₀
  · rw [← ha.edit]
    exact hpair.race_of_fresh hupdate harchive hold h₀₁ h₁₀ h₀ h₁

/-- One and the same container, updated and archived one after the other and at the same time. -/
theorem tea_is_archived_in_turn_and_lost_at_once :
    ∃ (s : Accounts.Settings) (m : Memory) (p q : Principal) (c : Container),
      m.row? (.container, 1) = some (.container c) ∧ c.description = some "tea" ∧
        c.isArchived = false ∧
        let t := both s m (.job p (.containerUpdate 1 (some "rice"))) (.job q (.containerArchive 1 true))
        (t.calls s [1, 1, 0, 0]).memory.row? (.container, 1) =
            some (.container { c with description := some "rice", isArchived := true }) ∧
          t.EndsBefore s 0 1 [0, 1, 0, 1] ∧
          (t.calls s [0, 1, 0, 1]).memory.row? (.container, 1) =
            some (.container { c with isArchived := true }) := by
  let s : Accounts.Settings := ⟨"k", 60, 4⟩
  let p : Principal := ⟨1, .member 1 1⟩
  let q : Principal := ⟨9, .admin⟩
  let founding : Act :=
    .registerOrganization ⟨"Acme", none, ⟨"Ada", "A", "ada@x.org", "1", "secret"⟩⟩
  let m := (Act.event s (.job p (.containerCreate ⟨some "tea", none⟩))
    (founding.event s (Memory.empty ⟨0⟩)).after).after
  let c : Container := ⟨1, Uid.drawn 0, "CNT00001", some "tea", false, some 1, 1, ⟨0⟩, ⟨0⟩⟩
  let t := both s m (.job p (.containerUpdate 1 (some "rice"))) (.job q (.containerArchive 1 true))
  have hold : m.row? (.container, 1) = some (.container c) := by decide +kernel
  have hturn := (last_put_has_the_row s m p q (.container 1 (some "rice")) (.container 1) hold
    [1, 1, 0, 0] (by decide +kernel) (by decide +kernel)).1
  have hrace := (last_put_has_the_row s m p q (.container 1 (some "rice")) (.container 1) hold
    [0, 1, 0, 1] (by decide +kernel) (by decide +kernel)).2
  have hfirst : t.Precedes s 1 0 [1, 1, 0, 0] := ⟨[1, 1], [0, 0], rfl, by decide, by decide +kernel⟩
  have h₀₁ : ¬ t.Precedes s 0 1 [0, 1, 0, 1] := by
    rintro ⟨_ | ⟨i, _ | ⟨j, first⟩⟩, rest, heq, hmem, hanswered⟩
    · exact absurd hanswered (by decide +kernel)
    · obtain rfl : 0 = i := (List.cons.inj heq).1
      exact absurd hanswered (by decide +kernel)
    · obtain rfl : 1 = j := (List.cons.inj (List.cons.inj heq).2).1
      exact hmem (by simp)
  have h₁₀ : ¬ t.Precedes s 1 0 [0, 1, 0, 1] := by
    rintro ⟨_ | ⟨i, first⟩, rest, heq, hmem, hanswered⟩
    · exact absurd hanswered (by decide +kernel)
    · obtain rfl : 0 = i := (List.cons.inj heq).1
      exact hmem List.mem_cons_self
  obtain hrace | ⟨-, hrow⟩ := hrace h₀₁ h₁₀
  · exact ⟨s, m, p, q, c, hold, rfl, rfl, hturn (.inr hfirst), hrace⟩
  · exact absurd hrow (by decide +kernel)

/-- The container is archived after its new description was put together and before it is written: both
answer, and the container is not archived. -/
theorem archiving_can_be_lost :
    ¬ ∀ (s : Accounts.Settings) (es : List Event) (m : Memory) (p q : Principal) (u a : Job)
        (key : RowType × Id) (old : Row) (order : List Nat),
      Run s es m → u.Updates key → a.Archives key → m.row? key = some old →
      let t := (both s m (.job p u) (.job q a)).calls s order
      t.Answered 0 → t.Answered 1 →
        t.memory.row? key = some ((u.edit old).archived true) := by
  intro h
  let c : Container := ⟨1, Uid.drawn 0, "CNT00001", some "tea", false, some 1, 1, ⟨0⟩, ⟨0⟩⟩
  let founding : Act :=
    .registerOrganization ⟨"Acme", none, ⟨"Ada", "A", "ada@x.org", "1", "secret"⟩⟩
  have hrun := ((Run.start (s := ⟨"k", 60, 4⟩) ⟨0⟩).act founding).act
    (.job ⟨1, .member 1 1⟩ (.containerCreate ⟨some "tea", none⟩))
  have hlost := h _ _ _ ⟨1, .member 1 1⟩ ⟨9, .admin⟩ _ _ _ (.container c) [0, 1, 1, 0] hrun
    (.container 1 (some "rice")) (.container 1) (by decide +kernel) (by decide +kernel) (by decide +kernel)
  revert hlost
  decide +kernel

end Traffic

end Depot.Operation
