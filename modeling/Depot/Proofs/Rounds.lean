import Depot.GraphQL.Fetch
import Depot.Proofs.Bookkeeping
import Depot.Proofs.Lookups
import Mathlib.Tactic.Tauto

namespace Depot.Loader

open Program Store

/-- A batch with loads of one loader that have been made. -/
structure Batch.Holds (made : List (Nat × Ref)) (name : BatchName) (b : Batch) : Prop where
  balanced : b.Balanced
  nodup : b.keys.Nodup
  members : ∀ x ∈ b.members, (x.1, ⟨name, x.2⟩) ∈ made

namespace Batch.Holds

variable {made made' : List (Nat × Ref)} {name : BatchName} {b : Batch} {load : Nat} {key : Id}

theorem empty (number : Nat) : (Batch.empty number).Holds made name :=
  ⟨rfl, .nil, fun _ hx => absurd hx List.not_mem_nil⟩

theorem mono (h : b.Holds made name) (hmade : made ⊆ made') : b.Holds made' name :=
  ⟨h.balanced, h.nodup, fun x hx => hmade (h.members x hx)⟩

theorem mem_push (h : b.Holds made name) {x : Nat × Id} :
    x ∈ (b.push key load).members ↔ x ∈ b.members ∨ x = (load, key) := by
  rw [(h.balanced.push_members h.nodup).mem_iff, List.mem_append, List.mem_singleton]

theorem push (h : b.Holds made name) :
    (b.push key load).Holds (made ++ [(load, ⟨name, key⟩)]) name where
  balanced := h.balanced.push
  nodup := by
    rw [h.balanced.push_keys]
    split
    · exact h.nodup
    · rename_i hkey
      exact List.nodup_append'.2 ⟨h.nodup, List.nodup_singleton _, by simpa using hkey⟩
  members x hx := by
    obtain hx | rfl := h.mem_push.1 hx
    · exact List.mem_append_left _ (h.members x hx)
    · exact List.mem_append_right _ List.mem_cons_self

theorem mem_keys (h : b.Holds made name) {x : Nat × Id} (hx : x ∈ b.members) : x.2 ∈ b.keys := by
  obtain ⟨w, hw, hx⟩ := List.mem_flatMap.1 hx
  obtain ⟨load, -, rfl⟩ := List.mem_map.1 hx
  have hkeys : b.waiters.map (·.1) = b.keys := h.balanced
  rw [← hkeys]
  exact List.mem_map_of_mem hw

end Batch.Holds

section Misses

variable {ν : Type} {c : Config} {σ : State ν} {key : Id} {load : Nat} {b : Batch}

theorem State.joined_iff (c : Config) (load : Nat) (h : σ.cached? key = none) :
    (σ.load c load key).state.pending = some b ∨ (σ.load c load key).closed = some b ↔
      b = σ.boarded load key := by
  rw [State.load_of_missing h]
  have hplace := State.pending_append_closed c
    { σ with nextBatch := σ.nextBatch + σ.pending.elim 1 fun _ => 0 } (σ.boarded load key)
    (σ.pending.elim (some σ.nextBatch) fun _ => none)
  rw [← Option.mem_toList, ← Option.mem_toList, ← List.mem_append, hplace, List.mem_singleton]

theorem State.load_cache (h : σ.cached? key = none) :
    (σ.load c load key).state.cache = σ.cache := by
  rw [State.load_of_missing h, State.keepOrClose_cache]

theorem State.load_answer (h : σ.cached? key = none) : (σ.load c load key).answer = none := by
  rw [State.load_of_missing h, State.keepOrClose_answer]

end Misses

namespace Loaders

variable {l : Loaders} {name name' : BatchName} {σ : State Entity}

@[simp] theorem get_set : (l.set name σ).get name = σ := by cases name <;> rfl

@[simp] theorem set_get : l.set name (l.get name) = l := by cases name <;> rfl

theorem get_set_of_ne (h : name' ≠ name) : (l.set name σ).get name' = l.get name' := by
  cases name <;> cases name'
  all_goals first
    | rfl
    | exact absurd rfl h

namespace Round

/-- A batch that is not fetched yet: it still takes loads, or it is among those that are to be fetched.
-/
def Open (r : Round) (todo : List (BatchName × Batch)) (name : BatchName) (b : Batch) : Prop :=
  (r.loaders.get name).pending = some b ∨ (name, b) ∈ todo

/-- After these loads: the caches and the answers are right, and whoever has no answer is in a batch. -/
structure Kept (m : Memory) (made : List (Nat × Ref)) (todo : List (BatchName × Batch)) (r : Round) :
    Prop where
  cache : ∀ name, ∀ x ∈ (r.loaders.get name).cache, .ok x.2 = Ref.answer m ⟨name, x.1⟩
  holds : ∀ name b, r.Open todo name b → b.Holds made name
  answers : ∀ x ∈ r.answers, ∃ ref, (x.1, ref) ∈ made ∧ x.2 = ref.answer m
  served : ∀ x ∈ made, (∃ y ∈ r.answers, y.1 = x.1) ∨
    ∃ b, r.Open todo x.2.name b ∧ (x.1, x.2.key) ∈ b.members

variable {m : Memory} {made : List (Nat × Ref)} {todo : List (BatchName × Batch)} {r : Round}
variable {c : Config} {number : Nat} {ref : Ref} {b : Batch}

theorem load_of_cached {v : Option Entity}
    (h : (r.loaders.get ref.name).cached? ref.key = some v) :
    r.load c number ref = { r with answers := r.answers ++ [(number, .ok v)] } := by
  simp [load, State.load_of_cached h]

theorem open_load (h : (r.loaders.get ref.name).cached? ref.key = none) :
    (r.load c number ref).Open (r.load c number ref).closed name b ↔
      (name = ref.name ∧ b = (r.loaders.get ref.name).boarded number ref.key) ∨
        (name, b) ∈ r.closed ∨ name ≠ ref.name ∧ (r.loaders.get name).pending = some b := by
  have hjoined := State.joined_iff (b := b) c number h
  by_cases hname : name = ref.name
  · subst hname
    have hmoved : (ref.name, b) ∈ (((r.loaders.get ref.name).load c number ref.key).closed.toList.map
        fun b => (ref.name, b)) ↔
          ((r.loaders.get ref.name).load c number ref.key).closed = some b := by
      simp [eq_comm]
    simp only [Open, load, get_set, List.mem_append, hmoved, ← hjoined]
    tauto
  · have hother : (name, b) ∉ (((r.loaders.get ref.name).load c number ref.key).closed.toList.map
        fun b => (ref.name, b)) := by
      simp [Ne.symm hname]
    simp only [Open, load, get_set_of_ne hname, List.mem_append, hother]
    tauto

theorem Kept.hit {v : Option Entity} (h : Kept m made r.closed r)
    (hcached : (r.loaders.get ref.name).cached? ref.key = some v) :
    Kept m (made ++ [(number, ref)]) (r.load c number ref).closed (r.load c number ref) := by
  rw [load_of_cached hcached]
  have hv : .ok v = ref.answer m := by
    obtain ⟨x, hx, rfl⟩ := Option.map_eq_some_iff.1 hcached
    have hkey : x.1 = ref.key := by simpa using List.find?_some hx
    have hvalue := h.cache ref.name x (List.mem_of_find?_eq_some hx)
    rwa [hkey] at hvalue
  refine ⟨h.cache, fun name b hb => (h.holds name b hb).mono (List.subset_append_left _ _),
    fun x hx => ?_, fun x hx => ?_⟩
  · obtain hx | hx := List.mem_append.1 hx
    · obtain ⟨ref', hmade, hanswer⟩ := h.answers x hx
      exact ⟨ref', List.mem_append_left _ hmade, hanswer⟩
    · obtain rfl := List.mem_singleton.1 hx
      exact ⟨ref, List.mem_append_right _ List.mem_cons_self, hv⟩
  · obtain hx | hx := List.mem_append.1 hx
    · obtain ⟨y, hy, hyx⟩ | hopen := h.served x hx
      · exact .inl ⟨y, List.mem_append_left _ hy, hyx⟩
      · exact .inr hopen
    · obtain rfl := List.mem_singleton.1 hx
      exact .inl ⟨(number, .ok v), List.mem_append_right _ List.mem_cons_self, rfl⟩

theorem Kept.miss (h : Kept m made r.closed r)
    (hcached : (r.loaders.get ref.name).cached? ref.key = none) :
    Kept m (made ++ [(number, ref)]) (r.load c number ref).closed (r.load c number ref) := by
  have hmade : made ⊆ made ++ [(number, ref)] := List.subset_append_left _ _
  have hanswers : (r.load c number ref).answers = r.answers := by
    simp [load, State.load_answer hcached]
  -- the batch that was joined, before the load and after it
  have hbefore : ((r.loaders.get ref.name).pending.getD
      (.empty (r.loaders.get ref.name).nextBatch)).Holds made ref.name := by
    cases hpending : (r.loaders.get ref.name).pending with
    | none => exact .empty _
    | some b => exact h.holds ref.name b (.inl hpending)
  have hjoined : ((r.loaders.get ref.name).boarded number ref.key).Holds
      (made ++ [(number, ref)]) ref.name := hbefore.push
  refine ⟨fun name x hx => ?_, fun name b hb => ?_, fun x hx => ?_, fun x hx => ?_⟩
  · by_cases hname : name = ref.name
    · subst hname
      rw [load, get_set, State.load_cache hcached] at hx
      exact h.cache ref.name x hx
    · rw [load, get_set_of_ne hname] at hx
      exact h.cache name x hx
  · obtain ⟨rfl, rfl⟩ | hb | ⟨-, hb⟩ := (open_load hcached).1 hb
    · exact hjoined
    · exact (h.holds name b (.inr hb)).mono hmade
    · exact (h.holds name b (.inl hb)).mono hmade
  · rw [hanswers] at hx
    obtain ⟨ref', hx, hanswer⟩ := h.answers x hx
    exact ⟨ref', hmade hx, hanswer⟩
  · rw [hanswers]
    have joined {x : Nat × Id} (hx : x ∈ ((r.loaders.get ref.name).pending.getD
        (.empty (r.loaders.get ref.name).nextBatch)).members ∨ x = (number, ref.key)) :
        ∃ b, (r.load c number ref).Open (r.load c number ref).closed ref.name b ∧ x ∈ b.members :=
      ⟨_, (open_load hcached).2 (.inl ⟨rfl, rfl⟩), hbefore.mem_push.2 hx⟩
    obtain hx | hx := List.mem_append.1 hx
    · obtain hanswered | ⟨b, hb, hx⟩ := h.served x hx
      · exact .inl hanswered
      · right
        obtain hb | hb := hb
        · by_cases hname : x.2.name = ref.name
          · rw [hname] at hb ⊢
            refine joined (.inl ?_)
            rwa [hb]
          · exact ⟨b, (open_load hcached).2 (.inr (.inr ⟨hname, hb⟩)), hx⟩
        · exact ⟨b, (open_load hcached).2 (.inr (.inl hb)), hx⟩
    · obtain rfl := List.mem_singleton.1 hx
      exact .inr (joined (.inr rfl))

theorem Kept.load (h : Kept m made r.closed r) (c : Config) (number : Nat) (ref : Ref) :
    Kept m (made ++ [(number, ref)]) (r.load c number ref).closed (r.load c number ref) := by
  cases hcached : (r.loaders.get ref.name).cached? ref.key with
  | some v => exact h.hit hcached
  | none => exact h.miss hcached

theorem Kept.loads (h : Kept m made r.closed r) (c : Config) (loads : List (Nat × Ref)) :
    Kept m (made ++ loads) (loads.foldl (fun r (n, ref) => r.load c n ref) r).closed
      (loads.foldl (fun r (n, ref) => r.load c n ref) r) := by
  induction loads generalizing made r with
  | nil => simpa using h
  | cons x loads ih => simpa using ih (h.load c x.1 x.2)

theorem close_of_none (h : (r.loaders.get name).pending = none) : r.close name = r := by
  simp only [close, h]

theorem close_of_some (h : (r.loaders.get name).pending = some b) :
    r.close name =
      { r with
        loaders := r.loaders.set name { r.loaders.get name with pending := none }
        closed := r.closed ++ [(name, b)] } := by
  simp only [close, h]

theorem open_close :
    (r.close name').Open (r.close name').closed name b ↔ r.Open r.closed name b := by
  cases hpending : (r.loaders.get name').pending with
  | none => rw [close_of_none hpending]
  | some b' =>
    rw [close_of_some hpending]
    by_cases hname : name = name'
    · subst hname
      simp only [Open, get_set, hpending, List.mem_append, List.mem_singleton, Prod.mk.injEq,
        true_and, Option.some.injEq, reduceCtorEq, false_or]
      tauto
    · simp only [Open, get_set_of_ne hname, List.mem_append, List.mem_singleton, Prod.mk.injEq,
        hname, false_and, or_false]

theorem close_cache (r : Round) (name' name : BatchName) :
    ((r.close name').loaders.get name).cache = (r.loaders.get name).cache := by
  cases hpending : (r.loaders.get name').pending with
  | none => rw [close_of_none hpending]
  | some b =>
    rw [close_of_some hpending]
    by_cases hname : name = name'
    · subst hname
      rw [get_set]
    · rw [get_set_of_ne hname]

theorem close_answers (r : Round) (name : BatchName) : (r.close name).answers = r.answers := by
  cases hpending : (r.loaders.get name).pending with
  | none => rw [close_of_none hpending]
  | some b => rw [close_of_some hpending]

theorem Kept.close (h : Kept m made r.closed r) (name : BatchName) :
    Kept m made (r.close name).closed (r.close name) where
  cache name' x hx := by
    rw [close_cache] at hx
    exact h.cache name' x hx
  holds name' b hb := h.holds name' b (open_close.1 hb)
  answers x hx := by
    rw [close_answers] at hx
    exact h.answers x hx
  served x hx := by
    rw [close_answers]
    obtain hanswered | ⟨b, hb, hx⟩ := h.served x hx
    · exact .inl hanswered
    · exact .inr ⟨b, open_close.2 hb, hx⟩

theorem pending_close (h : (r.loaders.get name).pending = none ∨ name = name') :
    ((r.close name').loaders.get name).pending = none := by
  cases hpending : (r.loaders.get name').pending with
  | none =>
    rw [close_of_none hpending]
    obtain h | rfl := h
    · exact h
    · exact hpending
  | some b =>
    rw [close_of_some hpending]
    by_cases hname : name = name'
    · subst hname
      rw [get_set]
    · rw [get_set_of_ne hname]
      exact h.resolve_right hname

theorem Kept.closes (h : Kept m made r.closed r) (names : List BatchName) :
    Kept m made (names.foldl Round.close r).closed (names.foldl Round.close r) := by
  induction names generalizing r with
  | nil => exact h
  | cons name names ih => exact ih (h.close name)

theorem pending_closes (names : List BatchName)
    (h : (r.loaders.get name).pending = none ∨ name ∈ names) :
    ((names.foldl Round.close r).loaders.get name).pending = none := by
  induction names generalizing r with
  | nil => exact h.resolve_right List.not_mem_nil
  | cons name' names ih =>
    rw [List.mem_cons] at h
    refine ih ?_
    obtain h | h | h := h
    · exact .inl (pending_close (.inl h))
    · exact .inl (pending_close (.inr h))
    · exact .inr h

theorem mem_all (name : BatchName) : name ∈ BatchName.all := by cases name <;> decide

def settle (r : Round) (name : BatchName) (b : Batch) (rows : List (Id × Entity)) : Round :=
  { r with
    loaders := r.loaders.set name ((r.loaders.get name).settle b (.rows rows)).1
    answers := r.answers ++ ((r.loaders.get name).settle b (.rows rows)).2 }

theorem settle_pending (r : Round) (name' : BatchName) (b : Batch) (rows : List (Id × Entity))
    (name : BatchName) :
    ((r.settle name' b rows).loaders.get name).pending = (r.loaders.get name).pending := by
  by_cases hname : name = name'
  · subst hname
    rw [settle, get_set, State.settle_pending]
  · rw [settle, get_set_of_ne hname]

theorem Kept.settle (h : Kept m made todo r) {todo' : List (BatchName × Batch)}
    (htodo : todo.Perm ((name, b) :: todo')) {rows : List (Id × Entity)}
    (hrows : ∀ id ∈ b.keys, .ok (State.lastValue rows id) = Ref.answer m ⟨name, id⟩) :
    Kept m made todo' (r.settle name b rows) := by
  have hb := h.holds name b (.inr (htodo.mem_iff.2 List.mem_cons_self))
  have hopen {name' : BatchName} {b' : Batch} :
      r.Open todo name' b' ↔
        (name', b') = (name, b) ∨ (r.settle name b rows).Open todo' name' b' := by
    rw [Open, Open, settle_pending, htodo.mem_iff, List.mem_cons]
    tauto
  refine ⟨fun name' x hx => ?_, fun name' b' hb' => h.holds name' b' (hopen.2 (.inr hb')),
    fun x hx => ?_, fun x hx => ?_⟩
  · by_cases hname : name' = name
    · subst hname
      rw [Round.settle, get_set] at hx
      obtain hx | hx := List.mem_append.1 hx
      · obtain ⟨id, hid, rfl⟩ := List.mem_map.1 hx
        exact hrows id hid
      · exact h.cache name' x hx
    · rw [Round.settle, get_set_of_ne hname] at hx
      exact h.cache name' x hx
  · obtain hx | hx := List.mem_append.1 hx
    · exact h.answers x hx
    · rw [Batch.settle_answers_eq] at hx
      obtain ⟨y, hy, rfl⟩ := List.mem_map.1 hx
      exact ⟨⟨name, y.2⟩, hb.members y hy, hrows y.2 (hb.mem_keys hy)⟩
  · obtain ⟨y, hy, hyx⟩ | ⟨b', hb', hx⟩ := h.served x hx
    · exact .inl ⟨y, List.mem_append_left _ hy, hyx⟩
    · obtain heq | hb' := hopen.1 hb'
      · obtain ⟨-, rfl⟩ := Prod.mk.inj heq
        refine .inl ⟨(x.1, State.tell (.rows rows) x.2.key), List.mem_append_right _ ?_, rfl⟩
        rw [Batch.settle_answers_eq]
        exact List.mem_map_of_mem hx
      · exact .inr ⟨b', hb', hx⟩

theorem run_fetch {rows : List (Id × Entity)} {n : Memory} (r : Round)
    (h : (fetchRows name b.keys).run Memory.handle m = (.ok rows, n)) :
    (r.fetch name b).run Memory.handle m = (.ok (r.settle name b rows), n) := by
  have hattempt : ((fetchRows name b.keys).attempt).run Memory.handle m = (.ok (.ok rows), n) := by
    rw [run_attempt, h]
  exact run_bind_of_eq_ok hattempt

/-- What may happen next in a round, which has loads that are still to come: one of these, the end of a
window, or the fetch of a batch that is closed. -/
inductive Moves (c : Config) (m : Memory) :
    List (Nat × Ref) × Round → List (Nat × Ref) × Round → Prop
  | load {coming rest : List (Nat × Ref)} {number : Nat} {ref : Ref} (r : Round)
    (h : coming.Perm ((number, ref) :: rest)) : Moves c m (coming, r) (rest, r.load c number ref)
  | expire (coming : List (Nat × Ref)) (r : Round) (name : BatchName) :
    Moves c m (coming, r) (coming, r.close name)
  | fetch {coming : List (Nat × Ref)} {r r' : Round} {name : BatchName} {b : Batch}
    {rest : List (BatchName × Batch)} {batches : List (BatchName × List Id)} {n : Memory}
    (h : r.closed.Perm ((name, b) :: rest))
    (hrun : (r.fetch name b).run Memory.handle { m with batches := batches } = (.ok r', n)) :
    Moves c m (coming, r) (coming, { r' with closed := rest })

/-- A round that is over: all loads were made, and no batch is left. -/
structure Over (c : Config) (m : Memory) (l : Loaders) (refs : List Ref) (r : Round) : Prop where
  moves : Relation.ReflTransGen (Moves c m) ((List.range refs.length).zip refs, ⟨l, [], []⟩) ([], r)
  closed : r.closed = []
  pending : ∀ name, (r.loaders.get name).pending = none

theorem Kept.move (hm : m.Keyed) (hb : m.batchesFail = false) {loads : List (Nat × Ref)}
    {x y : List (Nat × Ref) × Round} (h : ∃ made, (made ++ x.1).Perm loads ∧
      Kept m made x.2.closed x.2) (hmove : Moves c m x y) :
    ∃ made, (made ++ y.1).Perm loads ∧ Kept m made y.2.closed y.2 := by
  obtain ⟨made, hloads, h⟩ := h
  cases hmove with
  | @load coming rest number ref r hcoming =>
    refine ⟨made ++ [(number, ref)], ?_, h.load c number ref⟩
    rw [List.append_assoc]
    exact (hcoming.symm.append_left made).trans hloads
  | expire coming r name => exact ⟨made, hloads, h.close name⟩
  | @fetch coming r r' name b rest batches n hclosed hrun =>
    obtain ⟨rows, hfetch, hrows⟩ := run_fetchRows (hm.batches batches) hb name b.keys
    rw [run_fetch r hfetch] at hrun
    cases hrun
    simp only [answer_batches] at hrows
    have hkept := h.settle hclosed hrows
    exact ⟨made, hloads, hkept.cache, hkept.holds, hkept.answers, hkept.served⟩

theorem mem_numbered {refs : List Ref} :
    (number, ref) ∈ (List.range refs.length).zip refs ↔ refs[number]? = some ref := by
  constructor
  · intro h
    obtain ⟨i, hi⟩ := List.mem_iff_getElem?.1 h
    obtain ⟨hnumber, href⟩ := List.getElem?_zip_eq_some.1 hi
    obtain ⟨hlt, hnumber⟩ := List.getElem?_eq_some_iff.1 hnumber
    rwa [← show i = number by simpa using hnumber]
  · intro h
    have hlt := (List.getElem?_eq_some_iff.1 h).1
    refine List.mem_iff_getElem?.2 ⟨number, List.getElem?_zip_eq_some.2 ⟨?_, h⟩⟩
    exact List.getElem?_range hlt

theorem answer_mem {y : Nat × Result Entity} (hy : y ∈ r.answers) :
    (y.1, r.answer y.1) ∈ r.answers := by
  rw [answer]
  cases hfind : r.answers.find? (·.1 == y.1) with
  | none =>
    have hnone := List.find?_eq_none.1 hfind y hy
    exact absurd (beq_self_eq_true _) hnone
  | some z =>
    have hz : z.1 = y.1 := by simpa using List.find?_some hfind
    rw [← hz]
    exact List.mem_of_find?_eq_some hfind

theorem Kept.answered {refs : List Ref} (h : Kept m made [] r)
    (hmade : made.Perm ((List.range refs.length).zip refs))
    (hpending : ∀ name, (r.loaders.get name).pending = none) :
    (List.range refs.length).map r.answer = refs.map (Ref.answer m) := by
  have hanswer : ∀ number ref, refs[number]? = some ref → r.answer number = ref.answer m := by
    intro number ref href
    obtain ⟨y, hy, rfl⟩ | ⟨b, hb, -⟩ := h.served _ (hmade.mem_iff.2 (mem_numbered.2 href))
    · -- the number is that of this load alone
      obtain ⟨ref', hmade', hanswer⟩ := h.answers _ (answer_mem hy)
      have href' := mem_numbered.1 (hmade.mem_iff.1 hmade')
      rwa [Option.some.inj (href'.symm.trans href)] at hanswer
    · obtain hb | hb := hb
      · rw [hpending] at hb
        cases hb
      · exact absurd hb List.not_mem_nil
  apply List.ext_getElem
  · simp
  · intro i hi hi'
    have hlt : i < refs.length := by simpa using hi'
    simpa using hanswer i refs[i] (List.getElem?_eq_getElem hlt)

theorem loads_moves (c : Config) (m : Memory) (loads : List (Nat × Ref)) (r : Round) :
    Relation.ReflTransGen (Moves c m) (loads, r)
      ([], loads.foldl (fun r (n, ref) => r.load c n ref) r) := by
  induction loads generalizing r with
  | nil => exact .refl
  | cons x loads ih => exact .head (.load r (.refl _)) (ih _)

theorem closes_moves (c : Config) (m : Memory) (names : List BatchName) (r : Round) :
    Relation.ReflTransGen (Moves c m) ([], r) ([], names.foldl Round.close r) := by
  induction names generalizing r with
  | nil => exact .refl
  | cons name names ih => exact .head (.expire [] r name) (ih _)

theorem fetchAll_moves (hm : m.Keyed) (hb : m.batchesFail = false) (c : Config) (r : Round)
    (todo : List (BatchName × Batch)) (batches : List (BatchName × List Id)) :
    ∃ r' batches', (r.fetchAll todo).run Memory.handle { m with batches := batches } =
        (.ok r', { m with batches := batches' }) ∧
      Relation.ReflTransGen (Moves c m) ([], { r with closed := todo }) ([], { r' with closed := [] }) ∧
      ∀ name, (r'.loaders.get name).pending = (r.loaders.get name).pending := by
  induction todo generalizing r batches with
  | nil => exact ⟨r, batches, rfl, .refl, fun _ => rfl⟩
  | cons x todo ih =>
    obtain ⟨name, b⟩ := x
    obtain ⟨rows, hfetch, -⟩ := run_fetchRows (hm.batches batches) hb name b.keys
    obtain ⟨r', batches', hrest, hmoves, hpending⟩ := ih (r.settle name b rows)
      (batches ++ [(name, b.keys)])
    refine ⟨r', batches', ?_, .head (.fetch (.refl _) (run_fetch _ hfetch)) hmoves, fun name' => ?_⟩
    · exact (run_bind_of_eq_ok (run_fetch r hfetch)).trans hrest
    · rw [hpending, settle_pending]

end Round

/-- Between two rounds: the caches are right, and no load waits. -/
structure Settled (m : Memory) (l : Loaders) : Prop where
  cache : ∀ name, ∀ x ∈ (l.get name).cache, .ok x.2 = Ref.answer m ⟨name, x.1⟩
  pending : ∀ name, (l.get name).pending = none

variable {m : Memory} {l : Loaders} {c : Config} {refs : List Ref} {r : Round}

theorem Settled.empty : Settled m .empty where
  cache name x hx := by cases name <;> exact absurd hx List.not_mem_nil
  pending name := by cases name <;> rfl

theorem Settled.start (h : Settled m l) : Round.Kept m [] [] ⟨l, [], []⟩ where
  cache := h.cache
  holds name b hb := by
    obtain hb | hb := hb
    · rw [h.pending] at hb
      cases hb
    · exact absurd hb List.not_mem_nil
  answers x hx := absurd hx List.not_mem_nil
  served x hx := absurd hx List.not_mem_nil

theorem Round.Over.answers (hm : m.Keyed) (hb : m.batchesFail = false) (h : Over c m l refs r)
    (hl : Settled m l) :
    (List.range refs.length).map r.answer = refs.map (Ref.answer m) ∧ Settled m r.loaders := by
  have hkept : ∀ x, Relation.ReflTransGen (Moves c m)
      ((List.range refs.length).zip refs, ⟨l, [], []⟩) x → ∃ made,
        (made ++ x.1).Perm ((List.range refs.length).zip refs) ∧ Kept m made x.2.closed x.2 := by
    intro x hx
    induction hx with
    | refl => exact ⟨[], .refl _, hl.start⟩
    | tail _ hmove ih => exact Kept.move hm hb ih hmove
  obtain ⟨made, hmade, hkept⟩ := hkept _ h.moves
  rw [List.append_nil] at hmade
  rw [h.closed] at hkept
  exact ⟨hkept.answered hmade h.pending, hkept.cache, h.pending⟩

theorem run_loadAll (hm : m.Keyed) (hb : m.batchesFail = false) (c : Config) (l : Loaders)
    (refs : List Ref) (batches : List (BatchName × List Id)) :
    ∃ r batches', (loadAll c l refs).run Memory.handle { m with batches := batches } =
        (.ok (r.loaders, (List.range refs.length).map r.answer), { m with batches := batches' }) ∧
      Round.Over c m l refs r := by
  let loads := (List.range refs.length).zip refs
  let made := loads.foldl (fun r (n, ref) => r.load c n ref) (⟨l, [], []⟩ : Round)
  let shut := BatchName.all.foldl Round.close made
  have hmoves : Relation.ReflTransGen (Round.Moves c m) (loads, ⟨l, [], []⟩) ([], shut) :=
    (Round.loads_moves c m loads _).trans (Round.closes_moves c m BatchName.all made)
  obtain ⟨r, batches', hrun, hfetches, hpending⟩ :=
    Round.fetchAll_moves hm hb c shut shut.closed batches
  refine ⟨{ r with closed := [] }, batches', ?_, hmoves.trans hfetches, rfl, fun name => ?_⟩
  · exact (run_bind_of_eq_ok (a := r) hrun).trans rfl
  · exact (hpending name).trans (Round.pending_closes _ (.inr (Round.mem_all name)))

end Loaders

end Depot.Loader

namespace Depot.GraphQL.Fetch

open Program Loader Store

variable {α β : Type} {c : Loader.Config} {m : Memory} {l : Loaders}

def value (told : Ref → Result Entity) : Fetch α → α
  | .done a => a
  | .load refs next => (next (refs.map told)).value told

def rounds : List (List Ref) → Fetch (List (List (Result Entity)))
  | [] => .done []
  | refs :: rest => .load refs fun rs => (rounds rest).map (rs :: ·)

theorem value_map (told : Ref → Result Entity) (f : α → β) (x : Fetch α) :
    (x.map f).value told = f (x.value told) := by
  induction x with
  | done a => rfl
  | load refs next ih => exact ih _

theorem value_rounds (told : Ref → Result Entity) (l : List (List Ref)) :
    (rounds l).value told = l.map fun refs => refs.map told := by
  induction l with
  | nil => rfl
  | cons refs l ih => rw [rounds, value, value_map, ih, List.map_cons]

/-- How an answer can end that waits for rows, in whatever order its rounds go. -/
inductive Ends (c : Loader.Config) (m : Memory) : Loaders → Fetch α → Loaders × α → Prop
  | done (l : Loaders) (a : α) : Ends c m l (.done a) (l, a)
  | load {l : Loaders} {refs : List Ref} {next : List (Result Entity) → Fetch α} {r : Loaders.Round}
    {x : Loaders × α} (h : r.Over c m l refs)
    (hnext : Ends c m r.loaders (next ((List.range refs.length).map r.answer)) x) :
    Ends c m l (.load refs next) x

theorem Ends.eq_value (hm : m.Keyed) (hb : m.batchesFail = false) {f : Fetch α} {x : Loaders × α}
    (h : Ends c m l f x) (hl : l.Settled m) : x.2 = f.value (Ref.answer m) := by
  induction h with
  | done l a => rfl
  | @load l refs next r x h _ ih =>
    obtain ⟨hanswers, hsettled⟩ := h.answers hm hb hl
    rw [value, ← hanswers]
    exact ih hsettled

theorem run_ends (hm : m.Keyed) (hb : m.batchesFail = false) (c : Loader.Config) (l : Loaders)
    (hl : l.Settled m) (f : Fetch α) (batches : List (BatchName × List Id)) :
    ∃ x batches', (f.run c l).run Memory.handle { m with batches := batches } =
        (.ok x, { m with batches := batches' }) ∧ Ends c m l f x := by
  induction f generalizing l batches with
  | done a => exact ⟨(l, a), batches, rfl, .done l a⟩
  | load refs next ih =>
    obtain ⟨r, batches', hrun, hover⟩ := Loaders.run_loadAll hm hb c l refs batches
    obtain ⟨x, batches'', hrest, hends⟩ := ih _ r.loaders (hover.answers hm hb hl).2 batches'
    refine ⟨x, batches'', ?_, .load hover hends⟩
    exact (run_bind_of_eq_ok hrun).trans hrest

/-- Rounds of loads on one set of loaders all end, and however they go, each load of a row is told the row
that a lookup of its key finds, or no row where the lookup finds none, and each load of the pallets of a
container is told all of them in the order of the list. Keys may be repeated, within a round and in later
ones, and batches may hold as many or as few of them as they like. -/
theorem rounds_agree_with_lookups (hm : m.Keyed) (hb : m.batchesFail = false) (c : Loader.Config)
    (loads : List (List Ref)) :
    (∃ l batches, ((rounds loads).run c .empty).run Memory.handle m =
        (.ok (l, loads.map fun refs => refs.map (Ref.answer m)), { m with batches := batches }) ∧
      Ends c m .empty (rounds loads) (l, loads.map fun refs => refs.map (Ref.answer m))) ∧
      (∀ l results, Ends c m .empty (rounds loads) (l, results) →
        results = loads.map fun refs => refs.map (Ref.answer m)) ∧
      (∀ ref : Ref,
        (∃ row, (ref.lookUp.run Memory.handle m).1 = .ok row ∧ ref.answer m = .ok (some row)) ∨
          ∃ entity, (ref.lookUp.run Memory.handle m).1 = .error (.notFound entity) ∧
            ref.answer m = .ok none) ∧
      ∀ id, ∃ pallets, (Memory.handle (.pallets (.ofContainer id)) m).1 = .ok pallets ∧
        Ref.answer m ⟨.containerPallets, id⟩ = .ok (some (.pallets ⟨id, pallets⟩)) := by
  have hvalue : ∀ l results, Ends c m .empty (rounds loads) (l, results) →
      results = loads.map fun refs => refs.map (Ref.answer m) := fun l results h =>
    (h.eq_value hm hb .empty).trans (value_rounds _ _)
  refine ⟨?_, hvalue, fun ref => ref.found_or_not m, fun id => ⟨_, rfl, rfl⟩⟩
  obtain ⟨⟨l, results⟩, batches, hrun, hends⟩ :=
    run_ends hm hb c .empty .empty (rounds loads) m.batches
  obtain rfl := hvalue l results hends
  exact ⟨l, batches, hrun, hends⟩

/-- The first batch of containers is full when the third load comes, which opens another one for a key that
is asked for already. In the second round all containers are cached, the missing one too. -/
theorem repeated_keys_are_told_the_same :
    ∃ (m : Memory) (x : Container) (y z : Pallet) (l : Loaders),
      x.id = 3 ∧ y.id = 7 ∧ z.id = 8 ∧
        ((rounds [[⟨.containers, 9⟩, ⟨.containers, 3⟩, ⟨.containers, 9⟩, ⟨.containerPallets, 3⟩],
            [⟨.containers, 9⟩, ⟨.containerPallets, 9⟩, ⟨.containers, 3⟩]]).run ⟨5, 2⟩ .empty).run
          Memory.handle m =
        (.ok (l, [[.ok none, .ok (some (.container x)), .ok none, .ok (some (.pallets ⟨3, [y, z]⟩))],
            [.ok none, .ok (some (.pallets ⟨9, []⟩)), .ok (some (.container x))]]),
          { m with batches := [(.containers, [9, 3]), (.containers, [9]), (.containerPallets, [3]),
              (.containerPallets, [9])] }) := by
  let x : Container := { (default : Container) with id := 3 }
  let y : Pallet := { (default : Pallet) with id := 7, containerId := some 3 }
  let z : Pallet := { (default : Pallet) with id := 8, containerId := some 3 }
  let m : Memory := { Memory.empty ⟨0⟩ with
    containers := ⟨[{ x with id := 1 }, x], 3⟩
    pallets := ⟨[y, { y with containerId := none }, z], 8⟩ }
  have hm : m.Keyed := ⟨by decide, by decide, by decide, by decide, by decide⟩
  obtain ⟨⟨l, batches, hrun, -⟩, -⟩ := rounds_agree_with_lookups hm rfl ⟨5, 2⟩
    [[⟨.containers, 9⟩, ⟨.containers, 3⟩, ⟨.containers, 9⟩, ⟨.containerPallets, 3⟩],
      [⟨.containers, 9⟩, ⟨.containerPallets, 9⟩, ⟨.containers, 3⟩]]
  have hbatches : [(.containers, [9, 3]), (.containers, [9]), (.containerPallets, [3]),
      (.containerPallets, [9])] = batches :=
    Eq.trans (by decide +kernel) (congrArg (fun r => r.2.batches) hrun)
  obtain rfl := hbatches
  exact ⟨m, x, y, z, l, rfl, rfl, rfl, hrun⟩

end Depot.GraphQL.Fetch
