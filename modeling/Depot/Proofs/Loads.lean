import Depot.Loader.Timeline
import Mathlib.Logic.Relation

namespace Depot.Loader

variable {ν : Type}

def lastRow? (rows : List (Id × ν)) (key : Id) : Option ν :=
  (rows.filter (·.1 == key)).getLast?.map (·.2)

theorem lastValue_eq_lastRow? (rows : List (Id × ν)) (key : Id) :
    State.lastValue rows key = lastRow? rows key := by
  rw [State.lastValue, lastRow?, ← List.head?_filter, List.filter_reverse, List.head?_reverse]

theorem lastRow?_filter {rows : List (Id × ν)} {keys : List Id} {key : Id} (h : key ∈ keys) :
    lastRow? (rows.filter (keys.contains ·.1)) key = lastRow? rows key := by
  have hfilter : (rows.filter (keys.contains ·.1)).filter (·.1 == key) =
      rows.filter (·.1 == key) := by
    rw [List.filter_filter]
    apply List.filter_congr
    intro x _
    by_cases hx : x.1 == key
    · rw [eq_of_beq hx]
      simp [h]
    · simp [hx]
  rw [lastRow?, hfilter, lastRow?]

def Outcome.Truthful (rows : List (Id × ν)) (keys : List Id) : Outcome ν → Prop
  | .rows found => ∀ key ∈ keys, lastRow? found key = lastRow? rows key
  | .failed _ | .lost => True

theorem Served.truthful (t : Served ν) (n : Nat) (keys : List Id) :
    (t.source.fetch n keys).Truthful t.rows keys := by
  simp only [Served.source]
  split
  · exact trivial
  · split
    · exact trivial
    · intro key hkey
      split
      · rfl
      · exact lastRow?_filter hkey

variable {rows : List (Id × ν)} {requests : List Request} {c : Config} {number : Nat} {r : Request}

/-- Whoever waits in the batch for a key has asked for it, and it is fetched. -/
structure Batch.Serves (requests : List Request) (b : Batch) : Prop where
  keys : ∀ w ∈ b.waiters, w.1 ∈ b.keys
  loads : ∀ w ∈ b.waiters, ∀ load ∈ w.2, ∃ r, requests[load]? = some r ∧ r.key = w.1

theorem Batch.Serves.empty (number : Nat) : (Batch.empty number).Serves requests :=
  ⟨fun _ hw => absurd hw List.not_mem_nil, fun _ hw => absurd hw List.not_mem_nil⟩

theorem Batch.Serves.push {b : Batch} (h : b.Serves requests) (hr : requests[number]? = some r) :
    (b.push r.key number).Serves requests := by
  unfold Batch.push
  split
  · -- the key is waited for already: one load more is told
    constructor
    · intro w hw
      obtain ⟨old, hold, rfl⟩ := List.mem_map.1 hw
      have hkeys := h.keys old hold
      split
      · exact hkeys
      · exact hkeys
    · intro w hw load hload
      obtain ⟨old, hold, rfl⟩ := List.mem_map.1 hw
      by_cases hkey : old.1 == r.key
      · simp only [hkey, if_true] at hload ⊢
        obtain hload | hload := List.mem_append.1 hload
        · exact h.loads old hold load hload
        · rw [List.mem_singleton.1 hload]
          exact ⟨r, hr, (eq_of_beq hkey).symm⟩
      · rw [if_neg hkey] at hload ⊢
        exact h.loads old hold load hload
  · constructor
    · intro w hw
      obtain hw | hw := List.mem_append.1 hw
      · exact List.mem_append_left _ (h.keys w hw)
      · rw [List.mem_singleton.1 hw]
        exact List.mem_append_right _ List.mem_cons_self
    · intro w hw load hload
      obtain hw | hw := List.mem_append.1 hw
      · exact h.loads w hw load hload
      · rw [List.mem_singleton.1 hw] at hload ⊢
        rw [List.mem_singleton.1 hload]
        exact ⟨r, hr, rfl⟩

/-- Nothing is cached but what a lookup finds. -/
structure State.Consistent (rows : List (Id × ν)) (requests : List Request) (s : State ν) : Prop where
  cache : ∀ x ∈ s.cache, x.2 = lastRow? rows x.1
  pending : ∀ b, s.pending = some b → b.Serves requests

/-- A load of the key leaves it so, and is told no other. -/
structure Loaded.Consistent (rows : List (Id × ν)) (requests : List Request) (key : Id)
    (l : Loaded ν) : Prop where
  state : l.state.Consistent rows requests
  closed : ∀ b, l.closed = some b → b.Serves requests
  answer : ∀ v, l.answer = some v → v = lastRow? rows key

namespace State.Consistent

variable {s : State ν}

theorem cached? (h : s.Consistent rows requests) {key : Id} {v : Option ν}
    (hv : s.cached? key = some v) : v = lastRow? rows key := by
  obtain ⟨x, hx, rfl⟩ := Option.map_eq_some_iff.1 hv
  have hkey : x.1 = key := by simpa using List.find?_some hx
  rw [h.cache x (List.mem_of_find?_eq_some hx), hkey]

theorem keepOrClose (h : s.Consistent rows requests) {b : Batch} (hb : b.Serves requests)
    (opened : Option Nat) (key : Id) :
    (State.keepOrClose c s b opened).Consistent rows requests key := by
  have hsame : ∀ b', some b = some b' → b'.Serves requests := by
    intro b' hb'
    rwa [← Option.some.inj hb']
  unfold State.keepOrClose
  split
  · exact ⟨⟨h.cache, nofun⟩, hsame, nofun⟩
  · exact ⟨⟨h.cache, hsame⟩, nofun, nofun⟩

theorem load (h : s.Consistent rows requests) (hr : requests[number]? = some r) :
    (s.load c number r.key).Consistent rows requests r.key := by
  unfold State.load
  split
  · rename_i v hv
    refine ⟨h, nofun, fun v' hv' => ?_⟩
    rw [← Option.some.inj hv']
    exact h.cached? hv
  · split
    · rename_i b hb
      exact h.keepOrClose ((h.pending b hb).push hr) none r.key
    · have hnext : State.Consistent rows requests { s with nextBatch := s.nextBatch + 1 } :=
        ⟨h.cache, h.pending⟩
      exact hnext.keepOrClose ((Batch.Serves.empty _).push hr) _ r.key

theorem expire (h : s.Consistent rows requests) (number : Nat) :
    (s.expire number).1.Consistent rows requests ∧
      ∀ b, (s.expire number).2 = some b → b.Serves requests := by
  unfold State.expire
  split
  · rename_i b hb
    split
    · refine ⟨⟨h.cache, nofun⟩, fun b' hb' => ?_⟩
      rw [← Option.some.inj hb']
      exact h.pending b hb
    · exact ⟨h, nofun⟩
  · exact ⟨h, nofun⟩

theorem settle_state (h : s.Consistent rows requests) {b : Batch} {o : Outcome ν}
    (ho : o.Truthful rows b.keys) : (s.settle b o).1.Consistent rows requests := by
  cases o with
  | failed | lost => exact h
  | rows found =>
    refine ⟨fun x hx => ?_, h.pending⟩
    obtain hx | hx := List.mem_append.1 hx
    · obtain ⟨key, hkey, rfl⟩ := List.mem_map.1 hx
      rw [lastValue_eq_lastRow?]
      exact ho key hkey
    · exact h.cache x hx

end State.Consistent

def AgreesWithLookup (rows : List (Id × ν)) (requests : List Request) (answers : List (Answer ν)) :
    Prop :=
  ∀ a ∈ answers, ∀ v, a.result = .ok v →
    ∃ r, requests[a.load]? = some r ∧ v = lastRow? rows r.key

theorem AgreesWithLookup.append {l l' : List (Answer ν)} (h : AgreesWithLookup rows requests l)
    (h' : AgreesWithLookup rows requests l') : AgreesWithLookup rows requests (l ++ l') := by
  intro a ha
  obtain ha | ha := List.mem_append.1 ha
  · exact h a ha
  · exact h' a ha

/-- Those who wait for a fetch are told what a lookup finds, unless they are told an error. -/
theorem State.settle_answers (s : State ν) {b : Batch} {o : Outcome ν} (hb : b.Serves requests)
    (ho : o.Truthful rows b.keys) (time : Nat) : AgreesWithLookup rows requests
      ((s.settle b o).2.map fun (load, result) => ⟨load, time, result⟩) := by
  intro a ha v hv
  have hanswers : (s.settle b o).2 =
      b.waiters.flatMap fun w => w.2.map fun load => (load, State.tell o w.1) := by
    cases o <;> rfl
  rw [hanswers] at ha
  obtain ⟨x, hx, rfl⟩ := List.mem_map.1 ha
  obtain ⟨w, hw, hx⟩ := List.mem_flatMap.1 hx
  obtain ⟨load, hload, rfl⟩ := List.mem_map.1 hx
  obtain ⟨r, hr, hkey⟩ := hb.loads w hw load hload
  refine ⟨r, hr, ?_⟩
  cases o with
  | failed | lost => cases hv
  | rows found =>
    cases hv
    rw [lastValue_eq_lastRow?, hkey]
    exact ho w.1 (hb.keys w hw)

namespace Timeline

/-- What may happen next, whenever it may be: the first of the loads that are still to come, the fetch of
one of the batches that are full, the end of one of the windows, or the answer of one of the fetches. -/
inductive Moves (c : Config) (s : Source ν) : Timeline ν → Timeline ν → Prop
  | load {t : Timeline ν} {number : Nat} {r : Request} {rest : List (Nat × Request)}
    (h : t.requests = (number, r) :: rest) : Moves c s t (takeRequest c t number r rest)
  | launch {t : Timeline ν} {b : Batch} {l l' : List Batch} (h : t.full = l ++ b :: l')
    (time : Nat) : Moves c s t (launch s { t with full := l ++ l' } time b)
  | expire {t : Timeline ν} {due number : Nat} {l l' : List (Nat × Nat)}
    (h : t.windows = l ++ (due, number) :: l') (time : Nat) :
    Moves c s t { t with
      now := time
      state := (t.state.expire number).1
      full := (t.state.expire number).2.toList ++ t.full
      windows := l ++ l' }
  | land {t : Timeline ν} {due : Nat} {b : Batch} {o : Outcome ν}
    {l l' : List (Nat × Batch × Outcome ν)} (h : t.flights = l ++ (due, b, o) :: l') (time : Nat) :
    Moves c s t (land { t with flights := l ++ l' } time b o)

def Scheduled (c : Config) (s : Source ν) (requests : List Request) : Timeline ν → Prop :=
  Relation.ReflTransGen (Moves c s) (start requests)

section Run

variable {c : Config} {s : Source ν} {t t' : Timeline ν}

theorem stepFlight_moves (h : stepFlight t = some t') : Moves c s t t' := by
  unfold stepFlight at h
  split at h
  · rename_i time b o flights hflights
    cases h
    exact .land (l := []) hflights time
  · cases h

theorem endWindow_moves {time number : Nat} {windows : List (Nat × Nat)}
    (h : t.windows = (time, number) :: windows) :
    Relation.ReflTransGen (Moves c s) t (endWindow s { t with windows := windows } time number) := by
  have hexpire : Moves c s t _ := .expire (l := []) h time
  unfold endWindow
  dsimp only
  cases hb : t.state.expire number with
  | mk state closed =>
    rw [hb] at hexpire
    cases closed with
    | none => exact .single hexpire
    | some b => exact .head hexpire (.single (.launch (l := []) rfl time))

theorem stepWindow_moves (h : stepWindow s t = some t') :
    Relation.ReflTransGen (Moves c s) t t' := by
  unfold stepWindow at h
  split at h
  · rename_i time number windows hwindows
    split at h
    · cases h
      exact endWindow_moves hwindows
    · exact .single (stepFlight_moves h)
  · exact .single (stepFlight_moves h)

theorem stepFull_moves (h : stepFull s t = some t') : Relation.ReflTransGen (Moves c s) t t' := by
  unfold stepFull at h
  split at h
  · rename_i b full hfull
    cases h
    exact .single (.launch (l := []) hfull t.now)
  · exact stepWindow_moves h

theorem step_moves (h : step c s t = some t') : Relation.ReflTransGen (Moves c s) t t' := by
  unfold step at h
  split at h
  · rename_i number r rest hrequests
    split at h
    · cases h
      exact .single (.load hrequests)
    · exact stepFull_moves h
  · exact stepFull_moves h

theorem advance_moves (fuel : Nat) : Relation.ReflTransGen (Moves c s) t (advance c s fuel t) := by
  induction fuel generalizing t with
  | zero => exact .refl
  | succ fuel ih =>
    unfold advance
    split
    · rename_i t' hstep
      exact (step_moves hstep).trans ih
    · exact .refl

end Run

/-- What all moves keep. -/
structure Consistent (rows : List (Id × ν)) (requests : List Request) (t : Timeline ν) : Prop where
  coming : ∀ x ∈ t.requests, requests[x.1]? = some x.2
  state : t.state.Consistent rows requests
  full : ∀ b ∈ t.full, b.Serves requests
  flights : ∀ f ∈ t.flights, f.2.1.Serves requests ∧ f.2.2.Truthful rows f.2.1.keys
  answers : AgreesWithLookup rows requests t.answers

namespace Consistent

theorem start : (Timeline.start requests).Consistent rows requests where
  coming x hx := by
    obtain ⟨i, hi⟩ := List.mem_iff_getElem?.1 hx
    obtain ⟨hnumber, hrequest⟩ := List.getElem?_zip_eq_some.1 hi
    have hx : x.1 = i := by
      obtain ⟨hlt, hx⟩ := List.getElem?_eq_some_iff.1 hnumber
      simpa using hx.symm
    rw [hx]
    exact hrequest
  state := ⟨fun _ hx => absurd hx List.not_mem_nil, nofun⟩
  full := fun _ hb => absurd hb List.not_mem_nil
  flights := fun _ hf => absurd hf List.not_mem_nil
  answers := fun _ ha => absurd ha List.not_mem_nil

variable {s : Source ν} {t t' : Timeline ν}

theorem takeRequest (h : t.Consistent rows requests) {rest : List (Nat × Request)}
    (hrequests : t.requests = (number, r) :: rest) :
    (takeRequest c t number r rest).Consistent rows requests := by
  have hr : requests[number]? = some r := h.coming (number, r) (by simp [hrequests])
  have hl := h.state.load (c := c) hr
  refine ⟨fun x hx => ?_, hl.state, fun b hb => ?_, h.flights,
    h.answers.append fun a ha v hv => ?_⟩
  · apply h.coming x
    rw [hrequests]
    exact List.mem_cons_of_mem _ hx
  · obtain hb | hb := List.mem_append.1 hb
    · exact h.full b hb
    · exact hl.closed b (Option.mem_toList.1 hb)
  · obtain ⟨v', hv', rfl⟩ := List.mem_map.1 ha
    obtain rfl : v' = v := by simpa using hv
    exact ⟨r, hr, hl.answer v' (Option.mem_toList.1 hv')⟩

theorem launch (h : t.Consistent rows requests)
    (hs : ∀ n keys, (s.fetch n keys).Truthful rows keys) {b : Batch} (hb : b.Serves requests)
    (time : Nat) : (launch s t time b).Consistent rows requests := by
  refine ⟨h.coming, h.state, h.full, fun f hf => ?_, h.answers⟩
  obtain hf | hf := List.mem_append.1 hf
  · exact h.flights f hf
  · rw [List.mem_singleton.1 hf]
    exact ⟨hb, hs _ _⟩

theorem land (h : t.Consistent rows requests) {b : Batch} {o : Outcome ν} (hb : b.Serves requests)
    (ho : o.Truthful rows b.keys) (time : Nat) :
    (land t time b o).Consistent rows requests :=
  ⟨h.coming, h.state.settle_state ho, h.full, h.flights,
    h.answers.append (t.state.settle_answers hb ho time)⟩

theorem move (h : t.Consistent rows requests)
    (hs : ∀ n keys, (s.fetch n keys).Truthful rows keys) (hm : Moves c s t t') :
    t'.Consistent rows requests := by
  cases hm with
  | load hrequests => exact h.takeRequest hrequests
  | @launch b l l' hfull time =>
    have hb : b.Serves requests := h.full b (by simp [hfull])
    have hrest : ({ t with full := l ++ l' } : Timeline ν).Consistent rows requests := by
      refine ⟨h.coming, h.state, fun b' hb' => h.full b' ?_, h.flights, h.answers⟩
      rw [hfull]
      exact ((List.sublist_cons_self b l').append_left l).subset hb'
    exact hrest.launch hs hb time
  | @expire due number l l' hwindows time =>
    obtain ⟨hstate, hclosed⟩ := h.state.expire number
    refine ⟨h.coming, hstate, fun b hb => ?_, h.flights, h.answers⟩
    obtain hb | hb := List.mem_append.1 hb
    · exact hclosed b (Option.mem_toList.1 hb)
    · exact h.full b hb
  | @land due b o l l' hflights time =>
    obtain ⟨hb, ho⟩ := h.flights (due, b, o) (by simp [hflights])
    have hrest : ({ t with flights := l ++ l' } : Timeline ν).Consistent rows requests := by
      refine ⟨h.coming, h.state, h.full, fun f hf => h.flights f ?_, h.answers⟩
      rw [hflights]
      exact ((List.sublist_cons_self _ l').append_left l).subset hf
    exact hrest.land hb ho time

end Consistent

theorem Scheduled.consistent {s : Source ν} {t : Timeline ν}
    (hs : ∀ n keys, (s.fetch n keys).Truthful rows keys) (h : Scheduled c s requests t) :
    t.Consistent rows requests := by
  induction h with
  | refl => exact .start
  | tail _ hm ih => exact ih.move hs hm

/-- A load that is answered at all is answered like a lookup: by the loader as it runs, and by any other
order in which its loads, windows, fetches and answers could come. -/
theorem loads_agree_with_lookup (c : Config) (t : Served ν) (requests : List Request) :
    AgreesWithLookup t.rows requests (run c t.source requests).answers ∧
      ∀ x, Scheduled c t.source requests x → AgreesWithLookup t.rows requests x.answers := by
  have hall : ∀ x, Scheduled c t.source requests x → AgreesWithLookup t.rows requests x.answers :=
    fun x hx => (hx.consistent t.truthful).answers
  have hrun : Scheduled c t.source requests (run c t.source requests) := advance_moves _
  exact ⟨hall _ hrun, hall⟩

/-- A batch that is full answers the first two loads. The third one comes while its key is under way and
opens a batch of its own, the fourth one finds the key in the cache, and the fetch for the last one
fails. -/
theorem loads_answered_by_batch_and_cache :
    ∃ (c : Config) (t : Served String) (requests : List Request),
      ((run c t.source requests).answers.map fun a => (a.load, a.result.toOption)) =
          [(0, some (some "c")), (1, some none), (3, some (some "c")), (2, some (some "c")), (4, none)] ∧
        AgreesWithLookup t.rows requests (run c t.source requests).answers := by
  let t : Served String := ⟨[(1, "a"), (2, "b"), (1, "c")], 5, [2], [], false⟩
  let requests : List Request := [⟨0, 1⟩, ⟨1, 3⟩, ⟨3, 1⟩, ⟨7, 1⟩, ⟨8, 2⟩]
  refine ⟨⟨2, 2⟩, t, requests, ?_, (loads_agree_with_lookup ⟨2, 2⟩ t requests).1⟩
  decide +kernel

end Timeline

end Depot.Loader
