import Depot.Proofs.Accounting
import Mathlib.Order.Bounds.Basic

namespace Depot.Loader

variable {ν : Type} {c : Config} {s : Source ν} {requests : List Request} {log : Log ν}
variable {t t' : Timeline ν} {e : Event ν}

section Closing

variable {l : List (Nat × Request)} {x : Nat × Request}

/-- By that time the window of a batch is over or the batch has all the keys that it may have, told
by the loads that join it. -/
def Config.Closes (c : Config) (l : List (Nat × Request)) (time : Nat) : Prop :=
  (∃ first ∈ l.head?, first.2.time + c.wait ≤ time) ∨
    c.limit ≤ ((l.filter (·.2.time ≤ time)).map (·.2.key)).toFinset.card

theorem card_keys_mono {l l' : List (Nat × Request)} (h : l ⊆ l') :
    (l.map (·.2.key)).toFinset.card ≤ (l'.map (·.2.key)).toFinset.card := by
  refine Finset.card_le_card fun key hkey => ?_
  obtain ⟨x, hx, rfl⟩ := List.mem_map.1 (List.mem_toFinset.1 hkey)
  exact List.mem_toFinset.2 (List.mem_map_of_mem (h hx))

theorem isLeast_closes_window (hx : x ∈ l.head?)
    (hroom : (l.map (·.2.key)).toFinset.card < c.limit) :
    IsLeast {time | c.Closes l time} (x.2.time + c.wait) := by
  refine ⟨.inl ⟨x, hx, Nat.le_refl _⟩, fun time htime => ?_⟩
  obtain ⟨y, hy, htime⟩ | hfull := htime
  · obtain rfl : x = y := Option.some.inj (hx.symm.trans hy)
    exact htime
  · have hsub : l.filter (·.2.time ≤ time) ⊆ l := fun _ => List.mem_of_mem_filter
    have := card_keys_mono hsub
    omega

theorem isLeast_closes_limit (hfull : c.limit ≤ ((l ++ [x]).map (·.2.key)).toFinset.card)
    (hroom : (l.map (·.2.key)).toFinset.card < c.limit) (hpast : ∀ y ∈ l, y.2.time ≤ x.2.time)
    (hwindow : ∀ first ∈ l.head?, x.2.time ≤ first.2.time + c.wait) :
    IsLeast {time | c.Closes (l ++ [x]) time} x.2.time := by
  constructor
  · refine .inr ?_
    have hall : (l ++ [x]).filter (·.2.time ≤ x.2.time) = l ++ [x] :=
      List.filter_eq_self.2 fun y hy => by
        obtain hy | hy := List.mem_append.1 hy
        · simpa using hpast y hy
        · simp [List.mem_singleton.1 hy]
    rw [hall]
    exact hfull
  · intro time htime
    obtain ⟨first, hfirst, htime⟩ | hfull := htime
    · cases l with
      | nil =>
        obtain rfl : x = first := Option.some.inj hfirst
        omega
      | cons y l => exact (hwindow first hfirst).trans htime
    · -- before that instant the load was missing, and the others are too few
      by_contra hlt
      have hsub : (l ++ [x]).filter (·.2.time ≤ time) ⊆ l := fun y hy => by
        obtain ⟨hy, hle⟩ := List.mem_filter.1 hy
        obtain hy | hy := List.mem_append.1 hy
        · exact hy
        · rw [List.mem_singleton.1 hy] at hle
          exact absurd (of_decide_eq_true hle) hlt
      have := card_keys_mono hsub
      omega

end Closing

namespace Timeline

/-- The clock may show that time next: it does not go back, and nothing that is due earlier is left
behind. -/
structure Punctual (t : Timeline ν) (time : Nat) : Prop where
  now : t.now ≤ time
  full : t.full = [] ∨ time = t.now
  requests : ∀ x ∈ t.requests, time ≤ x.2.time
  windows : ∀ w ∈ t.windows, time ≤ w.1

/-- What may happen next by the clock. -/
inductive Ticks (c : Config) (s : Source ν) (t : Timeline ν) : Event ν → Timeline ν → Prop
  | load {number : Nat} {r : Request} {rest : List (Nat × Request)}
    (h : t.requests = (number, r) :: rest) (hp : t.Punctual r.time) :
    Ticks c s t (t.state.event number r) (takeRequest c t number r rest)
  | launch {b : Batch} {full : List Batch} (h : t.full = b :: full)
    (hloads : ∀ x ∈ t.requests, t.now < x.2.time) :
    Ticks c s t (.fetch t.now b (s.fetch t.fetches.length b.keys))
      (launch s { t with full := full } t.now b)
  | expire {due number : Nat} {l l' : List (Nat × Nat)} (h : t.windows = l ++ (due, number) :: l')
    (hp : t.Punctual due) (hfull : t.full = []) (hloads : ∀ x ∈ t.requests, due < x.2.time) :
    Ticks c s t (.expiry due number) { t with
      now := due
      state := (t.state.expire number).1
      full := (t.state.expire number).2.toList ++ t.full
      windows := l ++ l' }
  | land {due : Nat} {b : Batch} {o : Outcome ν} {l l' : List (Nat × Batch × Outcome ν)}
    (h : t.flights = l ++ (due, b, o) :: l') {time : Nat} (hp : t.Punctual time) :
    Ticks c s t (.landing time b o) (land { t with flights := l ++ l' } time b o)

theorem Ticks.happens (h : Ticks c s t e t') : Happens c s t e t' := by
  cases h with
  | load h hp => exact .load h
  | launch h hloads => exact .launch (l := []) h t.now
  | @expire due _ _ _ h hp hfull hloads => exact .expire h due
  | @land _ _ _ _ _ h time hp => exact .land h time

/-- What can happen to the loads by the clock, from the first event on. -/
inductive Clocked (c : Config) (s : Source ν) (requests : List Request) : Log ν → Timeline ν → Prop
  | start : Clocked c s requests [] (start requests)
  | next {log : Log ν} {t t' : Timeline ν} {e : Event ν} (h : Clocked c s requests log t)
    (he : Ticks c s t e t') : Clocked c s requests (log ++ [e]) t'

theorem Clocked.course (h : Clocked c s requests log t) :
    Course c s (Timeline.start requests) log t := by
  induction h with
  | start => exact .refl
  | next _ he ih => exact ih.next he.happens

/-- What the clock adds to the books. -/
structure Timed (c : Config) (log : Log ν) (t : Timeline ν) : Prop where
  past : ∀ j ∈ log.joins, j.request.time ≤ t.now
  sorted : ∀ number, (log.joined number).Pairwise (·.2.time ≤ ·.2.time)
  windows : ∀ w ∈ t.windows, ∃ first ∈ (log.joined w.2).head?, w.1 = first.2.time + c.wait
  full : ∀ b ∈ t.full, IsLeast {time | c.Closes (log.joined b.number) time} t.now
  fetches : ∀ f ∈ log.fetches, IsLeast {time | c.Closes (log.joined f.batch.number) time} f.time ∧
    ∀ x ∈ log.joined f.batch.number, x.2.time ≤ f.time
  order : log.fetches.map (·.batch.number) ++ t.full.map (·.number) ++
    t.state.pending.toList.map (·.number) = List.range t.state.nextBatch

namespace Timed

variable {number : Nat} {r : Request} {rest : List (Nat × Request)}

theorem start : Timed c ([] : Log ν) (Timeline.start requests) where
  past := nofun
  sorted _ := .nil
  windows := nofun
  full := nofun
  fetches := nofun
  order := rfl

theorem isLeast_boarded (h : Timed c log t) (hr : Recorded c s requests log t)
    (hp : t.Punctual r.time) (hfull : (t.state.boarded number r.key).isFull c) :
    IsLeast {time | c.Closes (Log.joined (log ++ [.join number r t.state.current]) t.state.current)
      time} r.time := by
  rw [Batch.isFull_iff (hr.boarded_length number r.key).1, hr.boarded_eq, Log.batch,
    Batch.gather_keys_length] at hfull
  rw [Log.joined_concat_join] at hfull ⊢
  have hroom := hr.room_current
  rw [Log.batch, Batch.gather_keys_length] at hroom
  refine isLeast_closes_limit hfull hroom (fun y hy => ?_) fun first hfirst => ?_
  · exact (h.past _ (Log.mem_joined.1 hy)).trans hp.now
  · cases hb : t.state.pending with
    | none =>
      rw [hr.joined_current_eq_nil hb] at hfirst
      cases hfirst
    | some b =>
      obtain ⟨due, hdue⟩ := hr.window b hb
      obtain ⟨first', hfirst', rfl⟩ := h.windows _ hdue
      rw [State.current, hb] at hfirst
      obtain rfl : first = first' := Option.some.inj (hfirst.symm.trans hfirst')
      exact hp.windows _ hdue

theorem join (h : Timed c log t) (hr : Recorded c s requests log t) (hp : t.Punctual r.time)
    (hv : t.state.cached? r.key = none) :
    Timed c (log ++ [.join number r t.state.current]) (takeRequest c t number r rest) := by
  rw [takeRequest_of_missing hv]
  refine ⟨fun j hj => ?_, fun m => ?_, fun w hw => ?_, fun b hb => ?_, fun f hf => ?_, ?_⟩
  · simp only [Log.joins_concat, Event.join?, Option.toList_some, List.mem_append,
      List.mem_singleton] at hj
    obtain hj | rfl := hj
    · exact (h.past j hj).trans hp.now
    · exact Nat.le_refl _
  · by_cases hm : m = t.state.current
    · rw [hm, Log.joined_concat_join]
      refine List.pairwise_append.2 ⟨h.sorted _, List.pairwise_singleton _ _, fun x hx y hy => ?_⟩
      obtain rfl := List.mem_singleton.1 hy
      exact (h.past _ (Log.mem_joined.1 hx)).trans hp.now
    · rw [Log.joined_concat_join_of_ne hm]
      exact h.sorted m
  · obtain hw | hw := List.mem_append.1 hw
    · obtain ⟨first, hfirst, hdue⟩ := h.windows w hw
      exact ⟨first, Log.head?_joined_concat hfirst, hdue⟩
    · rw [State.keepOrClose_opened] at hw
      cases hb : t.state.pending with
      | some b => simp [hb] at hw
      | none =>
        have hcurrent : t.state.current = t.state.nextBatch := by rw [State.current, hb]
        obtain rfl : w = (r.time + c.wait, t.state.current) := by simpa [hb, hcurrent] using hw
        refine ⟨(number, r), ?_, rfl⟩
        rw [Log.joined_concat_join, hr.joined_current_eq_nil hb]
        rfl
  · obtain hb | hb := List.mem_append.1 hb
    · have hne : b.number ≠ t.state.current := hr.number_ne_current (List.mem_append_left _ hb)
      rw [Log.joined_concat_join_of_ne hne]
      have hnow : r.time = t.now := hp.full.resolve_left (List.ne_nil_of_mem hb)
      rw [hnow]
      exact h.full b hb
    · obtain ⟨rfl, hfull⟩ := State.keepOrClose_closed (Option.mem_toList.1 hb)
      rw [State.boarded_number]
      exact h.isLeast_boarded hr hp hfull
  · have hf' : f ∈ log.fetches := by simpa [Event.fetch?] using hf
    have hne : f.batch.number ≠ t.state.current :=
      hr.number_ne_current (List.mem_append_right _ (List.mem_map_of_mem hf'))
    rw [Log.joined_concat_join_of_ne hne]
    exact h.fetches f hf'
  · have horder := h.order
    have hlast : log.fetches.map (·.batch.number) ++ t.full.map (·.number) ++ [t.state.current] =
        List.range (t.state.nextBatch + t.state.pending.elim 1 fun _ => 0) := by
      unfold State.current
      cases hb : t.state.pending with
      | none =>
        rw [hb, Option.toList_none, List.map_nil, List.append_nil] at horder
        rw [horder]
        exact List.range_succ.symm
      | some b => simpa [hb] using horder
    rw [State.keepOrClose_nextBatch, ← hlast]
    obtain ⟨-, hcase⟩ | ⟨-, hcase⟩ := State.keepOrClose_cases c
        { t.state with nextBatch := t.state.nextBatch + t.state.pending.elim 1 fun _ => 0 }
        (t.state.boarded number r.key) (t.state.pending.elim (some t.state.nextBatch) fun _ => none)
    all_goals
      rw [hcase]
      simp [Event.fetch?]

theorem hit (h : Timed c log t) (hp : t.Punctual r.time) {value : Option ν}
    (hv : t.state.cached? r.key = some value) :
    Timed c (log ++ [.hit number r value]) (takeRequest c t number r rest) := by
  have hjoined := Log.joined_concat_of_not_join log (e := .hit number r value) rfl
  rw [takeRequest_of_cached hv]
  refine ⟨fun j hj => ?_, hjoined ▸ h.sorted, ?_, fun b hb => ?_, ?_, ?_⟩
  · exact (h.past j (by simpa [Event.join?] using hj)).trans hp.now
  · simpa [hjoined] using h.windows
  · have hnow : r.time = t.now := hp.full.resolve_left (List.ne_nil_of_mem hb)
    rw [hjoined, hnow]
    exact h.full b hb
  · simpa [Event.fetch?, hjoined] using h.fetches
  · simpa [Event.fetch?] using h.order

theorem launch (h : Timed c log t) {b : Batch} {full : List Batch} (hfull : t.full = b :: full)
    (o : Outcome ν) : Timed c (log ++ [.fetch t.now b o]) { t with
      full := full
      flights := t.flights ++ [(t.now + s.duration, b, o)]
      fetches := t.fetches ++ [⟨t.now, b.keys⟩] } := by
  have hjoined := Log.joined_concat_of_not_join log (e := .fetch t.now b o) rfl
  refine ⟨?_, hjoined ▸ h.sorted, ?_, fun b' hb' => ?_, fun f hf => ?_, ?_⟩
  · simpa [Event.join?] using h.past
  · simpa [hjoined] using h.windows
  · rw [hjoined]
    exact h.full b' (hfull ▸ List.mem_cons_of_mem b hb')
  · rw [hjoined]
    simp only [Log.fetches_concat, Event.fetch?, Option.toList_some, List.mem_append,
      List.mem_singleton] at hf
    obtain hf | rfl := hf
    · exact h.fetches f hf
    · exact ⟨h.full b (hfull ▸ List.mem_cons_self), fun x hx => h.past _ (Log.mem_joined.1 hx)⟩
  · simpa [Event.fetch?, hfull] using h.order

theorem expire (h : Timed c log t) (hr : Recorded c s requests log t) {due : Nat}
    {l l' : List (Nat × Nat)} (hwindows : t.windows = l ++ (due, number) :: l')
    (hp : t.Punctual due) (hfull : t.full = []) : Timed c (log ++ [.expiry due number]) { t with
      now := due
      state := (t.state.expire number).1
      full := (t.state.expire number).2.toList ++ t.full
      windows := l ++ l' } := by
  have hjoined := Log.joined_concat_of_not_join log (e := .expiry due number) rfl
  refine ⟨fun j hj => ?_, hjoined ▸ h.sorted, fun w hw => ?_, fun b hb => ?_, ?_, ?_⟩
  · exact (h.past j (by simpa [Event.join?] using hj)).trans hp.now
  · rw [hjoined]
    refine h.windows w ?_
    rw [hwindows]
    exact ((List.sublist_cons_self _ l').append_left l).subset hw
  · -- the batch that the window closes was waiting for nothing else
    rw [hfull, List.append_nil, Option.mem_toList] at hb
    obtain ⟨b', hpending, rfl, hexpire⟩ | ⟨-, hexpire⟩ := t.state.expire_cases number
    · obtain rfl : b' = b := by simpa [hexpire] using hb
      have hwindow : (due, b'.number) ∈ t.windows := by simp [hwindows]
      obtain ⟨first, hfirst, rfl⟩ := h.windows _ hwindow
      have hroom := hr.room b' hpending
      rw [(hr.pending_eq hpending).1, Log.batch, Batch.gather_keys_length] at hroom
      rw [hjoined]
      exact isLeast_closes_window hfirst hroom
    · simp [hexpire] at hb
  · simpa [Event.fetch?, hjoined] using h.fetches
  · have horder := h.order
    rw [hfull] at horder
    obtain ⟨b, hb, -, hexpire⟩ | ⟨-, hexpire⟩ := t.state.expire_cases number
    · simpa [Event.fetch?, hexpire, hfull, hb] using horder
    · simpa [Event.fetch?, hexpire, hfull] using horder

theorem land (h : Timed c log t) {b : Batch} {o : Outcome ν}
    {flights : List (Nat × Batch × Outcome ν)} {time : Nat} (hp : t.Punctual time) :
    Timed c (log ++ [.landing time b o])
      (Timeline.land { t with flights := flights } time b o) := by
  have hjoined := Log.joined_concat_of_not_join log (e := .landing time b o) rfl
  refine ⟨fun j hj => ?_, hjoined ▸ h.sorted, ?_, fun b' hb' => ?_, ?_, ?_⟩
  · exact (h.past j (by simpa [Event.join?] using hj)).trans hp.now
  · simpa [Timeline.land, hjoined] using h.windows
  · have hnow : time = t.now := hp.full.resolve_left (List.ne_nil_of_mem hb')
    rw [hjoined]
    simpa [Timeline.land, hnow] using h.full b' hb'
  · simpa [Event.fetch?, hjoined] using h.fetches
  · simpa [Timeline.land, Event.fetch?] using h.order

theorem ticks (h : Timed c log t) (hr : Recorded c s requests log t) (he : Ticks c s t e t') :
    Timed c (log ++ [e]) t' := by
  cases he with
  | @load number r rest hrequests hp =>
    unfold State.event
    split
    · rename_i value hv
      exact h.hit hp hv
    · rename_i hv
      exact h.join hr hp hv
  | launch hfull hloads => exact h.launch hfull _
  | expire hwindows hp hfull hloads => exact h.expire hr hwindows hp hfull
  | land hflights hp => exact h.land hp

end Timed

theorem Clocked.timed (h : Clocked c s requests log t) : Timed c log t := by
  induction h with
  | start => exact .start
  | next h he ih => exact ih.ticks h.course.recorded he

end Timeline

end Depot.Loader
