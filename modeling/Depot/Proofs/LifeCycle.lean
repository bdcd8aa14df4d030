import Depot.Proofs.Clock
import Mathlib.Data.Finset.Max

namespace Depot.Loader

variable {ν : Type} {c : Config} {s : Source ν} {requests : List Request} {log : Log ν}
variable {t t' : Timeline ν} {e : Event ν}

theorem le_of_le_head? {α : Type} {f : α → Nat} {l : List α} {bound : Nat}
    (hsorted : l.Pairwise (f · ≤ f ·)) (hfirst : ∀ x ∈ l.head?, bound ≤ f x) :
    ∀ x ∈ l, bound ≤ f x := by
  cases l with
  | nil => nofun
  | cons y rest =>
    intro x hx
    obtain rfl | hx := List.mem_cons.1 hx
    · exact hfirst x rfl
    · exact (hfirst y rfl).trans ((List.pairwise_cons.1 hsorted).1 x hx)

namespace Timeline

/-- All that is to come stands in the order in which it is due. -/
structure Ordered (c : Config) (s : Source ν) (t : Timeline ν) : Prop where
  requests : t.requests.Pairwise (·.2.time ≤ ·.2.time)
  windows : t.windows.Pairwise (·.1 ≤ ·.1)
  flights : t.flights.Pairwise (·.1 ≤ ·.1)
  coming : ∀ x ∈ t.requests, t.now ≤ x.2.time
  ending : ∀ w ∈ t.windows, t.now ≤ w.1 ∧ w.1 ≤ t.now + c.wait
  flying : ∀ f ∈ t.flights, t.now ≤ f.1 ∧ f.1 ≤ t.now + s.duration

theorem leads_iff {time : Nat} {others : List (Option Nat)} :
    leads time others ↔ ∀ o ∈ others, ∀ x ∈ o, time ≤ x := by
  simp [leads, Option.all_eq_true]

theorem lt_of_not_leads {time bound : Nat} {others : List (Option Nat)} (h : ¬ leads time others)
    (hbound : ∀ o ∈ others, ∀ x ∈ o, bound ≤ x) : bound < time := by
  by_contra hle
  exact h (leads_iff.2 fun o ho x hx => (Nat.le_of_not_lt hle).trans (hbound o ho x hx))

namespace Ordered

theorem start (h : requests.Pairwise (·.time ≤ ·.time)) :
    Ordered c s (Timeline.start requests : Timeline ν) where
  requests := by
    have hmap : ((List.range requests.length).zip requests).map (·.2) = requests :=
      List.map_snd_zip (by simp)
    rw [← hmap, List.pairwise_map] at h
    exact h
  windows := .nil
  flights := .nil
  coming _ _ := Nat.zero_le _
  ending := nofun
  flying := nofun

theorem load (h : Ordered c s t) {number : Nat} {r : Request} {rest : List (Nat × Request)}
    (hrequests : t.requests = (number, r) :: rest) (hp : t.Punctual r.time)
    (hflights : ∀ f ∈ t.flights, r.time ≤ f.1) : Ordered c s (takeRequest c t number r rest) := by
  have hsorted := h.requests
  rw [hrequests] at hsorted
  obtain ⟨hcoming, hrest⟩ := List.pairwise_cons.1 hsorted
  have hnow := hp.now
  refine ⟨hrest, List.pairwise_append.2 ⟨h.windows, ?_, fun w hw v hv => ?_⟩, h.flights, hcoming,
    fun w hw => ?_, fun f hf => ⟨hflights f hf, ?_⟩⟩
  · cases (t.state.load c number r.key).opened <;> simp
  · obtain ⟨n, -, rfl⟩ := List.mem_map.1 hv
    have := (h.ending w hw).2
    dsimp only
    omega
  · obtain hw | hw := List.mem_append.1 hw
    · have := (h.ending w hw).2
      exact ⟨hp.windows w hw, by dsimp only [takeRequest]; omega⟩
    · obtain ⟨n, -, rfl⟩ := List.mem_map.1 hw
      exact ⟨Nat.le_add_right _ _, Nat.le_refl _⟩
  · have := (h.flying f hf).2
    dsimp only [takeRequest]
    omega

theorem launch (h : Ordered c s t) (b : Batch) (full : List Batch) :
    Ordered c s (Timeline.launch s { t with full := full } t.now b) := by
  refine ⟨h.requests, h.windows, List.pairwise_append.2 ⟨h.flights, List.pairwise_singleton _ _,
    fun f hf g hg => ?_⟩, h.coming, h.ending, fun f hf => ?_⟩
  · obtain rfl := List.mem_singleton.1 hg
    exact (h.flying f hf).2
  · obtain hf | hf := List.mem_append.1 hf
    · exact h.flying f hf
    · obtain rfl := List.mem_singleton.1 hf
      exact ⟨Nat.le_add_right _ _, Nat.le_refl _⟩

theorem expire (h : Ordered c s t) {due number : Nat} {windows : List (Nat × Nat)}
    (hwindows : t.windows = (due, number) :: windows) (hloads : ∀ x ∈ t.requests, due < x.2.time)
    (hflights : ∀ f ∈ t.flights, due ≤ f.1) (σ : State ν) (full : List Batch) :
    Ordered c s { t with now := due, state := σ, full := full, windows := windows } := by
  have hsorted := h.windows
  have hending := h.ending
  rw [hwindows] at hsorted hending
  obtain ⟨hfirst, hrest⟩ := List.pairwise_cons.1 hsorted
  have hnow := (hending _ List.mem_cons_self).1
  refine ⟨h.requests, hrest, h.flights, fun x hx => (hloads x hx).le, fun w hw => ⟨hfirst w hw, ?_⟩,
    fun f hf => ⟨hflights f hf, ?_⟩⟩
  · have := (hending w (List.mem_cons_of_mem _ hw)).2
    dsimp only at hnow ⊢
    omega
  · have := (h.flying f hf).2
    dsimp only at hnow ⊢
    omega

theorem land (h : Ordered c s t) {due : Nat} {b : Batch} {o : Outcome ν}
    {flights : List (Nat × Batch × Outcome ν)} (hflights : t.flights = (due, b, o) :: flights)
    (hloads : ∀ x ∈ t.requests, due ≤ x.2.time) (hwindows : ∀ w ∈ t.windows, due ≤ w.1) :
    Ordered c s (Timeline.land { t with flights := flights } due b o) := by
  have hsorted := h.flights
  have hflying := h.flying
  rw [hflights] at hsorted hflying
  obtain ⟨hfirst, hrest⟩ := List.pairwise_cons.1 hsorted
  have hnow := (hflying _ List.mem_cons_self).1
  refine ⟨h.requests, h.windows, hrest, hloads, fun w hw => ⟨hwindows w hw, ?_⟩,
    fun f hf => ⟨hfirst f hf, ?_⟩⟩
  · have := (h.ending w hw).2
    dsimp only [Timeline.land] at hnow ⊢
    omega
  · have := (hflying f (List.mem_cons_of_mem _ hf)).2
    dsimp only [Timeline.land] at hnow ⊢
    omega

end Ordered

/-- One event by the clock, or two of one instant. -/
inductive Advances (c : Config) (s : Source ν) (t t' : Timeline ν) : Prop
  | one {e : Event ν} (h : Ticks c s t e t')
  | two {e e' : Event ν} {u : Timeline ν} (h : Ticks c s t e u) (h' : Ticks c s u e' t')

def dues (t : Timeline ν) : List (Option Nat) :=
  [t.full.head?.map fun _ => t.now, t.windowDue, t.flightDue]

def Later (t : Timeline ν) : Prop := ∀ x ∈ t.requests.head?, ¬ leads x.2.time t.dues

namespace Ordered

theorem lt_requests (h : Ordered c s t) (hlater : t.Later) {bound : Nat}
    (hbound : ∀ o ∈ t.dues, ∀ x ∈ o, bound ≤ x) : ∀ x ∈ t.requests, bound < x.2.time :=
  le_of_le_head? h.requests fun x hx => lt_of_not_leads (hlater x hx) hbound

theorem now_le_windowDue (h : Ordered c s t) : ∀ x ∈ t.windowDue, t.now ≤ x := by
  intro x hx
  obtain ⟨w, hw, rfl⟩ := Option.map_eq_some_iff.1 hx
  exact (h.ending w (List.mem_of_mem_head? hw)).1

theorem now_le_flightDue (h : Ordered c s t) : ∀ x ∈ t.flightDue, t.now ≤ x := by
  intro x hx
  obtain ⟨f, hf, rfl⟩ := Option.map_eq_some_iff.1 hx
  exact (h.flying f (List.mem_of_mem_head? hf)).1

theorem le_windows (h : Ordered c s t) {bound : Nat} (hfirst : ∀ x ∈ t.windowDue, bound ≤ x) :
    ∀ w ∈ t.windows, bound ≤ w.1 :=
  le_of_le_head? h.windows fun w hw => hfirst w.1 (Option.map_eq_some_iff.2 ⟨w, hw, rfl⟩)

theorem le_flights (h : Ordered c s t) {bound : Nat} (hfirst : ∀ x ∈ t.flightDue, bound ≤ x) :
    ∀ f ∈ t.flights, bound ≤ f.1 :=
  le_of_le_head? h.flights fun f hf => hfirst f.1 (Option.map_eq_some_iff.2 ⟨f, hf, rfl⟩)

theorem stepFlight (h : Ordered c s t) (hlater : t.Later) (hfull : t.full = [])
    (hwindows : ∀ x ∈ t.windowDue, ∀ y ∈ t.flightDue, y ≤ x) (hstep : stepFlight t = some t') :
    Advances c s t t' ∧ Ordered c s t' := by
  unfold Timeline.stepFlight at hstep
  split at hstep
  · rename_i due b o flights hflights
    cases hstep
    have hdue : t.flightDue = some due := by rw [flightDue, hflights]; rfl
    have hw := h.le_windows fun x hx => hwindows x hx due hdue
    have hloads : ∀ x ∈ t.requests, due < x.2.time := by
      refine h.lt_requests hlater fun o ho x hx => ?_
      simp only [dues, hfull, List.head?_nil, Option.map_none, List.mem_cons, List.not_mem_nil,
        or_false] at ho
      obtain rfl | rfl | rfl := ho
      · cases hx
      · exact hwindows x hx due hdue
      · exact (Option.some.inj (hdue.symm.trans hx)).le
    have hp : t.Punctual due :=
      ⟨h.now_le_flightDue due hdue, .inl hfull, fun x hx => (hloads x hx).le, hw⟩
    exact ⟨.one (.land (l := []) hflights hp), h.land hflights hp.requests hw⟩
  · cases hstep

theorem endWindow (h : Ordered c s t) {due number : Nat} {windows : List (Nat × Nat)}
    (hwindows : t.windows = (due, number) :: windows) (hfull : t.full = []) (hp : t.Punctual due)
    (hloads : ∀ x ∈ t.requests, due < x.2.time) (hflights : ∀ f ∈ t.flights, due ≤ f.1) :
    Advances c s t (Timeline.endWindow s { t with windows := windows } due number) ∧
      Ordered c s (Timeline.endWindow s { t with windows := windows } due number) := by
  have hexpire := Ticks.expire (c := c) (s := s) (l := []) hwindows hp hfull hloads
  have hordered := h.expire hwindows hloads hflights (t.state.expire number).1
    ((t.state.expire number).2.toList ++ t.full)
  unfold Timeline.endWindow
  dsimp only
  cases hclosed : t.state.expire number with
  | mk σ closed =>
    rw [hclosed] at hexpire hordered
    cases closed with
    | none => exact ⟨.one hexpire, hordered⟩
    | some b =>
      have hlaunch := hordered.launch b t.full
      exact ⟨.two hexpire (.launch rfl hloads), hlaunch⟩

theorem stepWindow (h : Ordered c s t) (hlater : t.Later) (hfull : t.full = [])
    (hstep : stepWindow s t = some t') : Advances c s t t' ∧ Ordered c s t' := by
  unfold Timeline.stepWindow at hstep
  split at hstep
  · rename_i due number windows hwindows
    have hdue : t.windowDue = some due := by rw [windowDue, hwindows]; rfl
    split at hstep
    · rename_i hleads
      cases hstep
      have hfirst : ∀ x ∈ t.flightDue, due ≤ x := leads_iff.1 hleads _ List.mem_cons_self
      have hloads : ∀ x ∈ t.requests, due < x.2.time := by
        refine h.lt_requests hlater fun o ho x hx => ?_
        simp only [dues, hfull, List.head?_nil, Option.map_none, List.mem_cons, List.not_mem_nil,
          or_false] at ho
        obtain rfl | rfl | rfl := ho
        · cases hx
        · exact (Option.some.inj (hdue.symm.trans hx)).le
        · exact hfirst x hx
      have hw := h.le_windows fun x hx => (Option.some.inj (hdue.symm.trans hx)).le
      have hp : t.Punctual due :=
        ⟨h.now_le_windowDue due hdue, .inl hfull, fun x hx => (hloads x hx).le, hw⟩
      exact h.endWindow hwindows hfull hp hloads (h.le_flights hfirst)
    · rename_i hleads
      refine h.stepFlight hlater hfull (fun x hx y hy => ?_) hstep
      obtain rfl : due = x := Option.some.inj (hdue.symm.trans hx)
      refine (lt_of_not_leads hleads fun o ho z hz => ?_).le
      rw [List.mem_singleton.1 ho] at hz
      exact (Option.some.inj (hy.symm.trans hz)).le
  · rename_i hwindows
    refine h.stepFlight hlater hfull (fun x hx => ?_) hstep
    rw [windowDue, hwindows] at hx
    cases hx

theorem stepFull (h : Ordered c s t) (hlater : t.Later) (hstep : stepFull s t = some t') :
    Advances c s t t' ∧ Ordered c s t' := by
  unfold Timeline.stepFull at hstep
  split at hstep
  · rename_i b full hfull
    cases hstep
    have hloads : ∀ x ∈ t.requests, t.now < x.2.time := by
      refine h.lt_requests hlater fun o ho x hx => ?_
      simp only [dues, hfull, List.head?_cons, Option.map_some, List.mem_cons, List.not_mem_nil,
        or_false] at ho
      obtain rfl | rfl | rfl := ho
      · exact (Option.some.inj hx).le
      · exact h.now_le_windowDue x hx
      · exact h.now_le_flightDue x hx
    exact ⟨.one (.launch hfull hloads), h.launch b full⟩
  · rename_i hfull
    exact h.stepWindow hlater hfull hstep

theorem step (h : Ordered c s t) (hstep : step c s t = some t') :
    Advances c s t t' ∧ Ordered c s t' := by
  unfold Timeline.step at hstep
  split at hstep
  · rename_i number r rest hrequests
    split at hstep
    · rename_i hleads
      cases hstep
      simp only [leads_iff, List.mem_cons, List.not_mem_nil, or_false, forall_eq_or_imp,
        forall_eq] at hleads
      obtain ⟨hfull, hwindow, hflight⟩ := hleads
      have hnow : t.now ≤ r.time := h.coming (number, r) (by simp [hrequests])
      have hp : t.Punctual r.time := by
        refine ⟨hnow, ?_, ?_, h.le_windows hwindow⟩
        · cases hb : t.full with
          | nil => exact .inl rfl
          | cons b full =>
            rw [hb] at hfull
            exact .inr (Nat.le_antisymm (hfull t.now rfl) hnow)
        · have hfirst : ∀ x ∈ t.requests.head?, r.time ≤ x.2.time := by simp [hrequests]
          exact le_of_le_head? h.requests hfirst
      exact ⟨.one (.load hrequests hp), h.load hrequests hp (h.le_flights hflight)⟩
    · rename_i hleads
      refine h.stepFull (fun x hx => ?_) hstep
      rw [hrequests] at hx
      obtain rfl := Option.some.inj hx
      exact hleads
  · rename_i hrequests
    refine h.stepFull (fun x hx => ?_) hstep
    rw [hrequests] at hx
    cases hx

end Ordered

theorem Advances.work_lt (h : Advances c s t t') : t'.work < t.work := by
  cases h with
  | one h => exact h.happens.work_lt
  | two h h' => exact h'.happens.work_lt.trans h.happens.work_lt

theorem Clocked.advances (h : Clocked c s requests log t) (ha : Advances c s t t') :
    ∃ log', Clocked c s requests log' t' := by
  cases ha with
  | one h₁ => exact ⟨_, h.next h₁⟩
  | two h₁ h₂ => exact ⟨_, (h.next h₁).next h₂⟩

theorem flights_of_stepFlight_eq_none (h : stepFlight t = none) : t.flights = [] := by
  unfold stepFlight at h
  split at h
  · cases h
  · assumption

theorem windows_of_stepWindow_eq_none (h : stepWindow s t = none) :
    t.windows = [] ∧ t.flights = [] := by
  unfold stepWindow at h
  split at h
  · split at h
    · cases h
    · rename_i hleads
      have hflights := flights_of_stepFlight_eq_none h
      refine absurd (leads_iff.2 fun o ho x hx => ?_) hleads
      rw [List.mem_singleton.1 ho, flightDue, hflights] at hx
      cases hx
  · exact ⟨by assumption, flights_of_stepFlight_eq_none h⟩

theorem full_of_stepFull_eq_none (h : stepFull s t = none) :
    t.full = [] ∧ t.windows = [] ∧ t.flights = [] := by
  unfold stepFull at h
  split at h
  · cases h
  · exact ⟨by assumption, windows_of_stepWindow_eq_none h⟩

theorem finished_of_step_eq_none (h : step c s t = none) : t.Finished := by
  unfold step at h
  split at h
  · split at h
    · cases h
    · rename_i hleads
      obtain ⟨hfull, hwindows, hflights⟩ := full_of_stepFull_eq_none h
      refine absurd (leads_iff.2 fun o ho x hx => ?_) hleads
      simp [hfull, windowDue, hwindows, flightDue, hflights] at ho
      rw [ho] at hx
      cases hx
  · rename_i hrequests
    obtain ⟨hfull, hwindows, hflights⟩ := full_of_stepFull_eq_none h
    exact ⟨hrequests, hfull, hwindows, hflights⟩

theorem finished_of_work_eq_zero (h : t.work = 0) : t.Finished := by
  simp only [work, List.length_append] at h
  constructor <;> apply List.eq_nil_of_length_eq_zero <;> omega

theorem Clocked.advance (h : Clocked c s requests log t) (ho : Ordered c s t) {fuel : Nat}
    (hfuel : t.work ≤ fuel) :
    (∃ log', Clocked c s requests log' (advance c s fuel t)) ∧ (advance c s fuel t).Finished := by
  induction fuel generalizing log t with
  | zero => exact ⟨⟨log, h⟩, finished_of_work_eq_zero (Nat.le_zero.1 hfuel)⟩
  | succ fuel ih =>
    unfold Timeline.advance
    split
    · rename_i t' hstep
      obtain ⟨hadvances, ho'⟩ := ho.step hstep
      obtain ⟨log', h'⟩ := h.advances hadvances
      have hlt := hadvances.work_lt
      exact ih h' ho' (by omega)
    · rename_i hstep
      exact ⟨⟨log, h⟩, finished_of_step_eq_none hstep⟩

theorem run_clocked (h : requests.Pairwise (·.time ≤ ·.time)) :
    (∃ log, Clocked c s requests log (run c s requests)) ∧ (run c s requests).Finished :=
  Clocked.advance .start (.start h) (work_start requests).le

/-- What a loader that has nothing left to do has done with its batches. -/
structure LifeCycle (c : Config) (requests : List Request) (log : Log ν) (t : Timeline ν) :
    Prop where
  /-- Every load is answered from the cache or is in one of the batches that were fetched. -/
  joins : (log.hits ++ (log.fetches.map (·.batch)).flatMap Batch.loads).Perm
    (List.range requests.length)
  members : ∀ f ∈ log.fetches, f.batch.members.Perm
    ((log.joined f.batch.number).map fun x => (x.1, x.2.key))
  asked : ∀ number, ∀ x ∈ log.joined number, requests[x.1]? = some x.2
  /-- Every batch that was opened is fetched once, and the earlier one first. -/
  order : log.fetches.map (·.batch.number) = log.opened
  fetches : t.fetches = log.fetches.map fun f => ⟨f.time, f.batch.keys⟩
  /-- The fetch starts when the window of the batch ends, or when the batch has all the keys it may
  have, whichever comes first. -/
  start : ∀ f ∈ log.fetches, ∃ first ∈ (log.joined f.batch.number).head?,
    IsLeast {time | first.2.time + c.wait ≤ time ∨ max 1 c.maxBatch ≤
      (((log.joined f.batch.number).filter (·.2.time ≤ time)).map (·.2.key)).toFinset.card} f.time
  answers : (t.answers.map (·.load)).Perm (List.range requests.length)
  /-- Who was not answered from the cache was answered by the fetch of the batch that the load is
  in, which did not start later than a window lasts. -/
  prompt : ∀ a ∈ t.answers, a.load ∈ log.hits ∨ ∃ f ∈ log.fetches, a.load ∈ f.batch.loads ∧
    ∃ r, requests[a.load]? = some r ∧ a.result = State.tell f.outcome r.key ∧
      r.time ≤ f.time ∧ f.time ≤ r.time + c.wait

theorem Clocked.lifeCycle (h : Clocked c s requests log t) (hf : t.Finished) :
    LifeCycle c requests log t := by
  have hr := h.course.recorded
  have ht := h.timed
  refine ⟨hr.fetched_perm_range hf, fun f => hr.members_perm, fun n x => hr.request_of_joined, ?_,
    hr.fetches, fun f hfetch => ?_, hr.answers_perm_range hf, fun a ha => ?_⟩
  · have horder := ht.order
    rw [hf.full, hr.pending_eq_none hf] at horder
    rw [hr.opened, ← horder]
    simp
  · obtain ⟨first, hfirst⟩ := hr.first_of_fetched hfetch
    have hleast := (ht.fetches f hfetch).1
    simp only [Config.Closes, Config.limit, hfirst, Option.mem_some_iff, exists_eq_left'] at hleast
    exact ⟨first, hfirst, hleast⟩
  · rw [hr.answers] at ha
    obtain hhit | ⟨g, hg, x, hx, rfl⟩ := Log.mem_answers ha
    · exact .inl hhit
    · have hcargo : g.cargo ∈ log.fetches.map Flight.cargo :=
        (hr.landings_perm hf).mem_iff.1 (List.mem_map_of_mem hg)
      obtain ⟨f, hfetch, hfg⟩ := List.mem_map.1 hcargo
      obtain ⟨hbatch, houtcome⟩ := Prod.mk.inj hfg
      rw [← hbatch] at hx
      obtain ⟨r, hjoined, hkey⟩ := hr.mem_members hfetch hx
      refine .inr ⟨f, hfetch, List.mem_map_of_mem hx, r, hr.request_of_joined hjoined, ?_, ?_, ?_⟩
      · rw [houtcome, hkey]
      · exact (ht.fetches f hfetch).2 _ hjoined
      · -- the window of the batch was opened by the first of its loads
        obtain ⟨first, hfirst⟩ := hr.first_of_fetched hfetch
        have hwindow := (ht.fetches f hfetch).1.2 (.inl ⟨first, hfirst, Nat.le_refl _⟩)
        have hearlier := le_of_le_head? (ht.sorted f.batch.number)
          (fun y hy => (congrArg (·.2.time) (Option.some.inj (hfirst.symm.trans hy))).le) _ hjoined
        exact hwindow.trans (Nat.add_le_add_right hearlier _)

/-- Nothing that is to come is overdue. -/
structure Ahead (t : Timeline ν) : Prop where
  sorted : t.requests.Pairwise (·.2.time ≤ ·.2.time)
  requests : ∀ x ∈ t.requests, t.now ≤ x.2.time
  windows : ∀ w ∈ t.windows, t.now ≤ w.1

namespace Ahead

theorem ticks (h : Ahead t) (he : Ticks c s t e t') : Ahead t' := by
  cases he with
  | @load number r rest hrequests hp =>
    have hsorted := h.sorted
    rw [hrequests] at hsorted
    obtain ⟨hcoming, hrest⟩ := List.pairwise_cons.1 hsorted
    refine ⟨hrest, hcoming, fun w hw => ?_⟩
    obtain hw | hw := List.mem_append.1 hw
    · exact hp.windows w hw
    · obtain ⟨n, -, rfl⟩ := List.mem_map.1 hw
      exact Nat.le_add_right _ _
  | launch hfull hloads => exact ⟨h.sorted, h.requests, h.windows⟩
  | @expire due number l l' hwindows hp hfull hloads =>
    refine ⟨h.sorted, hp.requests, fun w hw => hp.windows w ?_⟩
    rw [hwindows]
    exact ((List.sublist_cons_self _ l').append_left l).subset hw
  | land hflights hp => exact ⟨h.sorted, hp.requests, hp.windows⟩

theorem progress (h : Ahead t) (c : Config) (s : Source ν) (hf : ¬ t.Finished) :
    ∃ e t', Ticks c s t e t' := by
  cases hfull : t.full with
  | cons b full =>
    by_cases hload : ∃ x ∈ t.requests.head?, x.2.time ≤ t.now
    · obtain ⟨x, hx, hle⟩ := hload
      obtain ⟨rest, hrequests⟩ := List.head?_eq_some_iff.1 hx
      have hnow := Nat.le_antisymm hle (h.requests x (List.mem_of_mem_head? hx))
      exact ⟨_, _, .load hrequests ⟨hnow.ge, .inr hnow, hnow ▸ h.requests, hnow ▸ h.windows⟩⟩
    · refine ⟨_, _, .launch hfull (le_of_le_head? h.sorted fun x hx => ?_)⟩
      exact Nat.lt_of_not_le fun hle => hload ⟨x, hx, hle⟩
  | nil =>
    by_cases hload : ∃ x ∈ t.requests.head?, ∀ w ∈ t.windows, x.2.time ≤ w.1
    · obtain ⟨x, hx, hwindows⟩ := hload
      obtain ⟨rest, hrequests⟩ := List.head?_eq_some_iff.1 hx
      have hlater : ∀ y ∈ t.requests, x.2.time ≤ y.2.time :=
        le_of_le_head? h.sorted fun y hy => by rw [Option.some.inj (hx.symm.trans hy)]
      exact ⟨_, _, .load hrequests
        ⟨h.requests x (List.mem_of_mem_head? hx), .inl hfull, hlater, hwindows⟩⟩
    · cases hwindows : t.windows with
      | nil =>
        have hrequests : t.requests = [] :=
          List.head?_eq_none_iff.1 <| Option.eq_none_iff_forall_not_mem.2
            fun x hx => hload ⟨x, hx, by simp [hwindows]⟩
        cases hflights : t.flights with
        | nil => exact absurd ⟨hrequests, hfull, hwindows, hflights⟩ hf
        | cons f flights =>
          have hp : t.Punctual t.now :=
            ⟨Nat.le_refl _, .inl hfull, by simp [hrequests], by simp [hwindows]⟩
          exact ⟨_, _, .land (l := []) hflights hp⟩
      | cons v rest =>
        -- of the windows the first to end is due before the next load
        obtain ⟨w, hw, hleast⟩ := t.windows.toFinset.exists_min_image (·.1) ⟨v, by simp [hwindows]⟩
        simp only [List.mem_toFinset] at hw hleast
        have hloads : ∀ x ∈ t.requests, w.1 < x.2.time := le_of_le_head? h.sorted fun x hx => by
          by_contra hlt
          exact hload ⟨x, hx, fun w' hw' => (Nat.le_of_not_lt hlt).trans (hleast w' hw')⟩
        obtain ⟨l, l', hsplit⟩ := List.append_of_mem hw
        exact ⟨_, _, .expire hsplit
          ⟨h.windows w hw, .inl hfull, fun x hx => (hloads x hx).le, hleast⟩ hfull hloads⟩

end Ahead

theorem Clocked.ahead (h : Clocked c s requests log t) (hs : requests.Pairwise (·.time ≤ ·.time)) :
    Ahead t := by
  induction h with
  | start =>
    have hordered : Ordered c s (Timeline.start requests : Timeline ν) := .start hs
    exact ⟨hordered.requests, hordered.coming, nofun⟩
  | next _ he ih => exact ih.ticks he

theorem Clocked.finishes (h : Clocked c s requests log t) (ha : Ahead t) :
    ∃ log' t', Clocked c s requests (log ++ log') t' ∧ t'.Finished := by
  induction hwork : t.work using Nat.strong_induction_on generalizing log t with
  | _ n ih =>
    by_cases hf : t.Finished
    · exact ⟨[], t, by rwa [List.append_nil], hf⟩
    · obtain ⟨e, t', he⟩ := ha.progress c s hf
      have hless : t'.work < n := hwork ▸ he.happens.work_lt
      obtain ⟨log', u, hu, hfu⟩ := ih t'.work hless (h.next he) (ha.ticks he) rfl
      refine ⟨e :: log', u, ?_, hfu⟩
      rwa [List.append_assoc, List.singleton_append] at hu

/-- Whoever keeps to the clock takes every batch through its whole life: the loader as it runs, and
every other course, however long the fetches take. The window of a batch that was full does nothing
when it ends. -/
theorem batches_are_fetched_once_in_time (c : Config) (s : Source ν) (requests : List Request)
    (h : requests.Pairwise (·.time ≤ ·.time)) :
    (∃ log, Clocked c s requests log (run c s requests) ∧
        LifeCycle c requests log (run c s requests)) ∧
      ∀ log t, Clocked c s requests log t →
        (∃ log' t', Clocked c s requests (log ++ log') t' ∧ LifeCycle c requests (log ++ log') t') ∧
        (t.Finished → LifeCycle c requests log t) ∧
        ∀ time number t', Happens c s t (.expiry time number) t' →
          max 1 c.maxBatch ≤ ((log.joined number).map (·.2.key)).toFinset.card →
          t'.state = t.state ∧ t'.full = t.full ∧ t'.flights = t.flights := by
  obtain ⟨⟨log, hlog⟩, hfinished⟩ := run_clocked (c := c) (s := s) h
  refine ⟨⟨log, hlog, hlog.lifeCycle hfinished⟩, fun log t ht => ⟨?_, ht.lifeCycle, ?_⟩⟩
  · obtain ⟨log', t', ht', hf⟩ := ht.finishes (ht.ahead h)
    exact ⟨log', t', ht', ht'.lifeCycle hf⟩
  · intro time number t' he hfull
    have hr := ht.course.recorded
    have hother : ∀ b, t.state.pending = some b → b.number ≠ number := by
      rintro b hb rfl
      have hroom := hr.room b hb
      rw [(hr.pending_eq hb).1, Log.batch, Batch.gather_keys_length] at hroom
      exact absurd hfull (Nat.not_le_of_lt hroom)
    obtain ⟨due, l, l', -, rfl⟩ := he.of_expiry
    obtain ⟨b, hb, hnumber, -⟩ | ⟨-, hexpire⟩ := t.state.expire_cases number
    · exact absurd hnumber (hother b hb)
    · rw [hexpire]
      exact ⟨rfl, rfl, rfl⟩

/-- The second load fills its batch at 1. The window of that batch ends at 3 and leaves the next one
open until 5; the last load comes when its key is cached. -/
theorem window_of_full_batch_closes_no_other :
    ∃ (c : Config) (t : Served String) (requests : List Request),
      requests.Pairwise (·.time ≤ ·.time) ∧
        (run c t.source requests).fetches = [⟨1, [1, 2]⟩, ⟨5, [3]⟩] ∧
        ∃ log, Clocked c t.source requests log (run c t.source requests) ∧
          LifeCycle c requests log (run c t.source requests) := by
  let t : Served String := ⟨[(1, "a"), (3, "b")], 2, [], [], false⟩
  let requests : List Request := [⟨0, 1⟩, ⟨1, 2⟩, ⟨2, 3⟩, ⟨9, 1⟩]
  have hsorted : requests.Pairwise (·.time ≤ ·.time) := by decide
  refine ⟨⟨3, 2⟩, t, requests, hsorted, ?_,
    (batches_are_fetched_once_in_time ⟨3, 2⟩ t.source requests hsorted).1⟩
  decide +kernel

end Timeline

end Depot.Loader
