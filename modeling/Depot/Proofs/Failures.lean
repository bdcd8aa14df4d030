import Depot.Proofs.Caching

namespace Depot.Loader

variable {ν : Type} {c : Config} {s : Source ν} {requests : List Request} {log log' : Log ν}
variable {t₀ t t' u u' : Timeline ν} {e : Event ν}

def Outcome.error? : Outcome ν → Option Error
  | .rows _ => none
  | .failed e => some e
  | .lost => some State.dropped

theorem State.settle_of_error {o : Outcome ν} {err : Error} (h : o.error? = some err) (σ : State ν)
    (b : Batch) : σ.settle b o = (σ, b.members.map fun x => (x.1, .error err)) := by
  have hanswers := Batch.settle_answers_eq σ b o
  cases o with
  | rows found => cases h
  | failed | lost =>
    cases h
    exact Prod.ext rfl hanswers

theorem perm_cons_of_perm_middle {α : Type} {x y : α} {l l' m m' : List α}
    (h : (m ++ y :: m').Perm (x :: (l ++ y :: l'))) : (m ++ m').Perm (x :: (l ++ l')) := by
  have hright : (x :: (l ++ y :: l')).Perm (y :: x :: (l ++ l')) :=
    (List.perm_middle.cons x).trans (.swap y x _)
  exact (List.perm_cons y).1 (List.perm_middle.symm.trans (h.trans hright))

namespace Timeline

/-- Two loaders that differ in one fetch: it is under way in the first one; in the second one it is
over, and that much has been told because of it. -/
structure Beside (b : Batch) (o : Outcome ν) (told : List (Answer ν)) (t t' : Timeline ν) :
    Prop where
  state : t'.state = t.state
  requests : t'.requests = t.requests
  full : t'.full = t.full
  windows : t'.windows = t.windows
  fetches : t'.fetches = t.fetches
  flights : ∃ due, t.flights.Perm ((due, b, o) :: t'.flights)
  answers : t'.answers.Perm (t.answers ++ told)

namespace Beside

variable {b : Batch} {o : Outcome ν} {told : List (Answer ν)} (h : Beside b o told t t')

include h

theorem answers_append (l : List (Answer ν)) : (t'.answers ++ l).Perm (t.answers ++ l ++ told) := by
  refine (h.answers.append_right l).trans ?_
  rw [List.append_assoc, List.append_assoc]
  exact List.perm_append_comm.append_left _

theorem takeRequest (number : Nat) (r : Request) (rest : List (Nat × Request)) :
    Beside b o told (takeRequest c t number r rest) (takeRequest c t' number r rest) := by
  have hload : t'.state.load c number r.key = t.state.load c number r.key := by rw [h.state]
  refine ⟨?_, rfl, ?_, ?_, h.fetches, h.flights, ?_⟩
  · exact congrArg Loaded.state hload
  · simp only [Timeline.takeRequest, h.full, hload]
  · simp only [Timeline.takeRequest, h.windows, hload]
  · simp only [Timeline.takeRequest, hload]
    exact h.answers_append _

theorem launch (time : Nat) (b' : Batch) (l : List Batch) :
    Beside b o told (launch s { t with full := l } time b')
      (launch s { t' with full := l } time b') := by
  obtain ⟨due, hperm⟩ := h.flights
  refine ⟨h.state, h.requests, rfl, h.windows, ?_, ⟨due, ?_⟩, h.answers⟩
  · simp only [Timeline.launch, h.fetches]
  · simp only [Timeline.launch, h.fetches]
    exact hperm.append_right _

theorem expire (time number : Nat) (l : List (Nat × Nat)) :
    Beside b o told
      { t with
        now := time
        state := (t.state.expire number).1
        full := (t.state.expire number).2.toList ++ t.full
        windows := l }
      { t' with
        now := time
        state := (t'.state.expire number).1
        full := (t'.state.expire number).2.toList ++ t'.full
        windows := l } := by
  refine ⟨?_, h.requests, ?_, rfl, h.fetches, h.flights, h.answers⟩
  · simp only [h.state]
  · simp only [h.state, h.full]

theorem land {due : Nat} {l m : List (Nat × Batch × Outcome ν)} (hperm : m.Perm ((due, b, o) :: l))
    (time : Nat) (b' : Batch) (o' : Outcome ν) :
    Beside b o told (land { t with flights := m } time b' o')
      (land { t' with flights := l } time b' o') := by
  refine ⟨?_, h.requests, h.full, h.windows, h.fetches, ⟨due, hperm⟩, ?_⟩
  · simp only [Timeline.land, h.state]
  · simp only [Timeline.land, h.state]
    exact h.answers_append _

theorem happens (he : Happens c s t' e u') : ∃ u, Happens c s t e u ∧ Beside b o told u u' := by
  cases he with
  | load hrequests =>
    rw [h.state]
    exact ⟨_, .load (h.requests ▸ hrequests), h.takeRequest _ _ _⟩
  | @launch b' l l' hfull time =>
    have houtcome : s.fetch t'.fetches.length b'.keys = s.fetch t.fetches.length b'.keys := by
      rw [h.fetches]
    rw [houtcome]
    exact ⟨_, .launch (h.full ▸ hfull) time, h.launch time _ _⟩
  | expire hwindows time => exact ⟨_, .expire (h.windows ▸ hwindows) time, h.expire time _ _⟩
  | @land due' b' o' l l' hflights time =>
    obtain ⟨due, hperm⟩ := h.flights
    have hmem : (due', b', o') ∈ t.flights := by
      rw [hperm.mem_iff, hflights]
      simp
    obtain ⟨m, m', hsplit⟩ := List.append_of_mem hmem
    rw [hsplit, hflights] at hperm
    exact ⟨_, .land hsplit time, h.land (perm_cons_of_perm_middle hperm) time _ _⟩

theorem happens_of_ne (he : Happens c s t e u) (hne : ∀ time, e ≠ .landing time b o) :
    ∃ u', Happens c s t' e u' ∧ Beside b o told u u' := by
  cases he with
  | load hrequests =>
    rw [← h.state]
    exact ⟨_, .load (h.requests ▸ hrequests), h.takeRequest _ _ _⟩
  | @launch b' l l' hfull time =>
    have houtcome : s.fetch t.fetches.length b'.keys = s.fetch t'.fetches.length b'.keys := by
      rw [h.fetches]
    rw [houtcome]
    exact ⟨_, .launch (h.full ▸ hfull) time, h.launch time _ _⟩
  | expire hwindows time => exact ⟨_, .expire (h.windows ▸ hwindows) time, h.expire time _ _⟩
  | @land due' b' o' m m' hflights time =>
    obtain ⟨due, hperm⟩ := h.flights
    have hmem : (due', b', o') ∈ (due, b, o) :: t'.flights := by
      rw [← hperm.mem_iff, hflights]
      simp
    obtain heq | hmem := List.mem_cons.1 hmem
    · cases heq
      exact absurd rfl (hne time)
    · obtain ⟨l, l', hsplit⟩ := List.append_of_mem hmem
      rw [hsplit, hflights] at hperm
      exact ⟨_, .land hsplit time, h.land (perm_cons_of_perm_middle hperm) time _ _⟩

theorem course (hc : Course c s t' log u') : ∃ u, Course c s t log u ∧ Beside b o told u u' := by
  induction hc with
  | refl => exact ⟨t, .refl, h⟩
  | next _ he ih =>
    obtain ⟨v, hv, hbeside⟩ := ih
    obtain ⟨u, hu, hbeside'⟩ := hbeside.happens he
    exact ⟨u, hv.next hu, hbeside'⟩

theorem course_of_not_mem (hc : Course c s t log u)
    (hnot : ∀ time, .landing time b o ∉ log) :
    ∃ u', Course c s t' log u' ∧ Beside b o told u u' := by
  induction hc with
  | refl => exact ⟨t', .refl, h⟩
  | next _ he ih =>
    obtain ⟨v, hv, hbeside⟩ := ih fun time hmem => hnot time (List.mem_append_left _ hmem)
    obtain ⟨u', hu', hbeside'⟩ := hbeside.happens_of_ne he fun time heq =>
      hnot time (List.mem_append_right _ (List.mem_singleton.2 heq.symm))
    exact ⟨u', hv.next hu', hbeside'⟩

end Beside

theorem exists_happens (c : Config) (s : Source ν) (hf : ¬ t.Finished) :
    ∃ e t', Happens c s t e t' := by
  cases hrequests : t.requests with
  | cons x rest => exact ⟨_, _, .load hrequests⟩
  | nil =>
    cases hfull : t.full with
    | cons b l => exact ⟨_, _, .launch (l := []) hfull 0⟩
    | nil =>
      cases hwindows : t.windows with
      | cons w l => exact ⟨_, _, .expire (l := []) hwindows 0⟩
      | nil =>
        cases hflights : t.flights with
        | cons f l => exact ⟨_, _, .land (l := []) hflights 0⟩
        | nil => exact absurd ⟨hrequests, hfull, hwindows, hflights⟩ hf

namespace Course

theorem length_le (h : Course c s t₀ log t) : log.length + t.work ≤ t₀.work := by
  induction h with
  | refl => simp
  | next _ he ih =>
    have hlt := he.work_lt
    simp only [List.length_append, List.length_singleton]
    omega

theorem finishes (c : Config) (s : Source ν) (t : Timeline ν) :
    ∃ log u, Course c s t log u ∧ u.Finished := by
  induction hwork : t.work using Nat.strong_induction_on generalizing t with
  | _ n ih =>
    by_cases hf : t.Finished
    · exact ⟨[], t, .refl, hf⟩
    · obtain ⟨e, t', he⟩ := exists_happens c s hf
      obtain ⟨log, u, hu, hfu⟩ := ih t'.work (hwork ▸ he.work_lt) t' rfl
      exact ⟨_, u, (Course.single he).append hu, hfu⟩

end Course

namespace Recorded

theorem eq_of_number_eq (h : Recorded c s requests log t) {f g : Flight ν} (hf : f ∈ log.fetches)
    (hg : g ∈ log.fetches) (heq : f.batch.number = g.batch.number) : f = g := by
  have hnodup := h.numbers_perm.nodup_iff.2 List.nodup_range
  rw [List.map_append, List.map_map] at hnodup
  exact List.inj_on_of_nodup_map hnodup.of_append_right hf hg heq

variable (h : Recorded c s requests log t) (hf : t.Finished)

include h hf

theorem exists_fetch {number : Nat} (hopened : number ∈ log.opened) :
    ∃ f ∈ log.fetches, f.batch.number = number := by
  have hmem : log.batch number ∈ log.fetches.map (·.batch) := by
    rw [(h.fetches_perm hf).mem_iff, ← h.opened]
    exact List.mem_map_of_mem hopened
  obtain ⟨f, hfetch, hbatch⟩ := List.mem_map.1 hmem
  exact ⟨f, hfetch, by rw [hbatch, Log.batch_number]⟩

theorem told_of_fetched {f : Flight ν} (hfetch : f ∈ log.fetches) {x : Nat × Request}
    (hx : x ∈ log.joined f.batch.number) :
    ∃ time, ⟨x.1, time, State.tell f.outcome x.2.key⟩ ∈ t.answers := by
  have hcargo := (h.landings_perm hf).mem_iff.2 (List.mem_map_of_mem hfetch)
  obtain ⟨g, hg, hgf⟩ := List.mem_map.1 hcargo
  obtain ⟨hbatch, houtcome⟩ := Prod.mk.inj hgf
  have hmember : (x.1, x.2.key) ∈ g.batch.members := by
    rw [hbatch, (h.members_perm hfetch).mem_iff]
    exact List.mem_map_of_mem hx
  rw [h.answers, ← houtcome]
  exact ⟨g.time, List.mem_flatMap.2 ⟨_, Log.mem_landings.1 hg, List.mem_map_of_mem hmember⟩⟩

end Recorded

/-- What the end of a fetch without rows comes to, with the log up to it and what is told because of
it. -/
structure Contained (c : Config) (s : Source ν) (log : Log ν) (f : Flight ν) (err : Error)
    (told : List (Answer ν)) (t t' : Timeline ν) : Prop where
  /-- The error is told to those who joined the batch, to all of them and to nobody else. -/
  members : told.Perm ((log.joined f.batch.number).map fun x => ⟨x.1, f.time, .error err⟩)
  answers : t'.answers = t.answers ++ told
  /-- The cache stays as it is, and so does all else that was waiting or under way. -/
  beside : Beside f.batch f.outcome told t t'
  /-- What can happen afterwards could have happened with the fetch still under way. -/
  follows : ∀ log' u', Course c s t' log' u' →
    ∃ u, Course c s t log' u ∧ Beside f.batch f.outcome told u u'
  /-- What could have happened with the fetch still under way can happen afterwards. -/
  leads : ∀ log' u, Course c s t log' u → (∀ time, .landing time f.batch f.outcome ∉ log') →
    ∃ u', Course c s t' log' u' ∧ Beside f.batch f.outcome told u u'
  ends : ∀ log' u, Course c s t' log' u → (u.answers.map (·.load)).Nodup ∧
    log'.length ≤ t'.work ∧ ∃ log'' u', Course c s u log'' u' ∧ u'.Finished
  /-- In the end every other batch was fetched, and those who joined it are told what its own fetch
  has found, the one that was under way if it was. -/
  others : ∀ log' u, Course c s t' log' u → u.Finished → ∀ b ∈ t'.waiting,
    ∃ g ∈ Log.fetches (log ++ .landing f.time f.batch f.outcome :: log'),
      g.batch.number = b.number ∧ (∀ due o, (due, b, o) ∈ t'.flights → g.outcome = o) ∧
      ∀ x ∈ Log.joined (log ++ .landing f.time f.batch f.outcome :: log') b.number,
        ∃ time, ⟨x.1, time, State.tell g.outcome x.2.key⟩ ∈ u.answers
  /-- Whoever asks later for a key that is not cached joins another batch. That is fetched after it,
  and the load is told what the fetch has found. -/
  retried : ∀ log' u, Course c s t' log' u → ∀ load r rest, u.requests = (load, r) :: rest →
    u.state.cached? r.key = none → u.state.current ≠ f.batch.number ∧
      Happens c s u (.join load r u.state.current) (takeRequest c u load r rest) ∧
      ∀ log'' u', Course c s (takeRequest c u load r rest) log'' u' → u'.Finished →
        ∃ g ∈ Log.fetches log'', g.batch.number = u.state.current ∧ r.key ∈ g.batch.keys ∧
          ∃ time, ⟨load, time, State.tell g.outcome r.key⟩ ∈ u'.answers

namespace Recorded

theorem others (h : Recorded c s requests log t) (h' : Recorded c s requests (log ++ log') u)
    (hf : u.Finished) {b : Batch} (hb : b ∈ t.waiting) :
    ∃ g ∈ Log.fetches (log ++ log'), g.batch.number = b.number ∧
      (∀ due o, (due, b, o) ∈ t.flights → g.outcome = o) ∧
      ∀ x ∈ Log.joined (log ++ log') b.number,
        ∃ time, ⟨x.1, time, State.tell g.outcome x.2.key⟩ ∈ u.answers := by
  have hopened := h.opened_of_waiting (List.mem_append_left _ hb)
  obtain ⟨g, hg, hnumber⟩ := h'.exists_fetch hf (Log.mem_opened_append hopened log')
  refine ⟨g, hg, hnumber, fun due o hflight => ?_, fun x hx => ?_⟩
  · obtain ⟨hcargo, -⟩ := h.flight_eq (List.mem_append_left _ (List.mem_map_of_mem hflight))
    obtain ⟨g', hg', heq⟩ := List.mem_map.1 hcargo
    obtain ⟨hbatch, houtcome⟩ := Prod.mk.inj heq
    have hmem : g' ∈ Log.fetches (log ++ log') := by
      rw [Log.fetches_append]
      exact List.mem_append_left _ hg'
    rw [h'.eq_of_number_eq hg hmem (by rw [hnumber, hbatch]), houtcome]
  · rw [← hnumber] at hx
    exact h'.told_of_fetched hf hg hx

theorem told_later (h : Recorded c s requests log t) {load : Nat} {r : Request}
    (h' : Recorded c s requests (log ++ .join load r t.state.current :: log') u) (hf : u.Finished) :
    ∃ g ∈ Log.fetches log', g.batch.number = t.state.current ∧ r.key ∈ g.batch.keys ∧
      ∃ time, ⟨load, time, State.tell g.outcome r.key⟩ ∈ u.answers := by
  have hjoin : ⟨load, r, t.state.current⟩ ∈
      Log.joins (log ++ .join load r t.state.current :: log') := Log.mem_joins.2 (by simp)
  obtain ⟨g, hg, hnumber⟩ := h'.exists_fetch hf (Log.mem_opened.2 ⟨_, hjoin, rfl⟩)
  have hjoined : (load, r) ∈
      Log.joined (log ++ .join load r t.state.current :: log') g.batch.number := by
    rw [hnumber]
    exact Log.mem_joined.2 hjoin
  refine ⟨g, ?_, hnumber, ?_, h'.told_of_fetched hf hg hjoined⟩
  · have hmem := hg
    rw [Log.fetches_append] at hmem
    refine (List.mem_append.1 hmem).resolve_left fun hearlier => ?_
    exact h.number_ne_current (List.mem_append_right _ (List.mem_map_of_mem hearlier)) hnumber
  · rw [h'.keys_eq hg, List.mem_eraseDups]
    exact List.mem_map_of_mem hjoined

end Recorded

theorem Course.told_later (h : Course c s (start requests) log t) {load : Nat} {r : Request}
    {rest : List (Nat × Request)} (hrequests : t.requests = (load, r) :: rest)
    (hmissing : t.state.cached? r.key = none) :
    Happens c s t (.join load r t.state.current) (takeRequest c t load r rest) ∧
      ∀ log' u, Course c s (takeRequest c t load r rest) log' u → u.Finished →
        ∃ g ∈ Log.fetches log', g.batch.number = t.state.current ∧ r.key ∈ g.batch.keys ∧
          ∃ time, ⟨load, time, State.tell g.outcome r.key⟩ ∈ u.answers := by
  have hevent : t.state.event load r = .join load r t.state.current := by
    simp only [State.event, hmissing]
  have he : Happens c s t (.join load r t.state.current) (takeRequest c t load r rest) :=
    hevent ▸ .load hrequests
  refine ⟨he, fun log' u hc hf => ?_⟩
  have hlater := (h.next he).append hc
  rw [← List.append_cons] at hlater
  exact h.recorded.told_later hlater.recorded hf

/-- A fetch that ends without rows is over, and nothing else has changed but what its loads are
told. -/
theorem Happens.beside {time : Nat} {b : Batch} {o : Outcome ν} {err : Error}
    (h : Happens c s t (.landing time b o) t') (ho : o.error? = some err) :
    t'.answers = t.answers ++ b.members.map (fun x => ⟨x.1, time, .error err⟩) ∧
      Beside b o (b.members.map fun x => ⟨x.1, time, .error err⟩) t t' := by
  obtain ⟨due, l, l', hflights, rfl⟩ := h.of_landing
  have hanswers : (Timeline.land { t with flights := l ++ l' } time b o).answers =
      t.answers ++ b.members.map (fun x => ⟨x.1, time, .error err⟩) := by
    simp [Timeline.land, State.settle_of_error ho]
  refine ⟨hanswers, ?_, rfl, rfl, rfl, rfl, ⟨due, ?_⟩, ?_⟩
  · simp [Timeline.land, State.settle_of_error ho]
  · rw [hflights]
    exact List.perm_middle
  · rw [hanswers]

/-- Whatever fetches fail or are lost, and whatever else happens in whatever order. -/
theorem failures_stay_with_their_batch (c : Config) (s : Source ν) (requests : List Request)
    {log : Log ν} {t t' : Timeline ν} {time : Nat} {b : Batch} {o : Outcome ν} {err : Error}
    (h : Course c s (start requests) log t) (he : Happens c s t (.landing time b o) t')
    (ho : o.error? = some err) : ∃ told, Contained c s log ⟨time, b, o⟩ err told t t' := by
  obtain ⟨hanswers, hbeside⟩ := he.beside ho
  have hr := h.recorded
  -- the fetch that ends now was started before
  obtain ⟨due, hflights⟩ := hbeside.flights
  have hflight : (b, o) ∈ t.flights.map (·.2) :=
    List.mem_map.2 ⟨(due, b, o), hflights.mem_iff.2 List.mem_cons_self, rfl⟩
  obtain ⟨f, hf, hcargo⟩ := List.mem_map.1 (hr.flight_eq (List.mem_append_left _ hflight)).1
  obtain ⟨rfl, rfl⟩ := Prod.mk.inj hcargo
  have hall {log' : Log ν} {u : Timeline ν} (hc : Course c s t' log' u) :
      Course c s (start requests) (log ++ .landing time f.batch f.outcome :: log') u := by
    rw [List.append_cons]
    exact (h.next he).append hc
  refine ⟨_, ?_, hanswers, hbeside, fun _ _ => hbeside.course, fun _ _ => hbeside.course_of_not_mem,
    fun log' u hc => ⟨(hall hc).recorded.answers_nodup, ?_, Course.finishes c s u⟩,
    fun log' u hc hend b hb => ?_, fun log' u hc load r rest hrequests hmissing => ⟨?_, ?_⟩⟩
  · have hmembers := hr.members_perm hf
    have htold := hmembers.map fun x => (⟨x.1, time, .error err⟩ : Answer ν)
    rwa [List.map_map] at htold
  · have hlength := hc.length_le
    omega
  · have hafter := (hall hc).recorded
    rw [List.append_cons] at hafter ⊢
    exact (h.next he).recorded.others hafter hend hb
  · have hmem : f ∈ Log.fetches (log ++ .landing time f.batch f.outcome :: log') := by
      rw [Log.fetches_append]
      exact List.mem_append_left _ hf
    have hfetched := List.mem_append_right u.full (List.mem_map_of_mem (f := (·.batch)) hmem)
    exact ((hall hc).recorded.number_ne_current hfetched).symm
  · exact (hall hc).told_later hrequests hmissing

/-- The first fetch fails while a second one for the same key is under way, which is lost later. The
last load asks again for a key of the first batch and is served. -/
theorem failed_batch_is_asked_for_again :
    ∃ (c : Config) (t : Served String) (requests : List Request),
      ((run c t.source requests).answers.map fun a => (a.load, a.result)) =
          [(0, .error (.notFound "fetch 0 failed")), (1, .error (.notFound "fetch 0 failed")),
            (2, .error State.dropped), (3, .ok (some "b"))] ∧
        ∃ log x x' b o err told, Course c t.source (start requests) log x ∧ x.flights.length = 2 ∧
          Happens c t.source x (.landing 5 b o) x' ∧ o.error? = some err ∧
          Contained c t.source log ⟨5, b, o⟩ err told x x' := by
  let t : Served String := ⟨[(1, "a"), (2, "b")], 5, [0], [1], false⟩
  let requests : List Request := [⟨0, 1⟩, ⟨0, 2⟩, ⟨2, 1⟩, ⟨6, 2⟩]
  let x := advance ⟨1, 2⟩ t.source 6 (start requests)
  obtain ⟨log, hcourse⟩ := Course.exists_of_moves (advance_moves (c := ⟨1, 2⟩) (s := t.source)
    (t := start requests) 6)
  have hflights : x.flights = [] ++ (5, ⟨0, [1, 2], [(1, [0]), (2, [1])]⟩,
      .failed (.notFound ("fetch " ++ toString 0 ++ " failed"))) :: x.flights.tail := by
    rfl
  have hlanding := Happens.land (c := ⟨1, 2⟩) (s := t.source) hflights 5
  obtain ⟨told, hcontained⟩ :=
    failures_stay_with_their_batch ⟨1, 2⟩ t.source requests hcourse hlanding rfl
  refine ⟨⟨1, 2⟩, t, requests, ?_, log, x, _, _, _, _, told, hcourse, ?_, hlanding, rfl, hcontained⟩
  · decide +kernel
  · decide +kernel

end Timeline

end Depot.Loader
