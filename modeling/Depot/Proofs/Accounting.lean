import Depot.Proofs.Bookkeeping
import Mathlib.Data.List.Perm.Lattice

namespace Depot.Loader

variable {ν : Type} {c : Config} {s : Source ν} {requests : List Request} {log : Log ν}
variable {t t' : Timeline ν} {e : Event ν}

theorem perm_flatMap_filter {α β : Type} [DecidableEq β] (key : α → β) {keys : List β} {l : List α}
    (hkeys : keys.Nodup) (hl : ∀ x ∈ l, key x ∈ keys) :
    (keys.flatMap fun k => l.filter (key · == k)).Perm l := by
  induction keys generalizing l with
  | nil =>
    have hnil : l = [] :=
      List.eq_nil_iff_forall_not_mem.2 fun x hx => absurd (hl x hx) List.not_mem_nil
    simp [hnil]
  | cons k ks ih =>
    obtain ⟨hk, hks⟩ := List.nodup_cons.1 hkeys
    have hothers := ih (l := l.filter fun x => !(key x == k)) hks fun x hx => by
      obtain ⟨hx, hne⟩ := List.mem_filter.1 hx
      exact (List.mem_cons.1 (hl x hx)).resolve_left (by simpa using hne)
    have hsame : (ks.flatMap fun k' => (l.filter fun x => !(key x == k)).filter (key · == k')) =
        ks.flatMap fun k' => l.filter (key · == k') := by
      refine List.flatMap_congr fun k' hk' => ?_
      rw [List.filter_filter]
      refine List.filter_congr fun x _ => ?_
      have hne : k' ≠ k := fun h => hk (h ▸ hk')
      by_cases hx : key x = k' <;> simp [hx, hne]
    rw [hsame] at hothers
    rw [List.flatMap_cons]
    exact (hothers.append_left _).trans (List.filter_append_perm _ l)

namespace Log

theorem loads_perm (log : Log ν) :
    (log.loads.map (·.1)).Perm (log.hits ++ log.joins.map (·.load)) := by
  induction log using List.reverseRecOn with
  | nil => exact .refl _
  | append_singleton log e ih =>
    rw [loads_concat, hits_concat, joins_concat, List.map_append]
    refine (ih.append_right _).trans ?_
    cases e with
    | hit load r value =>
      simp only [Event.load?, Event.hit?, Event.join?, Option.toList_some, Option.toList_none,
        List.map_cons, List.map_nil, List.append_nil, List.append_assoc]
      exact List.perm_append_comm.append_left _
    | join load r batch => simp [Event.load?, Event.hit?, Event.join?]
    | expiry | fetch | landing => simp [Event.load?, Event.hit?, Event.join?]

theorem answers_perm (log : Log ν) : (log.answers.map (·.load)).Perm
    (log.hits ++ (log.landings.map (·.batch)).flatMap Batch.loads) := by
  induction log using List.reverseRecOn with
  | nil => exact .refl _
  | append_singleton log e ih =>
    rw [answers_concat, hits_concat, landings_concat, List.map_append]
    refine (ih.append_right _).trans ?_
    cases e with
    | hit load r value =>
      simp only [Event.answers, Event.hit?, Event.landing?, Option.toList_some, Option.toList_none,
        List.map_cons, List.map_nil, List.append_nil, List.append_assoc]
      exact List.perm_append_comm.append_left _
    | landing time b o =>
      simp [Event.answers, Event.hit?, Event.landing?, Batch.loads, Function.comp_def]
    | join | expiry | fetch => simp [Event.answers, Event.hit?, Event.landing?]

theorem mem_loads_of_joined {log : Log ν} {number : Nat} {x : Nat × Request}
    (h : x ∈ log.joined number) : x ∈ log.loads :=
  List.mem_filterMap.2 ⟨_, mem_joins.1 (mem_joined.1 h), rfl⟩

theorem mem_answers {log : Log ν} {a : Answer ν} (h : a ∈ log.answers) :
    a.load ∈ log.hits ∨ ∃ f ∈ log.landings, ∃ x ∈ f.batch.members,
      a = ⟨x.1, f.time, State.tell f.outcome x.2⟩ := by
  obtain ⟨e, he, ha⟩ := List.mem_flatMap.1 h
  cases e with
  | hit load r value =>
    rw [List.mem_singleton.1 ha]
    exact .inl (List.mem_filterMap.2 ⟨_, he, rfl⟩)
  | landing time b o =>
    obtain ⟨x, hx, rfl⟩ := List.mem_map.1 ha
    exact .inr ⟨⟨time, b, o⟩, List.mem_filterMap.2 ⟨_, he, rfl⟩, x, hx, rfl⟩
  | join | expiry | fetch => cases ha

end Log

namespace Timeline

def waiting (t : Timeline ν) : List Batch :=
  t.state.pending.toList ++ t.full ++ t.flights.map (·.2.1)

namespace Recorded

theorem joins_perm (h : Recorded c s requests log t) :
    (((List.range t.state.nextBatch).map log.batch).flatMap Batch.loads).Perm
      (log.joins.map (·.load)) := by
  have hmem : ∀ j ∈ log.joins, j.batch ∈ List.range t.state.nextBatch := fun j hj => by
    rw [← h.opened]
    exact List.mem_eraseDups.2 (List.mem_map_of_mem hj)
  refine List.Perm.trans ?_ ((perm_flatMap_filter _ List.nodup_range hmem).map (·.load))
  rw [List.flatMap_map, List.map_flatMap]
  refine List.Perm.flatMap_left _ fun n _ => ?_
  refine (Batch.gather_loads n _).trans ?_
  rw [Log.joined, List.map_map]
  exact .refl _

theorem waiting_perm (h : Recorded c s requests log t) :
    ((log.landings.map (·.batch)).flatMap Batch.loads ++ t.waiting.flatMap Batch.loads).Perm
      (log.joins.map (·.load)) := by
  refine List.Perm.trans ?_ h.joins_perm
  rw [← List.flatMap_append]
  refine List.Perm.flatMap_right _ (List.Perm.trans ?_ h.batches)
  have hflights := h.flights.map (·.1)
  simp only [List.map_append, List.map_map, Function.comp_def] at hflights
  refine (List.perm_append_comm).trans ?_
  rw [waiting, List.append_assoc]
  exact hflights.append_left _

theorem loads_map_fst (h : Recorded c s requests log t) :
    log.loads.map (·.1) ++ t.requests.map (·.1) = List.range requests.length := by
  rw [← List.map_append, h.loads, List.map_fst_zip (by simp)]

theorem request_of_joined (h : Recorded c s requests log t) {number : Nat} {x : Nat × Request}
    (hx : x ∈ log.joined number) : requests[x.1]? = some x.2 := by
  have hmem : x ∈ (Timeline.start requests : Timeline ν).requests := by
    rw [Timeline.start, ← h.loads]
    exact List.mem_append_left _ (Log.mem_loads_of_joined hx)
  have hstart : (Timeline.start requests : Timeline ν).Consistent [] requests := .start
  exact hstart.coming x hmem

theorem mem_of_waiting (h : Recorded c s requests log t) {b : Batch}
    (hb : b ∈ t.waiting ++ log.fetches.map (·.batch)) :
    b ∈ t.state.pending.toList ++ t.full ++ log.fetches.map (·.batch) := by
  rw [waiting, List.append_assoc] at hb
  obtain hb | hb := List.mem_append.1 hb
  · exact List.mem_append_left _ hb
  · obtain hb | hb := List.mem_append.1 hb
    · obtain ⟨x, hx, rfl⟩ := List.mem_map.1 hb
      obtain ⟨f, hf, hcargo⟩ := List.mem_map.1 <|
        (h.flight_eq (List.mem_append_left _ (List.mem_map_of_mem hx))).1
      exact List.mem_append_right _ (List.mem_map.2 ⟨f, hf, congrArg Prod.fst hcargo⟩)
    · exact List.mem_append_right _ hb

theorem waiting_eq (h : Recorded c s requests log t) {b : Batch}
    (hb : b ∈ t.waiting ++ log.fetches.map (·.batch)) : b = log.batch b.number :=
  (h.batch_eq (h.mem_of_waiting hb)).1

theorem opened_of_waiting (h : Recorded c s requests log t) {b : Batch}
    (hb : b ∈ t.waiting ++ log.fetches.map (·.batch)) : b.number ∈ log.opened := by
  rw [h.opened, List.mem_range]
  exact (h.batch_eq (h.mem_of_waiting hb)).2

theorem fetched_eq (h : Recorded c s requests log t) {f : Flight ν} (hf : f ∈ log.fetches) :
    f.batch = log.batch f.batch.number :=
  h.waiting_eq (List.mem_append_right _ (List.mem_map_of_mem hf))

theorem first_of_fetched (h : Recorded c s requests log t) {f : Flight ν} (hf : f ∈ log.fetches) :
    ∃ first, (log.joined f.batch.number).head? = some first := by
  have hopened := h.opened_of_waiting (List.mem_append_right _ (List.mem_map_of_mem hf))
  cases hjoined : log.joined f.batch.number with
  | nil => exact absurd hopened (Log.joined_eq_nil_iff.1 hjoined)
  | cons first rest => exact ⟨first, rfl⟩

theorem members_perm (h : Recorded c s requests log t) {f : Flight ν} (hf : f ∈ log.fetches) :
    f.batch.members.Perm ((log.joined f.batch.number).map fun x => (x.1, x.2.key)) := by
  have hgather := Batch.gather_members f.batch.number (log.joined f.batch.number)
  rwa [← Log.batch, ← h.fetched_eq hf] at hgather

theorem mem_members (h : Recorded c s requests log t) {f : Flight ν} (hf : f ∈ log.fetches)
    {x : Nat × Id} (hx : x ∈ f.batch.members) :
    ∃ r, (x.1, r) ∈ log.joined f.batch.number ∧ r.key = x.2 := by
  obtain ⟨y, hy, rfl⟩ := List.mem_map.1 ((h.members_perm hf).mem_iff.1 hx)
  exact ⟨y.2, hy, rfl⟩

theorem conserved (h : Recorded c s requests log t) :
    (t.answers.map (·.load) ++ t.waiting.flatMap Batch.loads ++ t.requests.map (·.1)).Perm
      (List.range requests.length) := by
  rw [← h.loads_map_fst, h.answers]
  refine List.Perm.append_right _ ?_
  refine (log.answers_perm.append_right _).trans (List.Perm.trans ?_ log.loads_perm.symm)
  rw [List.append_assoc]
  exact h.waiting_perm.append_left _

theorem answers_nodup (h : Recorded c s requests log t) : (t.answers.map (·.load)).Nodup := by
  have hnodup := h.conserved.nodup_iff.2 List.nodup_range
  exact hnodup.of_append_left.of_append_left

end Recorded

/-- Nothing is left that could happen. -/
structure Finished (t : Timeline ν) : Prop where
  requests : t.requests = []
  full : t.full = []
  windows : t.windows = []
  flights : t.flights = []

namespace Recorded

variable (h : Recorded c s requests log t) (hf : t.Finished)

include h hf

theorem pending_eq_none : t.state.pending = none := by
  cases hb : t.state.pending with
  | none => rfl
  | some b =>
    obtain ⟨due, hdue⟩ := h.window b hb
    rw [hf.windows] at hdue
    exact absurd hdue List.not_mem_nil

theorem fetches_perm :
    (log.fetches.map (·.batch)).Perm ((List.range t.state.nextBatch).map log.batch) := by
  simpa [h.pending_eq_none hf, hf.full] using h.batches

theorem landings_perm : (log.landings.map Flight.cargo).Perm (log.fetches.map Flight.cargo) := by
  simpa [hf.flights] using h.flights

theorem fetched_perm_range : (log.hits ++ (log.fetches.map (·.batch)).flatMap Batch.loads).Perm
    (List.range requests.length) := by
  have hloads := h.loads_map_fst
  rw [hf.requests, List.map_nil, List.append_nil] at hloads
  rw [← hloads]
  refine List.Perm.trans (List.Perm.append_left _ ?_) log.loads_perm.symm
  exact ((h.fetches_perm hf).flatMap_right _).trans h.joins_perm

theorem answers_perm_range : (t.answers.map (·.load)).Perm (List.range requests.length) := by
  simpa [waiting, h.pending_eq_none hf, hf.full, hf.flights, hf.requests] using h.conserved

end Recorded

def work (t : Timeline ν) : Nat :=
  4 * t.requests.length + 2 * (t.state.pending.toList ++ t.full).length + t.windows.length +
    t.flights.length

theorem work_start (requests : List Request) :
    (start requests : Timeline ν).work = 4 * requests.length := by
  simp [work, start, State.empty]

theorem Happens.work_lt (h : Happens c s t e t') : t'.work < t.work := by
  cases h with
  | @load number r rest hrequests =>
    cases hv : t.state.cached? r.key with
    | some value =>
      rw [takeRequest_of_cached hv]
      simp [work, hrequests]
    | none =>
      rw [takeRequest_of_missing hv]
      have hplaces := congrArg List.length <| State.pending_append_closed c
        { t.state with nextBatch := t.state.nextBatch + t.state.pending.elim 1 fun _ => 0 }
        (t.state.boarded number r.key) (t.state.pending.elim (some t.state.nextBatch) fun _ => none)
      cases hb : t.state.pending <;> simp [work, hrequests, hb] at hplaces ⊢ <;> omega
  | launch hfull time =>
    simp [work, Timeline.launch, hfull]
    omega
  | @expire due number l l' hwindows time =>
    have hplaces := congrArg List.length (t.state.pending_append_expired number)
    simp [work, hwindows] at hplaces ⊢
    omega
  | land hflights time => simp [work, Timeline.land, hflights]

end Timeline

end Depot.Loader
