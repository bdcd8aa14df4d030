import Depot.Proofs.Accounting

namespace Depot.Loader

variable {ν : Type} {c : Config} {s : Source ν} {requests : List Request} {log log' : Log ν}
variable {t₀ t t' : Timeline ν} {e : Event ν} {time number load : Nat} {r : Request} {b : Batch}

theorem State.cached?_eq_none_iff {σ : State ν} {key : Id} :
    σ.cached? key = none ↔ key ∉ σ.cache.map (·.1) := by
  rw [State.cached?, Option.map_eq_none_iff, List.find?_eq_none, List.mem_map, not_exists]
  simp

theorem State.settle_rows_cached (σ : State ν) {key : Id} (hkey : key ∈ b.keys)
    (found : List (Id × ν)) : key ∈ (σ.settle b (.rows found)).1.cache.map (·.1) := by
  simp [State.settle, hkey]

theorem State.cache_suffix_settle (σ : State ν) (b : Batch) (o : Outcome ν) :
    σ.cache <:+ (σ.settle b o).1.cache := by
  cases o with
  | failed | lost => exact List.suffix_refl _
  | rows found => exact List.suffix_append _ _

namespace Timeline

theorem Happens.cache_suffix (h : Happens c s t e t') : t.state.cache <:+ t'.state.cache := by
  cases h with
  | @load number r rest hrequests =>
    cases hv : t.state.cached? r.key with
    | some value => rw [takeRequest_of_cached hv]
    | none => simp [takeRequest_of_missing hv]
  | launch hfull time => exact List.suffix_refl _
  | expire hwindows time => simp
  | land hflights time => exact t.state.cache_suffix_settle _ _

namespace Course

theorem cache_suffix (h : Course c s t₀ log t) : t₀.state.cache <:+ t.state.cache := by
  induction h with
  | refl => exact List.suffix_refl _
  | next _ he ih => exact ih.trans he.cache_suffix

theorem missed (h : Course c s t₀ (log ++ .join load r number :: log') t) :
    ∃ u, Course c s t₀ log u ∧ u.state.cached? r.key = none := by
  obtain ⟨u, u', hu, he, -⟩ := h.exists_of_append_cons
  exact ⟨u, hu, he.of_join.1⟩

theorem key_ne_of_cached {key : Id} (hkey : key ∈ t₀.state.cache.map (·.1))
    (h : Course c s t₀ log t) (hjoin : .join load r number ∈ log) : r.key ≠ key := by
  obtain ⟨l, l', rfl⟩ := List.append_of_mem hjoin
  obtain ⟨u, hu, hmissing⟩ := h.missed
  rintro rfl
  exact State.cached?_eq_none_iff.1 hmissing ((hu.cache_suffix.map _).subset hkey)

theorem key_ne_of_fetched {found : List (Id × ν)}
    (h : Course c s t₀ (log ++ .landing time b (.rows found) :: log') t) {key : Id}
    (hkey : key ∈ b.keys) (hjoin : .join load r number ∈ log') : r.key ≠ key := by
  obtain ⟨u, u', -, he, hu'⟩ := h.exists_of_append_cons
  obtain ⟨due, l, l', -, rfl⟩ := he.of_landing
  exact hu'.key_ne_of_cached (u.state.settle_rows_cached hkey found) hjoin

end Course

/-- The fetches, the batches and the cache of a loader. -/
structure Shapely (c : Config) (s : Source ν) (requests : List Request) (log : Log ν)
    (t : Timeline ν) : Prop where
  fetches : t.fetches = log.fetches.map fun f => ⟨f.time, f.batch.keys⟩
  keys : ∀ f ∈ log.fetches,
    f.batch.keys ≠ [] ∧ f.batch.keys.Nodup ∧ f.batch.keys.length ≤ max 1 c.maxBatch
  /-- The keys stand in the order in which they were first asked for in that batch. -/
  order : ∀ f ∈ log.fetches,
    f.batch.keys = ((log.joined f.batch.number).map (·.2.key)).eraseDups
  missed : ∀ before load r number after, log = before ++ .join load r number :: after →
    ∃ u, Course c s (start requests) before u ∧ u.state.cached? r.key = none
  /-- Somebody waits for each key of a batch, and for no other key. -/
  waiters : ∀ b ∈ t.waiting ++ log.fetches.map (·.batch), b.waiters.map (·.1) = b.keys
  fetched : ∀ before time b found after, log = before ++ .landing time b (.rows found) :: after →
    ∀ key ∈ b.keys, ∀ load r number, .join load r number ∈ after → r.key ≠ key
  cache : ∀ x ∈ t.state.cache, ∃ load r number, .join load r number ∈ log ∧ r.key = x.1

namespace Recorded

theorem keys_eq (h : Recorded c s requests log t) {f : Flight ν} (hf : f ∈ log.fetches) :
    f.batch.keys = ((log.joined f.batch.number).map (·.2.key)).eraseDups := by
  rw [← Batch.gather_keys f.batch.number]
  exact congrArg Batch.keys (h.fetched_eq hf)

theorem keys_ne_nil (h : Recorded c s requests log t) {f : Flight ν} (hf : f ∈ log.fetches) :
    f.batch.keys ≠ [] := by
  obtain ⟨first, hfirst⟩ := h.first_of_fetched hf
  have hkey : first.2.key ∈ f.batch.keys := by
    rw [h.keys_eq hf, List.mem_eraseDups]
    exact List.mem_map_of_mem (List.mem_of_mem_head? hfirst)
  exact List.ne_nil_of_mem hkey

end Recorded

theorem Course.shapely (h : Course c s (start requests) log t) : Shapely c s requests log t := by
  have hr := h.recorded
  refine ⟨hr.fetches, fun f hf => ⟨hr.keys_ne_nil hf, ?_, ?_⟩, fun f => hr.keys_eq, ?_,
    fun b hb => ?_, ?_, fun x hx => ?_⟩
  · rw [hr.keys_eq hf]
    exact nodup_eraseDups _
  · rw [hr.fetched_eq hf]
    exact hr.size _
  · rintro before load r number after rfl
    exact h.missed
  · rw [hr.waiting_eq hb]
    exact Batch.gather_balanced _ _
  · rintro before time b found after rfl key hkey load r number
    exact h.key_ne_of_fetched hkey
  · obtain ⟨j, hj, hkey⟩ := hr.cache x hx
    exact ⟨j.load, j.request, j.batch, Log.mem_joins.1 hj, hkey⟩

/-- Whatever happens in whatever order, batches are of distinct keys, not too many of them, that
were not cached when they were asked for. The loader as it runs is such a course at each of its
steps. -/
theorem missing_keys_are_fetched_and_kept (c : Config) (s : Source ν) (requests : List Request) :
    (∀ fuel, ∃ log, Course c s (start requests) log (advance c s fuel (start requests))) ∧
      ∀ log t, Course c s (start requests) log t → Shapely c s requests log t :=
  ⟨fun fuel => Course.exists_of_moves (advance_moves fuel), fun _ _ h => h.shapely⟩

/-- A batch may hold no key at most, so it holds one. The first two loads are fetched apart, the
third one is not fetched at all, and the row that nobody asked for is not kept. -/
theorem batches_without_room_hold_one_key :
    ∃ (c : Config) (t : Served String) (requests : List Request),
      (run c t.source requests).fetches = [⟨0, [1]⟩, ⟨0, [1]⟩, ⟨9, [3]⟩] ∧
        (run c t.source requests).state.cache = [(3, none), (1, some "a"), (1, some "a")] ∧
        ∃ log, Course c t.source (start requests) log (run c t.source requests) ∧
          Shapely c t.source requests log (run c t.source requests) := by
  let t : Served String := ⟨[(1, "a"), (2, "b")], 2, [], [], true⟩
  let requests : List Request := [⟨0, 1⟩, ⟨0, 1⟩, ⟨9, 1⟩, ⟨9, 3⟩]
  obtain ⟨hruns, hall⟩ := missing_keys_are_fetched_and_kept ⟨5, 0⟩ t.source requests
  obtain ⟨log, hlog⟩ := hruns (4 * requests.length)
  refine ⟨⟨5, 0⟩, t, requests, ?_, ?_, log, hlog, hall log _ hlog⟩
  · decide +kernel
  · decide +kernel

end Timeline

end Depot.Loader
