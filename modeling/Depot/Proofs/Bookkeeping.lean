import Depot.Proofs.Course

namespace Depot.Loader

variable {ν : Type} {c : Config} {s : Source ν} {requests : List Request} {log : Log ν}
variable {t t' : Timeline ν} {e : Event ν}

theorem perm_map_update {α β : Type} [DecidableEq α] {f f' : α → β} {l : List α} {n : α}
    {rest : List β} (hl : l.Nodup) (hn : n ∈ l) (hf : ∀ m, m ≠ n → f' m = f m)
    (h : (f n :: rest).Perm (l.map f)) : (f' n :: rest).Perm (l.map f') := by
  have hsplit : l.Perm (n :: l.erase n) := List.perm_cons_erase hn
  have hrest : rest.Perm ((l.erase n).map f) := (List.perm_cons _).1 (h.trans (hsplit.map f))
  have hsame : (l.erase n).map f' = (l.erase n).map f :=
    List.map_congr_left fun m hm => hf m (hl.mem_erase_iff.1 hm).1
  rw [← hsame] at hrest
  exact (hrest.cons (f' n)).trans (hsplit.map f').symm

theorem Batch.isFull_iff {b : Batch} (h : b.keys ≠ []) : b.isFull c ↔ c.limit ≤ b.keys.length := by
  have hpos : 0 < b.keys.length := List.length_pos_iff.2 h
  simp only [Batch.isFull, Config.limit, decide_eq_true_eq]
  omega

namespace State

variable {σ : State ν} {key : Id} {load number : Nat}

def boarded (σ : State ν) (load : Nat) (key : Id) : Batch :=
  (σ.pending.getD (.empty σ.nextBatch)).push key load

@[simp] theorem boarded_number (σ : State ν) (load : Nat) (key : Id) :
    (σ.boarded load key).number = σ.current := by
  unfold boarded current
  cases σ.pending <;> simp [Batch.empty]

theorem load_of_cached {value : Option ν} (h : σ.cached? key = some value) :
    σ.load c load key = ⟨σ, some value, none, none⟩ := by
  simp only [State.load, h]

theorem load_of_missing (h : σ.cached? key = none) :
    σ.load c load key =
      keepOrClose c { σ with nextBatch := σ.nextBatch + σ.pending.elim 1 fun _ => 0 }
        (σ.boarded load key) (σ.pending.elim (some σ.nextBatch) fun _ => none) := by
  unfold State.load boarded
  simp only [h]
  split
  · rename_i b hb
    simp only [hb, Option.elim_some, Option.getD_some, Nat.add_zero]
    rw [← hb]
  · rename_i hb
    simp only [hb, Option.elim_none, Option.getD_none]

theorem keepOrClose_cases (c : Config) (σ : State ν) (b : Batch) (opened : Option Nat) :
    b.isFull c ∧ keepOrClose c σ b opened = ⟨{ σ with pending := none }, none, opened, some b⟩ ∨
      ¬ b.isFull c ∧
        keepOrClose c σ b opened = ⟨{ σ with pending := some b }, none, opened, none⟩ := by
  unfold keepOrClose
  split
  · exact .inl ⟨by assumption, rfl⟩
  · exact .inr ⟨by assumption, rfl⟩

theorem pending_append_closed (c : Config) (σ : State ν) (b : Batch) (opened : Option Nat) :
    (keepOrClose c σ b opened).state.pending.toList ++ (keepOrClose c σ b opened).closed.toList =
      [b] := by
  obtain ⟨-, h⟩ | ⟨-, h⟩ := keepOrClose_cases c σ b opened <;> rw [h] <;> rfl

@[simp] theorem keepOrClose_answer (b : Batch) (opened : Option Nat) :
    (keepOrClose c σ b opened).answer = none := by
  obtain ⟨-, h⟩ | ⟨-, h⟩ := keepOrClose_cases c σ b opened <;> rw [h]

@[simp] theorem keepOrClose_opened (b : Batch) (opened : Option Nat) :
    (keepOrClose c σ b opened).opened = opened := by
  obtain ⟨-, h⟩ | ⟨-, h⟩ := keepOrClose_cases c σ b opened <;> rw [h]

@[simp] theorem keepOrClose_cache (b : Batch) (opened : Option Nat) :
    (keepOrClose c σ b opened).state.cache = σ.cache := by
  obtain ⟨-, h⟩ | ⟨-, h⟩ := keepOrClose_cases c σ b opened <;> rw [h]

@[simp] theorem keepOrClose_nextBatch (b : Batch) (opened : Option Nat) :
    (keepOrClose c σ b opened).state.nextBatch = σ.nextBatch := by
  obtain ⟨-, h⟩ | ⟨-, h⟩ := keepOrClose_cases c σ b opened <;> rw [h]

theorem keepOrClose_pending {b b' : Batch} {opened : Option Nat}
    (h : (keepOrClose c σ b opened).state.pending = some b') : b' = b ∧ ¬ b.isFull c := by
  obtain ⟨-, hcase⟩ | ⟨hfull, hcase⟩ := keepOrClose_cases c σ b opened
  · rw [hcase] at h
    cases h
  · rw [hcase] at h
    cases h
    exact ⟨rfl, hfull⟩

theorem keepOrClose_closed {b b' : Batch} {opened : Option Nat}
    (h : (keepOrClose c σ b opened).closed = some b') : b' = b ∧ b.isFull c := by
  obtain ⟨hfull, hcase⟩ | ⟨-, hcase⟩ := keepOrClose_cases c σ b opened
  · rw [hcase] at h
    cases h
    exact ⟨rfl, hfull⟩
  · rw [hcase] at h
    cases h

/-- The end of a window closes the batch of that number if it is still open, and else it does
nothing. -/
theorem expire_cases (σ : State ν) (number : Nat) :
    (∃ b, σ.pending = some b ∧ b.number = number ∧
        σ.expire number = ({ σ with pending := none }, some b)) ∨
      (∀ b, σ.pending = some b → b.number ≠ number) ∧ σ.expire number = (σ, none) := by
  unfold expire
  split
  · rename_i b hb
    split
    · rename_i hnumber
      exact .inl ⟨b, hb, hnumber, rfl⟩
    · rename_i hnumber
      refine .inr ⟨fun b' hb' => ?_, rfl⟩
      obtain rfl : b = b' := Option.some.inj (hb.symm.trans hb')
      exact hnumber
  · rename_i hb
    exact .inr ⟨fun b' hb' => absurd (hb.symm.trans hb') nofun, rfl⟩

@[simp] theorem expire_cache (σ : State ν) (number : Nat) :
    (σ.expire number).1.cache = σ.cache := by
  obtain ⟨b, -, -, h⟩ | ⟨-, h⟩ := σ.expire_cases number <;> rw [h]

@[simp] theorem expire_nextBatch (σ : State ν) (number : Nat) :
    (σ.expire number).1.nextBatch = σ.nextBatch := by
  obtain ⟨b, -, -, h⟩ | ⟨-, h⟩ := σ.expire_cases number <;> rw [h]

theorem pending_append_expired (σ : State ν) (number : Nat) :
    (σ.expire number).1.pending.toList ++ (σ.expire number).2.toList = σ.pending.toList := by
  obtain ⟨b, hb, -, h⟩ | ⟨-, h⟩ := σ.expire_cases number
  · rw [h, hb]
    rfl
  · simp [h]

theorem expire_pending {b : Batch} (h : (σ.expire number).1.pending = some b) :
    σ.pending = some b ∧ b.number ≠ number := by
  obtain ⟨b', -, -, hexpire⟩ | ⟨hother, hexpire⟩ := σ.expire_cases number
  · rw [hexpire] at h
    cases h
  · rw [hexpire] at h
    exact ⟨h, hother b h⟩

@[simp] theorem settle_pending (σ : State ν) (b : Batch) (o : Outcome ν) :
    (σ.settle b o).1.pending = σ.pending := by cases o <;> rfl

@[simp] theorem settle_nextBatch (σ : State ν) (b : Batch) (o : Outcome ν) :
    (σ.settle b o).1.nextBatch = σ.nextBatch := by cases o <;> rfl

theorem mem_settle_cache {b : Batch} {o : Outcome ν} {x : Id × Option ν}
    (h : x ∈ (σ.settle b o).1.cache) : x.1 ∈ b.keys ∨ x ∈ σ.cache := by
  cases o with
  | failed e => exact .inr h
  | lost => exact .inr h
  | rows found =>
    obtain h | h := List.mem_append.1 h
    · obtain ⟨key, hkey, rfl⟩ := List.mem_map.1 h
      exact .inl hkey
    · exact .inr h

end State

namespace Timeline

/-- The books of a loader. -/
structure Recorded (c : Config) (s : Source ν) (requests : List Request) (log : Log ν)
    (t : Timeline ν) : Prop where
  loads : log.loads ++ t.requests = (List.range requests.length).zip requests
  answers : t.answers = log.answers
  fetches : t.fetches = log.fetches.map fun f => ⟨f.time, f.batch.keys⟩
  opened : log.opened = List.range t.state.nextBatch
  batches : (t.state.pending.toList ++ t.full ++ log.fetches.map (·.batch)).Perm
    ((List.range t.state.nextBatch).map log.batch)
  flights : (t.flights.map (·.2) ++ log.landings.map Flight.cargo).Perm
    (log.fetches.map Flight.cargo)
  window : ∀ b, t.state.pending = some b → ∃ due, (due, b.number) ∈ t.windows
  room : ∀ b, t.state.pending = some b → b.keys.length < c.limit
  size : ∀ number, (log.batch number).keys.length ≤ c.limit
  cache : ∀ x ∈ t.state.cache, ∃ j ∈ log.joins, j.request.key = x.1

variable {number : Nat} {r : Request} {rest : List (Nat × Request)}

theorem takeRequest_of_cached {value : Option ν} (h : t.state.cached? r.key = some value) :
    takeRequest c t number r rest = { t with
      now := r.time
      requests := rest
      answers := t.answers ++ [⟨number, r.time, .ok value⟩] } := by
  simp [takeRequest, State.load_of_cached h]

theorem takeRequest_of_missing (h : t.state.cached? r.key = none) :
    takeRequest c t number r rest =
      let l := State.keepOrClose c
        { t.state with nextBatch := t.state.nextBatch + t.state.pending.elim 1 fun _ => 0 }
        (t.state.boarded number r.key) (t.state.pending.elim (some t.state.nextBatch) fun _ => none)
      { t with
        now := r.time
        state := l.state
        requests := rest
        full := t.full ++ l.closed.toList
        windows := t.windows ++ l.opened.toList.map fun n => (r.time + c.wait, n) } := by
  simp [takeRequest, State.load_of_missing h]

namespace Recorded

theorem start : Recorded c s requests [] (Timeline.start requests) where
  loads := rfl
  answers := rfl
  fetches := rfl
  opened := rfl
  batches := .refl _
  flights := .refl _
  window := nofun
  room := nofun
  size _ := Nat.zero_le _
  cache := nofun

theorem batch_eq (h : Recorded c s requests log t) {b : Batch}
    (hb : b ∈ t.state.pending.toList ++ t.full ++ log.fetches.map (·.batch)) :
    b = log.batch b.number ∧ b.number < t.state.nextBatch := by
  obtain ⟨n, hn, rfl⟩ := List.mem_map.1 (h.batches.mem_iff.1 hb)
  rw [Log.batch_number]
  exact ⟨rfl, List.mem_range.1 hn⟩

theorem numbers_perm (h : Recorded c s requests log t) :
    ((t.state.pending.toList ++ t.full ++ log.fetches.map (·.batch)).map (·.number)).Perm
      (List.range t.state.nextBatch) := by
  have hnumbers := h.batches.map (·.number)
  rw [List.map_map] at hnumbers
  simpa [Function.comp_def] using hnumbers

theorem number_ne_current (h : Recorded c s requests log t) {b : Batch}
    (hb : b ∈ t.full ++ log.fetches.map (·.batch)) : b.number ≠ t.state.current := by
  have hnumbers := h.numbers_perm
  have hmem := List.mem_map_of_mem (f := Batch.number) hb
  rw [List.append_assoc] at hnumbers
  unfold State.current
  split
  · rename_i b' hpending
    rw [hpending] at hnumbers
    have hnodup := hnumbers.nodup_iff.2 List.nodup_range
    have hother : b'.number ∉ (t.full ++ log.fetches.map (·.batch)).map (·.number) :=
      (List.nodup_cons.1 hnodup).1
    exact fun heq => hother (heq ▸ hmem)
  · rename_i hpending
    rw [hpending] at hnumbers
    exact (List.mem_range.1 (hnumbers.mem_iff.1 hmem)).ne

theorem pending_eq (h : Recorded c s requests log t) {b : Batch} (hb : t.state.pending = some b) :
    b = log.batch b.number ∧ b.number < t.state.nextBatch :=
  h.batch_eq (by simp [hb])

theorem batch_eq_empty (h : Recorded c s requests log t) {number : Nat}
    (hnumber : t.state.nextBatch ≤ number) : log.batch number = .empty number := by
  have hnot : number ∉ log.opened := by
    rw [h.opened, List.mem_range]
    omega
  rw [Log.batch, Log.joined_eq_nil_iff.2 hnot, Batch.gather_nil]

theorem current_eq (h : Recorded c s requests log t) :
    t.state.pending.getD (.empty t.state.nextBatch) = log.batch t.state.current := by
  unfold State.current
  split
  · rename_i b hb
    rw [hb, Option.getD_some]
    exact (h.pending_eq hb).1
  · rename_i hb
    rw [hb, Option.getD_none, h.batch_eq_empty (Nat.le_refl _)]

theorem boarded_eq (h : Recorded c s requests log t) (load : Nat) (r : Request) :
    t.state.boarded load r.key =
      Log.batch (log ++ [.join load r t.state.current]) t.state.current := by
  rw [State.boarded, h.current_eq, Log.batch_concat_join]

theorem opened_join (h : Recorded c s requests log t) (load : Nat) (r : Request) :
    Log.opened (log ++ [.join load r t.state.current]) =
      List.range (t.state.nextBatch + t.state.pending.elim 1 fun _ => 0) := by
  rw [Log.opened_concat_join, h.opened]
  cases hb : t.state.pending with
  | none =>
    rw [State.current, hb, if_neg (by simp)]
    exact List.range_succ.symm
  | some b =>
    rw [State.current, hb, if_pos (List.mem_range.2 (h.pending_eq hb).2)]
    rfl

theorem batches_join (h : Recorded c s requests log t) (load : Nat) (r : Request) :
    (t.state.boarded load r.key :: (t.full ++ log.fetches.map (·.batch))).Perm
      ((List.range (t.state.nextBatch + t.state.pending.elim 1 fun _ => 0)).map
        (Log.batch (log ++ [.join load r t.state.current]))) := by
  rw [h.boarded_eq]
  have hne (m : Nat) (hm : m ≠ t.state.current) := Log.batch_concat_join_of_ne log hm load r
  refine perm_map_update List.nodup_range ?_ hne ?_
  · cases hb : t.state.pending with
    | none => simp [State.current, hb]
    | some b => simpa [State.current, hb] using (h.pending_eq hb).2
  · have hbatches := h.batches
    rw [← h.current_eq]
    cases hb : t.state.pending with
    | none =>
      rw [hb] at hbatches
      simp only [Option.getD_none, Option.elim_none, List.range_succ, List.map_append,
        List.map_cons, List.map_nil, h.batch_eq_empty (Nat.le_refl _)]
      exact (hbatches.cons _).trans (List.perm_append_singleton _ _).symm
    | some b => simpa [hb] using hbatches

theorem hit (h : Recorded c s requests log t) (hrequests : t.requests = (number, r) :: rest)
    {value : Option ν} (hv : t.state.cached? r.key = some value) :
    Recorded c s requests (log ++ [.hit number r value]) (takeRequest c t number r rest) := by
  rw [takeRequest_of_cached hv]
  have hbatch := Log.batch_concat_of_not_join log (e := .hit number r value) rfl
  refine ⟨?_, ?_, ?_, ?_, ?_, ?_, h.window, h.room, ?_, ?_⟩
  · simpa [hrequests, Event.load?] using h.loads
  · simp [h.answers, Event.answers]
  · simp [h.fetches, Event.fetch?]
  · rw [Log.opened_concat_of_not_join rfl, h.opened]
  · simpa [hbatch, Event.fetch?] using h.batches
  · simpa [Event.fetch?, Event.landing?] using h.flights
  · simpa [hbatch] using h.size
  · simpa [Event.join?] using h.cache

theorem joined_current_eq_nil (h : Recorded c s requests log t) (hb : t.state.pending = none) :
    log.joined t.state.current = [] := by
  rw [Log.joined_eq_nil_iff, h.opened, State.current, hb]
  simp

theorem room_current (h : Recorded c s requests log t) :
    (log.batch t.state.current).keys.length < c.limit := by
  rw [← h.current_eq]
  cases hb : t.state.pending with
  | none => simp [Batch.empty, Config.limit]
  | some b => exact h.room b hb

theorem boarded_length (h : Recorded c s requests log t) (load : Nat) (key : Id) :
    (t.state.boarded load key).keys ≠ [] ∧ (t.state.boarded load key).keys.length ≤ c.limit := by
  have hbalanced : (log.batch t.state.current).Balanced := Batch.gather_balanced _ _
  have hroom := h.room_current
  rw [State.boarded, h.current_eq, hbalanced.push_keys]
  split
  · rename_i hkey
    exact ⟨List.ne_nil_of_mem hkey, hroom.le⟩
  · simpa using Nat.succ_le_of_lt hroom

theorem join (h : Recorded c s requests log t) (hrequests : t.requests = (number, r) :: rest)
    (hv : t.state.cached? r.key = none) :
    Recorded c s requests (log ++ [.join number r t.state.current])
      (takeRequest c t number r rest) := by
  obtain ⟨hkeys, hlength⟩ := h.boarded_length number r.key
  rw [takeRequest_of_missing hv]
  refine ⟨?_, ?_, ?_, ?_, ?_, ?_, fun b hb => ?_, fun b hb => ?_, fun m => ?_, ?_⟩
  · simpa [hrequests, Event.load?] using h.loads
  · simp [h.answers, Event.answers]
  · simp [h.fetches, Event.fetch?]
  · simpa using h.opened_join number r
  · have hplaces := State.pending_append_closed c
      { t.state with nextBatch := t.state.nextBatch + t.state.pending.elim 1 fun _ => 0 }
      (t.state.boarded number r.key) (t.state.pending.elim (some t.state.nextBatch) fun _ => none)
    have hbatches := h.batches_join number r
    rw [← List.singleton_append, ← hplaces] at hbatches
    rw [State.keepOrClose_nextBatch]
    refine List.Perm.trans ?_ hbatches
    simp only [Log.fetches_concat, Event.fetch?, Option.toList_none, List.append_nil,
      List.append_assoc]
    exact (List.perm_append_comm_assoc _ _ _).append_left _
  · simpa [Event.fetch?, Event.landing?] using h.flights
  · obtain ⟨rfl, -⟩ := State.keepOrClose_pending hb
    rw [State.boarded_number, State.current]
    cases hpending : t.state.pending with
    | none => exact ⟨r.time + c.wait, by simp⟩
    | some b =>
      obtain ⟨due, hdue⟩ := h.window b hpending
      exact ⟨due, List.mem_append_left _ hdue⟩
  · obtain ⟨rfl, hfull⟩ := State.keepOrClose_pending hb
    rw [Batch.isFull_iff hkeys] at hfull
    omega
  · by_cases hm : m = t.state.current
    · rw [hm, ← h.boarded_eq]
      exact hlength
    · rw [Log.batch_concat_join_of_ne log hm]
      exact h.size m
  · intro x hx
    obtain ⟨j, hj, hkey⟩ := h.cache x (by simpa using hx)
    exact ⟨j, by simp [Event.join?, hj], hkey⟩

theorem launch (h : Recorded c s requests log t) {b : Batch} {l l' : List Batch}
    (hfull : t.full = l ++ b :: l') (time : Nat) (o : Outcome ν) :
    Recorded c s requests (log ++ [.fetch time b o]) { t with
      now := time
      full := l ++ l'
      flights := t.flights ++ [(time + s.duration, b, o)]
      fetches := t.fetches ++ [⟨time, b.keys⟩] } := by
  have hbatch := Log.batch_concat_of_not_join log (e := .fetch time b o) rfl
  refine ⟨?_, ?_, ?_, ?_, ?_, ?_, h.window, h.room, ?_, ?_⟩
  · simpa [Event.load?] using h.loads
  · simp [h.answers, Event.answers]
  · simp [h.fetches, Event.fetch?]
  · rw [Log.opened_concat_of_not_join rfl, h.opened]
  · have hbatches := h.batches
    rw [hfull] at hbatches
    rw [hbatch]
    refine List.Perm.trans ?_ hbatches
    simp only [Log.fetches_concat, Event.fetch?, Option.toList_some, List.map_append, List.map_cons,
      List.map_nil, List.append_assoc, List.cons_append]
    refine List.Perm.append_left _ (List.Perm.append_left _ ?_)
    rw [← List.append_assoc]
    exact List.perm_append_singleton _ _
  · simp only [Log.fetches_concat, Log.landings_concat, Event.fetch?, Event.landing?,
      Option.toList_some, Option.toList_none, List.map_append, List.map_cons, List.map_nil,
      List.append_nil, List.append_assoc]
    refine List.Perm.trans ?_ (h.flights.append_right _)
    rw [List.append_assoc]
    exact List.perm_append_comm.append_left _
  · simpa [hbatch] using h.size
  · simpa [Event.join?] using h.cache

theorem expire (h : Recorded c s requests log t) {due : Nat} {l l' : List (Nat × Nat)}
    (hwindows : t.windows = l ++ (due, number) :: l') (time : Nat) :
    Recorded c s requests (log ++ [.expiry time number]) { t with
      now := time
      state := (t.state.expire number).1
      full := (t.state.expire number).2.toList ++ t.full
      windows := l ++ l' } := by
  have hbatch := Log.batch_concat_of_not_join log (e := .expiry time number) rfl
  refine ⟨?_, ?_, ?_, ?_, ?_, ?_, fun b hb => ?_, fun b hb => ?_, ?_, ?_⟩
  · simpa [Event.load?] using h.loads
  · simp [h.answers, Event.answers]
  · simp [h.fetches, Event.fetch?]
  · rw [Log.opened_concat_of_not_join rfl, h.opened, State.expire_nextBatch]
  · rw [hbatch, State.expire_nextBatch, ← List.append_assoc, State.pending_append_expired]
    simpa [Event.fetch?] using h.batches
  · simpa [Event.landing?, Event.fetch?] using h.flights
  · -- the window that ends is another batch's
    obtain ⟨hb, hother⟩ := State.expire_pending hb
    obtain ⟨due', hdue'⟩ := h.window b hb
    rw [hwindows] at hdue'
    have hne : (due', b.number) ≠ (due, number) := fun heq => hother (congrArg Prod.snd heq)
    exact ⟨due', by simpa [hne] using hdue'⟩
  · exact h.room b (State.expire_pending hb).1
  · simpa [hbatch] using h.size
  · simpa [Event.join?] using h.cache

theorem flight_eq (h : Recorded c s requests log t) {x : Batch × Outcome ν}
    (hx : x ∈ t.flights.map (·.2) ++ log.landings.map Flight.cargo) :
    x ∈ log.fetches.map Flight.cargo ∧ x.1 = log.batch x.1.number := by
  have hfetch := h.flights.mem_iff.1 hx
  obtain ⟨f, hf, rfl⟩ := List.mem_map.1 hfetch
  exact ⟨hfetch, (h.batch_eq (List.mem_append_right _ (List.mem_map_of_mem hf))).1⟩

theorem land (h : Recorded c s requests log t) {due : Nat} {b : Batch} {o : Outcome ν}
    {l l' : List (Nat × Batch × Outcome ν)} (hflights : t.flights = l ++ (due, b, o) :: l')
    (time : Nat) : Recorded c s requests (log ++ [.landing time b o])
      (Timeline.land { t with flights := l ++ l' } time b o) := by
  have hbatch := Log.batch_concat_of_not_join log (e := .landing time b o) rfl
  refine ⟨?_, ?_, ?_, ?_, ?_, ?_, fun b' hb' => ?_, fun b' hb' => ?_, ?_, fun x hx => ?_⟩
  · simpa [Timeline.land, Event.load?] using h.loads
  · simp [Timeline.land, h.answers, Event.answers, Batch.settle_answers_eq, Function.comp_def]
  · simp [Timeline.land, h.fetches, Event.fetch?]
  · rw [Log.opened_concat_of_not_join rfl, h.opened]
    simp [Timeline.land]
  · simpa [Timeline.land, hbatch, Event.fetch?] using h.batches
  · have hfetches := h.flights
    rw [hflights] at hfetches
    refine List.Perm.trans ?_ (by simpa [Event.fetch?] using hfetches)
    simp only [Timeline.land, Log.landings_concat, Event.landing?, Option.toList_some,
      List.map_append, List.map_cons, List.map_nil, List.append_assoc]
    refine List.Perm.append_left _ ?_
    rw [← List.append_assoc]
    exact List.perm_append_singleton _ _
  · exact h.window b' (by simpa [Timeline.land] using hb')
  · exact h.room b' (by simpa [Timeline.land] using hb')
  · simpa [hbatch] using h.size
  · obtain hkey | hx := State.mem_settle_cache hx
    · obtain ⟨-, hb⟩ := h.flight_eq (x := (b, o)) (by simp [hflights])
      have hkey' : x.1 ∈ (log.batch b.number).keys := by rwa [← hb]
      obtain ⟨y, hy, hykey⟩ := Log.mem_batch_keys.1 hkey'
      exact ⟨_, by simpa [Event.join?] using Log.mem_joined.1 hy, hykey⟩
    · simpa [Event.join?] using h.cache x hx

theorem happens (h : Recorded c s requests log t) (he : Happens c s t e t') :
    Recorded c s requests (log ++ [e]) t' := by
  cases he with
  | @load number r rest hrequests =>
    unfold State.event
    split
    · rename_i value hv
      exact h.hit hrequests hv
    · rename_i hv
      exact h.join hrequests hv
  | launch hfull time => exact h.launch hfull time _
  | expire hwindows time => exact h.expire hwindows time
  | land hflights time => exact h.land hflights time

end Recorded

theorem Course.recorded (h : Course c s (Timeline.start requests) log t) :
    Recorded c s requests log t := by
  induction h with
  | refl => exact .start
  | next _ he ih => exact ih.happens he

end Timeline

end Depot.Loader
