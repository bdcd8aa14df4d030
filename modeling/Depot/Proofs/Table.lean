import Depot.Store.Memory
import Mathlib.Data.List.Nodup

namespace Depot.Store

variable {α : Type}

theorem modifyFirst?_eq_some {p : α → Bool} {f : α → α} {rows rows' : List α} {row : α}
    (h : modifyFirst? p f rows = some (row, rows')) :
    ∃ before x after, rows = before ++ x :: after ∧ p x ∧ (∀ y ∈ before, p y = false) ∧
      row = f x ∧ rows' = before ++ f x :: after := by
  induction rows generalizing rows' with
  | nil => cases h
  | cons x xs ih =>
    simp only [modifyFirst?] at h
    by_cases hx : p x
    · simp only [hx, ↓reduceIte, Option.some.injEq, Prod.mk.injEq] at h
      obtain ⟨rfl, rfl⟩ := h
      exact ⟨[], x, xs, rfl, hx, by simp, rfl, rfl⟩
    · simp only [hx, Bool.false_eq_true, ↓reduceIte, Option.map_eq_some_iff, Prod.mk.injEq] at h
      obtain ⟨⟨row', ys⟩, hys, rfl, rfl⟩ := h
      obtain ⟨before, y, after, rfl, hy, hbefore, rfl, rfl⟩ := ih hys
      refine ⟨x :: before, y, after, rfl, hy, ?_, rfl, rfl⟩
      intro z hz
      obtain rfl | hz := List.mem_cons.1 hz
      · exact Bool.eq_false_iff.2 hx
      · exact hbefore z hz

theorem modifyFirst?_mem {p : α → Bool} {f : α → α} {rows rows' : List α} {row : α}
    (h : modifyFirst? p f rows = some (row, rows')) :
    row ∈ rows' ∧ ∃ x ∈ rows, p x ∧ row = f x := by
  obtain ⟨before, x, after, rfl, hx, -, rfl, rfl⟩ := modifyFirst?_eq_some h
  exact ⟨by simp, x, by simp, hx, rfl⟩

theorem of_mem_modifyFirst? {p : α → Bool} {f : α → α} {rows rows' : List α} {row x : α}
    (h : modifyFirst? p f rows = some (row, rows')) (hx : x ∈ rows') :
    x ∈ rows ∨ ∃ y ∈ rows, p y ∧ x = f y := by
  obtain ⟨before, y, after, rfl, hy, -, -, rfl⟩ := modifyFirst?_eq_some h
  obtain hx | hx := List.mem_append.1 hx
  · exact .inl (List.mem_append_left _ hx)
  · obtain rfl | hx := List.mem_cons.1 hx
    · exact .inr ⟨y, by simp, hy, rfl⟩
    · exact .inl (by simp [hx])

theorem modifyFirst?_eq_map {key : α → Id} {g : α → α} {rows : List α}
    (h : (rows.map key).Nodup) {x : α} (hx : x ∈ rows) :
    modifyFirst? (key · == key x) g rows =
      some (g x, rows.map fun y => if key y = key x then g y else y) := by
  induction rows with
  | nil => exact absurd hx List.not_mem_nil
  | cons y rows ih =>
    rw [List.map_cons, List.nodup_cons] at h
    obtain ⟨hfresh, hnodup⟩ := h
    obtain rfl | hx := List.mem_cons.1 hx
    · have hrest : rows.map (fun y => if key y = key x then g y else y) = rows := by
        refine (List.map_congr_left fun z hz => ?_).trans (List.map_id rows)
        exact if_neg fun hsame : key z = key x => hfresh (hsame ▸ List.mem_map_of_mem hz)
      simp [modifyFirst?, hrest]
    · have hne : key y ≠ key x := fun heq => hfresh (heq ▸ List.mem_map_of_mem hx)
      simp [modifyFirst?, hne, ih hnodup hx]

theorem withoutId_eq_some {rows rows' : List α} {id : α → Id} {gone : Id}
    (h : Memory.withoutId rows id gone = some rows') : rows' = rows.filter (id · != gone) := by
  unfold Memory.withoutId at h
  split at h
  · cases h
    rfl
  · cases h

theorem withoutId_split {rows rows' : List α} {id : α → Id} {gone : Id}
    (h : Memory.withoutId rows id gone = some rows') (hnodup : (rows.map id).Nodup) :
    ∃ before x after, rows = before ++ x :: after ∧ id x = gone ∧ rows' = before ++ after := by
  have hrows := withoutId_eq_some h
  unfold Memory.withoutId at h
  split at h
  · rename_i hany
    obtain ⟨x, hx, hid⟩ := List.any_eq_true.1 hany
    have hid : id x = gone := by simpa using hid
    obtain ⟨before, after, rfl⟩ := List.append_of_mem hx
    rw [List.map_append, List.map_cons, List.nodup_middle, List.nodup_cons, ← List.map_append,
      hid] at hnodup
    have hother : ∀ y ∈ before ++ after, id y ≠ gone := fun y hy heq =>
      hnodup.1 (heq ▸ List.mem_map_of_mem hy)
    have hkept : (before ++ after).filter (id · != gone) = before ++ after :=
      List.filter_eq_self.2 fun y hy => by simpa using hother y hy
    refine ⟨before, x, after, rfl, hid, ?_⟩
    rw [hrows, List.filter_append, List.filter_cons_of_neg (by simp [hid]), ← List.filter_append,
      hkept]
  · cases h

theorem find_eq_ok {rows : List α} {p : α → Bool} {missing : Error} {row : α}
    (h : Memory.find rows p missing = .ok row) : row ∈ rows ∧ p row = true := by
  unfold Memory.find at h
  split at h
  · rename_i found hfound
    cases h
    exact ⟨List.mem_of_find?_eq_some hfound, List.find?_some hfound⟩
  · cases h

theorem find_eq_error {rows : List α} {p : α → Bool} {missing e : Error}
    (h : Memory.find rows p missing = .error e) : e = missing := by
  unfold Memory.find at h
  split at h
  · cases h
  · cases h
    rfl

theorem find_own {κ : Type} [BEq κ] [LawfulBEq κ] {rows : List α} {key : α → κ}
    (h : (rows.map key).Nodup) {a : α} (ha : a ∈ rows) (missing : Error) :
    Memory.find rows (key · == key a) missing = .ok a := by
  have hfind : rows.find? (key · == key a) = some a := by
    cases hb : rows.find? (key · == key a) with
    | none => exact absurd (beq_self_eq_true (key a)) (List.find?_eq_none.1 hb a ha)
    | some b =>
      have hkey : key b = key a := by simpa using List.find?_some hb
      have hmem := List.mem_of_find?_eq_some hb
      rw [List.inj_on_of_nodup_map h hmem ha hkey]
  rw [Memory.find, hfind]

/-- A row with its key and its origin: what is left of it when all that can change is blotted out.
Rows are born in a certain form, which their origin still shows. -/
class Record (α : Type) where
  key : α → Int
  origin : α → α
  born : α → Prop
  key_origin (a : α) : key (origin a) = key a
  born_origin (a : α) : born (origin a) ↔ born a

variable [Record α]

open Record

theorem key_eq {a b : α} (h : origin a = origin b) : key a = key b := by
  rw [← key_origin a, ← key_origin b, h]

namespace Table

/-- The keys ascend from one to the number of the last row, and every row is what it was born as. -/
structure Sound (t : Table α) : Prop where
  ascending : (t.rows.map key).Pairwise (· < ·)
  bounds : ∀ row ∈ t.rows, 1 ≤ key row ∧ key row ≤ t.sequence
  born : ∀ row ∈ t.rows, born row

/-- A table after one call: some of the rows, with their origins, or all of them and a new one. -/
inductive Step (new : α → Prop) (t : Table α) : Table α → Prop
  | keep {rows : List α} (h : (rows.map origin).Sublist (t.rows.map origin)) :
    Step new t ⟨rows, t.sequence⟩
  | insert {row : α} (h : new row) : Step new t (t.insert row)

/-- A later state of a table: under a number given out by then there is nothing new. -/
structure Later (t t' : Table α) : Prop where
  sequence : t.sequence ≤ t'.sequence
  rows : ∀ row ∈ t'.rows, key row ≤ t.sequence → ∃ old ∈ t.rows, origin old = origin row

variable {t t' t'' : Table α} {new : α → Prop}

theorem Sound.map (h : t.Sound) {f : α → α} (hkey : ∀ a, key (f a) = key a)
    (hborn : ∀ a, Record.born a → Record.born (f a)) : (⟨t.rows.map f, t.sequence⟩ : Table α).Sound where
  ascending := by
    have hkeys : (t.rows.map f).map key = t.rows.map key := by
      rw [List.map_map]
      exact List.map_congr_left fun a _ => hkey a
    rw [hkeys]
    exact h.ascending
  bounds := by
    simpa only [List.forall_mem_map, hkey] using h.bounds
  born := by
    simpa only [List.forall_mem_map] using fun a ha => hborn a (h.born a ha)

theorem Step.refl : t.Step new t := .keep (List.Sublist.refl _)

theorem Step.exists (h : t.Step new t') {row : α} (hrow : row ∈ t'.rows) :
    (∃ old ∈ t.rows, origin old = origin row) ∨ new row := by
  cases h with
  | keep h =>
    obtain ⟨old, hold, heq⟩ := List.mem_map.1 (h.subset (List.mem_map_of_mem hrow))
    exact .inl ⟨old, hold, heq⟩
  | insert h =>
    obtain hrow | hrow := List.mem_append.1 hrow
    · exact .inl ⟨row, hrow, rfl⟩
    · obtain rfl := List.mem_singleton.1 hrow
      exact .inr h

theorem Step.modify {p : α → Bool} {f : α → α} {row : α} {rows : List α}
    (h : modifyFirst? p f t.rows = some (row, rows))
    (hf : ∀ x ∈ t.rows, p x → origin (f x) = origin x) : t.Step new ⟨rows, t.sequence⟩ := by
  obtain ⟨before, x, after, hrows, hx, -, -, rfl⟩ := modifyFirst?_eq_some h
  refine .keep ?_
  rw [hrows, List.map_append, List.map_append, List.map_cons, List.map_cons,
    hf x (by simp [hrows]) hx]

theorem Step.without {id : α → Id} {gone : Id} {rows : List α}
    (h : Memory.withoutId t.rows id gone = some rows) : t.Step new ⟨rows, t.sequence⟩ := by
  rw [withoutId_eq_some h]
  exact .keep (List.filter_sublist.map _)

theorem Sound.empty : (⟨[], 0⟩ : Table α).Sound := ⟨by simp, by simp, by simp⟩

theorem Sound.step (h : t.Sound) (hs : t.Step new t')
    (hnew : ∀ row, new row → key row = t.sequence + 1 ∧ Record.born row) : t'.Sound := by
  cases hs with
  | @keep rows hsub =>
    have old {row} (hrow : row ∈ rows) : ∃ x ∈ t.rows, origin x = origin row := by
      simpa using hsub.subset (List.mem_map_of_mem hrow)
    refine ⟨?_, fun row hrow => ?_, fun row hrow => ?_⟩
    · -- the keys can be read off the origins
      have hkeys := hsub.map key
      simp only [List.map_map, Function.comp_def, key_origin] at hkeys
      exact h.ascending.sublist hkeys
    · obtain ⟨x, hx, heq⟩ := old hrow
      rw [← key_eq heq]
      exact h.bounds x hx
    · obtain ⟨x, hx, heq⟩ := old hrow
      rw [← born_origin, ← heq, born_origin]
      exact h.born x hx
  | @insert row hrow =>
    obtain ⟨hkey, hborn⟩ := hnew row hrow
    simp only [Table.insert]
    refine ⟨?_, ?_, ?_⟩
    · rw [List.map_append, List.pairwise_append]
      refine ⟨h.ascending, by simp, ?_⟩
      intro k hk k' hk'
      obtain ⟨x, hx, rfl⟩ := List.mem_map.1 hk
      obtain rfl : k' = key row := by simpa using hk'
      have := (h.bounds x hx).2
      omega
    · intro x hx
      obtain hx | hx := List.mem_append.1 hx
      · have := h.bounds x hx
        exact ⟨this.1, by push_cast; omega⟩
      · obtain rfl := List.mem_singleton.1 hx
        exact ⟨by omega, by push_cast; omega⟩
    · intro x hx
      obtain hx | hx := List.mem_append.1 hx
      · exact h.born x hx
      · obtain rfl := List.mem_singleton.1 hx
        exact hborn

theorem Sound.nodup (h : t.Sound) : (t.rows.map key).Nodup :=
  h.ascending.imp fun hlt => Int.ne_of_lt hlt

theorem Sound.eq_of_key (h : t.Sound) {a b : α} (ha : a ∈ t.rows) (hb : b ∈ t.rows)
    (hkey : key a = key b) : a = b :=
  List.inj_on_of_nodup_map h.nodup ha hb hkey

theorem Later.refl : t.Later t := ⟨Nat.le_refl _, fun row hrow _ => ⟨row, hrow, rfl⟩⟩

theorem Later.trans (h : t.Later t') (h' : t'.Later t'') : t.Later t'' := by
  refine ⟨Nat.le_trans h.sequence h'.sequence, fun row hrow hkey => ?_⟩
  have hle : (t.sequence : Int) ≤ t'.sequence := by exact_mod_cast h.sequence
  obtain ⟨old, hold, heq⟩ := h'.rows row hrow (Int.le_trans hkey hle)
  obtain ⟨older, holder, heq'⟩ := h.rows old hold (by rwa [key_eq heq])
  exact ⟨older, holder, heq'.trans heq⟩

theorem Step.later (hs : t.Step new t') (hnew : ∀ row, new row → key row = t.sequence + 1) :
    t.Later t' := by
  refine ⟨?_, fun row hrow hkey => ?_⟩
  · cases hs with
    | keep => exact Nat.le_refl _
    | insert => exact Nat.le_succ _
  · obtain hold | hrow := hs.exists hrow
    · exact hold
    · have := hnew row hrow
      omega

def Agrees (t t' : Table α) : Prop :=
  ∀ a ∈ t.rows, ∀ b ∈ t'.rows, key a = key b → origin a = origin b

instance : Std.Symm (Agrees (α := α)) where
  symm _ _ h a ha b hb hkey := (h b hb a ha hkey.symm).symm

theorem Sound.agrees (h : t.Sound) : t.Agrees t := by
  intro a ha b hb hkey
  rw [h.eq_of_key ha hb hkey]

theorem Later.agrees (h : t.Later t') (ht : t.Sound) : t'.Agrees t := by
  intro b hb a ha hkey
  obtain ⟨old, hold, heq⟩ := h.rows b hb (hkey ▸ (ht.bounds a ha).2)
  rw [← heq, ht.eq_of_key hold ha ((key_eq heq).trans hkey)]

end Table

end Depot.Store
