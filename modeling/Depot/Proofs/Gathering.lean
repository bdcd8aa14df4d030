import Depot.Loader.Timeline
import Depot.Proofs.Distinct
import Mathlib.Data.Finset.Card

namespace Depot.Loader

namespace Batch

def members (b : Batch) : List (Nat × Id) :=
  b.waiters.flatMap fun w => w.2.map fun load => (load, w.1)

def loads (b : Batch) : List Nat := b.members.map (·.1)

def gather (number : Nat) (l : List (Nat × Request)) : Batch :=
  l.foldl (fun b x => b.push x.2.key x.1) (empty number)

variable {b : Batch} {key : Id} {load number : Nat} {l : List (Nat × Request)}

@[simp] theorem gather_nil (number : Nat) : gather number [] = empty number := rfl

theorem gather_concat (number : Nat) (l : List (Nat × Request)) (x : Nat × Request) :
    gather number (l ++ [x]) = (gather number l).push x.2.key x.1 := by
  rw [gather, List.foldl_append]
  rfl

@[simp] theorem push_number : (b.push key load).number = b.number := by
  unfold push
  split <;> rfl

@[simp] theorem gather_number (number : Nat) (l : List (Nat × Request)) :
    (gather number l).number = number := by
  induction l using List.reverseRecOn with
  | nil => rfl
  | append_singleton l x ih => rw [gather_concat, push_number, ih]

/-- Whoever waits, waits for a key that will be fetched, and all of these are waited for. -/
def Balanced (b : Batch) : Prop := b.waiters.map (·.1) = b.keys

theorem Balanced.any_iff (h : b.Balanced) : b.waiters.any (·.1 == key) ↔ key ∈ b.keys := by
  have hkeys : b.waiters.map (·.1) = b.keys := h
  rw [← hkeys]
  simp

theorem Balanced.push_keys (h : b.Balanced) :
    (b.push key load).keys = if key ∈ b.keys then b.keys else b.keys ++ [key] := by
  simp only [push, h.any_iff]
  split <;> rfl

theorem Balanced.push (h : b.Balanced) : (b.push key load).Balanced := by
  have hkeys : b.waiters.map (·.1) = b.keys := h
  unfold Batch.push Balanced
  split
  · rw [List.map_map, ← hkeys]
    apply List.map_congr_left
    intro w _
    dsimp only [Function.comp]
    split <;> rfl
  · simp [hkeys]

theorem gather_balanced (number : Nat) (l : List (Nat × Request)) : (gather number l).Balanced := by
  induction l using List.reverseRecOn with
  | nil => rfl
  | append_singleton l x ih =>
    rw [gather_concat]
    exact ih.push

theorem gather_keys (number : Nat) (l : List (Nat × Request)) :
    (gather number l).keys = (l.map (·.2.key)).eraseDups := by
  induction l using List.reverseRecOn with
  | nil => rfl
  | append_singleton l x ih =>
    rw [gather_concat, (gather_balanced number l).push_keys, ih, List.map_append]
    simp only [List.map_cons, List.map_nil, eraseDups_concat, List.mem_eraseDups]

theorem gather_keys_nodup (number : Nat) (l : List (Nat × Request)) :
    (gather number l).keys.Nodup := by
  rw [gather_keys]
  exact nodup_eraseDups _

theorem mem_gather_keys : key ∈ (gather number l).keys ↔ ∃ x ∈ l, x.2.key = key := by
  simp [gather_keys]

theorem gather_keys_length (number : Nat) (l : List (Nat × Request)) :
    (gather number l).keys.length = (l.map (·.2.key)).toFinset.card := by
  rw [← List.toFinset_card_of_nodup (gather_keys_nodup number l), gather_keys]
  congr 1
  ext key
  simp

theorem members_tell {waiters : List (Id × List Nat)} (hnodup : (waiters.map (·.1)).Nodup)
    (hkey : key ∈ waiters.map (·.1)) :
    ((waiters.map fun w => if w.1 == key then (w.1, w.2 ++ [load]) else w).flatMap
        fun w => w.2.map fun load => (load, w.1)).Perm
      ((waiters.flatMap fun w => w.2.map fun load => (load, w.1)) ++ [(load, key)]) := by
  induction waiters with
  | nil => simp at hkey
  | cons w ws ih =>
    obtain ⟨hw, hws⟩ := List.nodup_cons.1 hnodup
    by_cases h : w.1 = key
    · -- the other keys differ from this one, so their loads stay
      have hrest : (ws.map fun w => if w.1 == key then (w.1, w.2 ++ [load]) else w) = ws := by
        refine (List.map_congr_left fun v hv => ?_).trans (List.map_id' ws)
        have hne : v.1 ≠ key := fun he => hw (List.mem_map.2 ⟨v, hv, he.trans h.symm⟩)
        simp [hne]
      rw [List.map_cons, hrest]
      simp only [h, beq_self_eq_true, if_true, List.flatMap_cons, List.map_append, List.map_cons,
        List.map_nil, List.append_assoc]
      exact List.perm_append_comm.append_left _
    · have hmem : key ∈ ws.map (·.1) := by
        obtain hk | hk := List.mem_cons.1 hkey
        · exact absurd hk.symm h
        · exact hk
      simp only [List.map_cons, beq_iff_eq, h, if_false, List.flatMap_cons, List.append_assoc]
      simpa using (ih hws hmem).append_left _

theorem Balanced.push_members (h : b.Balanced) (hnodup : b.keys.Nodup) :
    (b.push key load).members.Perm (b.members ++ [(load, key)]) := by
  have hkeys : b.waiters.map (·.1) = b.keys := h
  unfold Batch.push
  split
  · rename_i hany
    refine members_tell (hkeys ▸ hnodup) ?_
    rw [hkeys]
    exact h.any_iff.1 hany
  · simp [members]

theorem gather_members (number : Nat) (l : List (Nat × Request)) :
    (gather number l).members.Perm (l.map fun x => (x.1, x.2.key)) := by
  induction l using List.reverseRecOn with
  | nil => simp [members, empty]
  | append_singleton l x ih =>
    rw [gather_concat, List.map_append]
    exact ((gather_balanced number l).push_members (gather_keys_nodup number l)).trans
      (ih.append_right _)

theorem gather_loads (number : Nat) (l : List (Nat × Request)) :
    (gather number l).loads.Perm (l.map (·.1)) := by
  have h := (gather_members number l).map (·.1)
  rwa [List.map_map] at h

theorem settle_answers_eq {ν : Type} (s : State ν) (b : Batch) (o : Outcome ν) :
    (s.settle b o).2 = b.members.map fun x => (x.1, State.tell o x.2) := by
  have h : (s.settle b o).2 =
      b.waiters.flatMap fun w => w.2.map fun load => (load, State.tell o w.1) := by
    cases o <;> rfl
  rw [h, members, List.map_flatMap]
  simp only [List.map_map, Function.comp_def]

end Batch

end Depot.Loader
