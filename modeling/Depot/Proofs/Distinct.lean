import Mathlib.Data.List.Induction
import Mathlib.Data.List.Nodup

namespace Depot

variable {α : Type} [DecidableEq α]

theorem eraseDups_concat (l : List α) (a : α) :
    (l ++ [a]).eraseDups = if a ∈ l then l.eraseDups else l.eraseDups ++ [a] := by
  rw [List.eraseDups_append]
  by_cases h : a ∈ l <;> simp [List.removeAll, List.eraseDups_cons, h]

theorem nodup_eraseDups (l : List α) : l.eraseDups.Nodup := by
  induction l using List.reverseRecOn with
  | nil => simp
  | append_singleton l a ih =>
    rw [eraseDups_concat]
    split
    · exact ih
    · rename_i ha
      exact List.nodup_append.2 ⟨ih, List.nodup_singleton a, by grind [List.mem_eraseDups]⟩

theorem eraseDups_eq_self {l : List α} (h : l.Nodup) : l.eraseDups = l := by
  induction l using List.reverseRecOn with
  | nil => rfl
  | append_singleton l a ih =>
    obtain ⟨hl, -, hdisjoint⟩ := List.nodup_append.1 h
    have ha : a ∉ l := fun ha => hdisjoint a ha a (List.mem_singleton.2 rfl) rfl
    rw [eraseDups_concat, if_neg ha, ih hl]

theorem eraseDups_eq_map_filter (l : List α) :
    l.eraseDups = (l.zipIdx.filter fun x => x.1 ∉ l.take x.2).map (·.1) := by
  induction l using List.reverseRecOn with
  | nil => rfl
  | append_singleton l a ih =>
    -- the new place is the last one, so no other place has it before itself
    have hbefore : (l.zipIdx.filter fun x => x.1 ∉ (l ++ [a]).take x.2) =
        l.zipIdx.filter fun x => x.1 ∉ l.take x.2 := by
      refine List.filter_congr fun x hx => ?_
      have hi : x.2 ≤ l.length := Nat.le_of_lt (List.snd_lt_of_mem_zipIdx hx)
      rw [List.take_append_of_le_length hi]
    rw [List.zipIdx_append, List.filter_append, hbefore, List.map_append, ← ih, eraseDups_concat]
    by_cases ha : a ∈ l <;> simp [ha]

end Depot
