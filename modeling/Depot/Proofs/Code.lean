import Depot.Code
import Mathlib.Algebra.Group.Nat.Defs

namespace Depot

theorem ofDigitChars_padded (width n : Nat) :
    Nat.ofDigitChars 10 (padded width n).toList 0 = n := by
  rw [padded, String.toList_ofList, Nat.ofDigitChars_append, Nat.ofDigitChars_replicate_zero,
    Nat.mul_zero, Nat.ofDigitChars_ten_toDigits]

theorem padded_injective {width m n : Nat} (h : padded width m = padded width n) : m = n := by
  rw [← ofDigitChars_padded width m, h, ofDigitChars_padded]

theorem isDigit_of_mem_padded {width n : Nat} {c : Char} (h : c ∈ (padded width n).toList) :
    c.isDigit := by
  rw [padded, String.toList_ofList] at h
  obtain h | h := List.mem_append.1 h
  · obtain ⟨-, rfl⟩ := List.mem_replicate.1 h
    rfl
  · exact Nat.isDigit_of_mem_toDigits (by decide) (by decide) h

theorem length_padded {width n : Nat} (hwidth : 0 < width) (hn : n < 10 ^ width) :
    (padded width n).toList.length = width := by
  have hdigits := (Nat.length_toDigits_le_iff (by decide) hwidth).2 hn
  rw [padded, String.toList_ofList, List.length_append, List.length_replicate]
  omega

theorem sign_ne_padded {width width' m n : Nat} : "-" ++ padded width m ≠ padded width' n := by
  intro h
  have hmem : '-' ∈ (padded width' n).toList := by
    rw [← h, String.toList_append]
    exact List.mem_append_left _ (by decide)
  exact absurd (isDigit_of_mem_padded hmem) (by decide)

theorem sequenceCode_injective {letters : String} {m n : Int}
    (h : sequenceCode letters m = sequenceCode letters n) : m = n := by
  unfold sequenceCode at h
  have h := String.append_right_inj _ |>.1 h
  by_cases hm : m < 0 <;> by_cases hn : n < 0 <;> simp only [hm, hn, if_true, if_false] at h
  · have := padded_injective (String.append_right_inj _ |>.1 h)
    omega
  · exact absurd h sign_ne_padded
  · exact absurd h.symm sign_ne_padded
  · have := padded_injective h
    omega

section Order

theorem mul_add_lt_iff {b x y v w : Nat} (hv : v < b) (hw : w < b) :
    b * x + v < b * y + w ↔ x < y ∨ x = y ∧ v < w := by
  obtain h | rfl | h := Nat.lt_trichotomy x y
  · have hmul : b * x + b ≤ b * y := Nat.mul_le_mul_left b h
    omega
  · omega
  · have hmul : b * y + b ≤ b * x := Nat.mul_le_mul_left b h
    omega

theorem ofDigitChars_cons (c : Char) (cs : List Char) :
    Nat.ofDigitChars 10 (c :: cs) 0 =
      10 ^ cs.length * (c.toNat - 48) + Nat.ofDigitChars 10 cs 0 := by
  rw [Nat.ofDigitChars_cons, Nat.ofDigitChars_eq_ofDigitChars_zero, Nat.mul_zero, Nat.zero_add]
  rfl

theorem ofDigitChars_lt {ds : List Char} (h : ∀ c ∈ ds, c.isDigit) :
    Nat.ofDigitChars 10 ds 0 < 10 ^ ds.length := by
  induction ds with
  | nil => decide
  | cons c cs ih =>
    obtain ⟨hc, hcs⟩ := List.forall_mem_cons.1 h
    obtain ⟨-, hc : c.toNat ≤ 57⟩ := Char.isDigit_iff_toNat.1 hc
    calc Nat.ofDigitChars 10 (c :: cs) 0
        = 10 ^ cs.length * (c.toNat - 48) + Nat.ofDigitChars 10 cs 0 := ofDigitChars_cons c cs
      _ < 10 ^ cs.length * (c.toNat - 48) + 10 ^ cs.length := Nat.add_lt_add_left (ih hcs) _
      _ = 10 ^ cs.length * (c.toNat - 48 + 1) := (Nat.mul_succ _ _).symm
      _ ≤ 10 ^ cs.length * 10 := Nat.mul_le_mul_left _ (by omega)

theorem digits_lt_iff {ds es : List Char} (hds : ∀ c ∈ ds, c.isDigit) (hes : ∀ c ∈ es, c.isDigit)
    (hlength : ds.length = es.length) :
    ds < es ↔ Nat.ofDigitChars 10 ds 0 < Nat.ofDigitChars 10 es 0 := by
  induction ds generalizing es with
  | nil =>
    obtain rfl := List.length_eq_zero_iff.1 hlength.symm
    simp
  | cons c cs ih =>
    cases es with
    | nil => cases hlength
    | cons d es =>
      obtain ⟨hc, hcs⟩ := List.forall_mem_cons.1 hds
      obtain ⟨hd, hes⟩ := List.forall_mem_cons.1 hes
      obtain ⟨hc : 48 ≤ c.toNat, -⟩ := Char.isDigit_iff_toNat.1 hc
      obtain ⟨hd : 48 ≤ d.toNat, -⟩ := Char.isDigit_iff_toNat.1 hd
      have hlength : cs.length = es.length := Nat.succ.inj hlength
      have hvalue : Nat.ofDigitChars 10 cs 0 < 10 ^ es.length := hlength ▸ ofDigitChars_lt hcs
      have hlt : c < d ↔ c.toNat - 48 < d.toNat - 48 := by
        have hcode : c < d ↔ c.toNat < d.toNat := Iff.rfl
        rw [hcode]
        omega
      have heq : c = d ↔ c.toNat - 48 = d.toNat - 48 := by
        rw [← Char.toNat_inj]
        omega
      rw [List.cons_lt_cons_iff, ih hcs hes hlength, hlt, heq, ofDigitChars_cons, ofDigitChars_cons,
        hlength, mul_add_lt_iff hvalue (ofDigitChars_lt hes)]

theorem padded_lt_padded_iff {width m n : Nat} (hwidth : 0 < width) (hm : m < 10 ^ width)
    (hn : n < 10 ^ width) : padded width m < padded width n ↔ m < n := by
  have hlength : (padded width m).toList.length = (padded width n).toList.length := by
    rw [length_padded hwidth hm, length_padded hwidth hn]
  rw [String.lt_iff, digits_lt_iff (fun _ => isDigit_of_mem_padded) (fun _ => isDigit_of_mem_padded)
    hlength, ofDigitChars_padded, ofDigitChars_padded]

theorem append_lt_append_iff (letters s t : String) : letters ++ s < letters ++ t ↔ s < t := by
  rw [String.lt_iff, String.lt_iff, String.toList_append, String.toList_append]
  induction letters.toList with
  | nil => rfl
  | cons c cs ih => rw [List.cons_append, List.cons_append, List.cons_lt_cons_self, ih]

theorem sequenceCode_lt_iff {letters : String} {m n : Int} (hm : 0 ≤ m) (hm' : m < 100000)
    (hn : 0 ≤ n) (hn' : n < 100000) : sequenceCode letters m < sequenceCode letters n ↔ m < n := by
  rw [sequenceCode, sequenceCode, append_lt_append_iff, if_neg (by omega), if_neg (by omega),
    padded_lt_padded_iff (by decide) (by omega) (by omega)]
  omega

example : sequenceCode Code.pallet 100000 < sequenceCode Code.pallet 99999 := by decide +kernel

end Order

end Depot
