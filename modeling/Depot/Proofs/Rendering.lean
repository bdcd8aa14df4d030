import Depot.Json.Decode
import Mathlib.Data.Char
import Mathlib.Data.List.Basic

namespace Depot.Text

theorem digitsValue_toDigits (n : Nat) : digitsValue (Nat.toDigits 10 n) = n := by
  have hvalue : digitsValue (Nat.toDigits 10 n) = Nat.ofDigitChars 10 (Nat.toDigits 10 n) 0 := by
    simp only [digitsValue, Nat.ofDigitChars_eq_foldl, Nat.mul_comm]
    rfl
  rw [hvalue, Nat.ofDigitChars_ten_toDigits]

theorem isDigit_of_mem_toDigits {n : Nat} {c : Char} (h : c ∈ Nat.toDigits 10 n) :
    isDigit c = true :=
  Nat.isDigit_of_mem_toDigits (by decide) (by decide) h

theorem digitChar_ne_zero : ∀ n < 10, 0 < n → n.digitChar ≠ '0' := by decide

theorem head?_toDigits_ne_zero {n : Nat} (h : 0 < n) : (Nat.toDigits 10 n).head? ≠ some '0' := by
  induction n using Nat.strong_induction_on with
  | _ n ih =>
    obtain hn | hn := Nat.lt_or_ge n 10
    · rw [Nat.toDigits_of_lt_base hn]
      simpa using digitChar_ne_zero n hn h
    · rw [Nat.toDigits_of_base_le (by decide) hn, List.head?_append_of_ne_nil _ Nat.toDigits_ne_nil]
      exact ih (n / 10) (by omega) (by omega)

theorem toDigits_ne_zero_cons {n : Nat} {c : Char} {cs : List Char} :
    Nat.toDigits 10 n ≠ '0' :: c :: cs := by
  intro h
  obtain rfl | hn := Nat.eq_zero_or_pos n
  · rw [Nat.toDigits_zero] at h
    exact absurd h (by simp)
  · exact head?_toDigits_ne_zero hn (by rw [h, List.head?_cons])

theorem hexValue?_hexDigit : ∀ n < 16, hexValue? (hexDigit n) = some n := by decide

end Depot.Text

namespace Depot.Json

/-- The values whose text is read back as written: an integer fits 64 bits, with or without a sign,
and there are no fractions. -/
inductive Plain : Json → Prop where
  | null : Plain .null
  | bool (b : Bool) : Plain (.bool b)
  | int {n : Int} (h : -0x8000000000000000 ≤ n ∧ n < 0x10000000000000000) : Plain (.int n)
  | str (s : String) : Plain (.str s)
  | arr {items : List Json} (h : ∀ x ∈ items, Plain x) : Plain (.arr items)
  | obj {members : List (String × Json)} (h : ∀ m ∈ members, Plain m.2) : Plain (.obj members)

namespace Draft

open Text

def EndsNumber (cs : List Char) : Prop :=
  ∀ c ∈ cs.head?, isDigit c = false ∧ c ≠ '.' ∧ c ≠ 'e' ∧ c ≠ 'E'

theorem EndsNumber.nil : EndsNumber [] := by simp [EndsNumber]

theorem EndsNumber.cons {c : Char} (rest : List Char)
    (h : isDigit c = false ∧ c ≠ '.' ∧ c ≠ 'e' ∧ c ≠ 'E') : EndsNumber (c :: rest) := by
  simpa [EndsNumber] using h

theorem hexNumber?_control {n : Nat} (h : n < 32) :
    hexNumber? ['0', '0', hexDigit (n / 16), hexDigit (n % 16)] = some n := by
  have hzero : hexValue? '0' = some 0 := by decide
  have hhigh := hexValue?_hexDigit (n / 16) (by omega)
  have hlow := hexValue?_hexDigit (n % 16) (by omega)
  simp only [hexNumber?, List.foldlM_cons, List.foldlM_nil, hzero, hhigh, hlow, Option.map_some,
    Option.bind_eq_bind, Option.bind_some, Option.pure_def]
  congr 1
  omega

theorem quoted_simple {fuel : Nat} {c d : Char} (rest : List Char) (h : simpleEscape? c = some d) :
    quoted (fuel + 1) ('\\' :: c :: rest) =
      ((quoted fuel rest).1.add d, (quoted fuel rest).2) := by
  have hu : c ≠ 'u' := fun hc => by simp [hc, simpleEscape?] at h
  simp [quoted, h]

theorem quoted_control {fuel : Nat} {c : Char} (rest : List Char) (h : c.toNat < 32) :
    quoted (fuel + 1) ('\\' :: 'u' :: '0' :: '0' :: hexDigit (c.toNat / 16) ::
      hexDigit (c.toNat % 16) :: rest) = ((quoted fuel rest).1.add c, (quoted fuel rest).2) := by
  have hlow : ¬(0xDC00 ≤ c.toNat && c.toNat ≤ 0xDFFF) = true := by
    simp only [Bool.and_eq_true, decide_eq_true_eq]
    omega
  have hhigh : ¬(0xD800 ≤ c.toNat && c.toNat ≤ 0xDBFF) = true := by
    simp only [Bool.and_eq_true, decide_eq_true_eq]
    omega
  simp only [quoted, hex4?, hexNumber?_control h, Option.map_some, if_neg hlow, if_neg hhigh,
    Char.ofNat_toNat]

theorem quoted_plain {fuel : Nat} {c : Char} (rest : List Char) (hquote : c ≠ '"')
    (hslash : c ≠ '\\') (h : 32 ≤ c.toNat) :
    quoted (fuel + 1) (c :: rest) = ((quoted fuel rest).1.add c, (quoted fuel rest).2) := by
  simp [quoted, hslash, Nat.not_lt.2 h]

theorem quoted_escape (fuel : Nat) (c : Char) (rest : List Char) :
    quoted (fuel + 1) (escape c ++ rest) =
      ((quoted fuel rest).1.add c, (quoted fuel rest).2) := by
  unfold escape
  split_ifs with hquote hslash hline hreturn htab hback hfeed hcontrol
  · exact quoted_simple rest (by simp [simpleEscape?, hquote])
  · exact quoted_simple rest (by simp [simpleEscape?, hslash])
  · exact quoted_simple rest (by simp [simpleEscape?, hline])
  · exact quoted_simple rest (by simp [simpleEscape?, hreturn])
  · exact quoted_simple rest (by simp [simpleEscape?, htab])
  · have hc : Char.ofNat 8 = c := by rw [← hback, Char.ofNat_toNat]
    exact quoted_simple rest (by rw [← hc]; rfl)
  · have hc : Char.ofNat 12 = c := by rw [← hfeed, Char.ofNat_toNat]
    exact quoted_simple rest (by rw [← hc]; rfl)
  · exact quoted_control rest hcontrol
  · exact quoted_plain rest hquote hslash (Nat.not_lt.1 hcontrol)

theorem length_escape_pos (c : Char) : 0 < (escape c).length := by
  unfold escape
  split_ifs <;> simp

theorem quoted_flatMap_escape (cs rest : List Char) {fuel : Nat}
    (hfuel : (cs.flatMap escape).length < fuel) :
    quoted fuel (cs.flatMap escape ++ '"' :: rest) = (.text cs, rest) := by
  induction cs generalizing fuel with
  | nil =>
    obtain ⟨fuel, rfl⟩ := Nat.exists_eq_succ_of_ne_zero (Nat.ne_of_gt (Nat.zero_lt_of_lt hfuel))
    simp [quoted]
  | cons c cs ih =>
    obtain ⟨fuel, rfl⟩ := Nat.exists_eq_succ_of_ne_zero (Nat.ne_of_gt (Nat.zero_lt_of_lt hfuel))
    have hlength := length_escape_pos c
    rw [List.flatMap_cons, List.length_append] at hfuel
    rw [List.flatMap_cons, List.append_assoc, quoted_escape, ih (by omega), Quoted.add]

theorem quoted_quote (s : String) (rest : List Char) :
    ∃ tail, quote s ++ rest = '"' :: tail ∧
      quoted (tail.length + 1) tail = (.text s.toList, rest) := by
  refine ⟨s.toList.flatMap escape ++ '"' :: rest, by simp [quote], ?_⟩
  refine quoted_flatMap_escape _ _ ?_
  rw [List.length_append]
  omega

theorem fractionPart?_eq {rest : List Char} (h : EndsNumber rest) :
    fractionPart? rest = some ([], rest) := by
  cases rest with
  | nil => rfl
  | cons c rest =>
    obtain ⟨-, hpoint, he, hE⟩ := h c rfl
    simp [fractionPart?, hpoint, he, hE]

theorem number_toDigits (negative : Bool) (n : Nat) {rest : List Char} (h : EndsNumber rest) :
    number negative (Nat.toDigits 10 n ++ rest) =
      (numberOf negative (Nat.toDigits 10 n) [], rest) := by
  have hdigits : ∀ c ∈ Nat.toDigits 10 n, isDigit c = true := fun c => isDigit_of_mem_toDigits
  have hrest : rest.takeWhile isDigit = [] ∧ rest.dropWhile isDigit = rest := by
    cases rest with
    | nil => simp
    | cons c rest => simp [(h c rfl).1]
  have htake : (Nat.toDigits 10 n ++ rest).takeWhile isDigit = Nat.toDigits 10 n := by
    rw [List.takeWhile_append_of_pos hdigits, hrest.1, List.append_nil]
  have hdrop : (Nat.toDigits 10 n ++ rest).dropWhile isDigit = rest := by
    rw [List.dropWhile_append_of_pos hdigits, hrest.2]
  rw [number, htake, hdrop, fractionPart?_eq h]
  split
  · next hnil => exact absurd hnil Nat.toDigits_ne_nil
  · next hzero => exact absurd hzero toDigits_ne_zero_cons
  · rfl

theorem numberOf_nonneg {n : Nat} (h : n < 0x10000000000000000) :
    numberOf false (Nat.toDigits 10 n) [] = .int n := by
  simp [numberOf, digitsValue_toDigits, h]

theorem numberOf_neg {n : Nat} (hpos : 0 < n) (h : n ≤ 0x8000000000000000) :
    numberOf true (Nat.toDigits 10 n) [] = .int (-(n : Int)) := by
  simp [numberOf, digitsValue_toDigits, Nat.ne_of_gt hpos, Nat.not_lt.2 h]

theorem skip_cons {c : Char} {cs : List Char} (h : isSpace c = false) : skip (c :: cs) = c :: cs := by
  simp [skip, h]

theorem ne_of_isDigit {c : Char} (h : isDigit c = true) (d : Char) (hd : isDigit d = false) :
    c ≠ d := by
  rintro rfl
  exact absurd (h.symm.trans hd) (by decide)

theorem isSpace_of_isDigit {c : Char} (h : isDigit c = true) : isSpace c = false := by
  have hne := ne_of_isDigit h
  simp [isSpace, hne ' ' rfl, hne '\n' rfl, hne '\t' rfl, hne '\r' rfl]

theorem value_digit {fuel : Nat} {c : Char} {cs : List Char} (h : isDigit c = true) :
    value (fuel + 1) (c :: cs) = number false (c :: cs) := by
  -- none of the other characters that a value may begin with
  have hne := ne_of_isDigit h
  simp [value, skip_cons (isSpace_of_isDigit h), h, hne 'n' rfl, hne 't' rfl, hne 'f' rfl,
    hne '"' rfl, hne '-' rfl, hne '[' rfl, hne '{' rfl]

theorem render_int_nonneg (n : Nat) : (Json.int n).render = Nat.toDigits 10 n := by
  rw [render, Int.toString_eq_repr]
  exact Nat.toList_repr

theorem render_int_neg (n : Nat) :
    (Json.int (Int.negSucc n)).render = '-' :: Nat.toDigits 10 (n + 1) := by
  rw [render, Int.toString_eq_repr, Int.repr, String.toList_append, Nat.toList_repr]
  rfl

theorem toDigits_eq_cons (n : Nat) : ∃ c cs, Nat.toDigits 10 n = c :: cs ∧ isDigit c = true := by
  obtain ⟨c, cs, hcs⟩ := List.exists_cons_of_ne_nil (Nat.toDigits_ne_nil (n := n) (b := 10))
  exact ⟨c, cs, hcs, isDigit_of_mem_toDigits (n := n) (by rw [hcs]; exact List.mem_cons_self)⟩

theorem value_int {fuel : Nat} {n : Int} {rest : List Char}
    (h : -0x8000000000000000 ≤ n ∧ n < 0x10000000000000000) (hrest : EndsNumber rest) :
    value (fuel + 1) ((Json.int n).render ++ rest) = (.int n, rest) := by
  cases n with
  | ofNat n =>
    rw [Int.ofNat_eq_natCast] at h ⊢
    obtain ⟨c, cs, hcs, hc⟩ := toDigits_eq_cons n
    rw [render_int_nonneg, hcs, List.cons_append, value_digit hc, ← List.cons_append, ← hcs,
      number_toDigits false n hrest, numberOf_nonneg (by omega)]
  | negSucc n =>
    have hnumber := number_toDigits true (n + 1) hrest
    rw [numberOf_neg (by omega) (by omega)] at hnumber
    rw [render_int_neg, List.cons_append, Int.negSucc_eq]
    simpa [value, skip, isSpace] using hnumber

theorem render_eq_cons {j : Json} (h : j.Plain) :
    ∃ c cs, j.render = c :: cs ∧ isSpace c = false ∧ c ≠ ']' := by
  cases h with
  | null => exact ⟨_, _, rfl, by decide⟩
  | bool b => cases b <;> exact ⟨_, _, rfl, by decide⟩
  | str s => exact ⟨_, _, rfl, by decide⟩
  | arr => exact ⟨_, _, rfl, by decide⟩
  | obj => exact ⟨_, _, rfl, by decide⟩
  | @int n =>
    cases n with
    | ofNat n =>
      obtain ⟨c, cs, hcs, hc⟩ := toDigits_eq_cons n
      exact ⟨c, cs, (render_int_nonneg n).trans hcs, isSpace_of_isDigit hc, ne_of_isDigit hc ']' rfl⟩
    | negSucc n => exact ⟨_, _, render_int_neg n, by decide⟩

theorem brokenEnd_ofItems {items : List Json} (h : ∀ x ∈ items, (ofJson x).isBroken = false) :
    isBroken.brokenEnd (ofItems items) = false := by
  induction items with
  | nil => rfl
  | cons x rest ih =>
    obtain ⟨hx, hrest⟩ := List.forall_mem_cons.1 h
    cases rest with
    | nil => exact hx
    | cons y rest => exact ih hrest

theorem brokenMember_ofMembers {ms : List (String × Json)}
    (h : ∀ m ∈ ms, (ofJson m.2).isBroken = false) :
    isBroken.brokenMember (ofMembers ms) = false := by
  induction ms with
  | nil => rfl
  | cons m rest ih =>
    obtain ⟨hm, hrest⟩ := List.forall_mem_cons.1 h
    cases rest with
    | nil => exact hm
    | cons m' rest => exact ih hrest

theorem isBroken_ofJson {j : Json} (h : j.Plain) : (ofJson j).isBroken = false := by
  induction h with
  | arr _ ih => exact brokenEnd_ofItems ih
  | obj _ ih => exact brokenMember_ofMembers ih
  | _ => rfl

section

variable {fuel : Nat} {cs rest : List Char} {d : Draft}

theorem values_last (h : value fuel cs = (d, ']' :: rest)) (hd : d.isBroken = false) :
    values (fuel + 1) cs = ([d], rest) := by
  simp [values, h, hd, skip, isSpace]

theorem values_cons (h : value fuel cs = (d, ',' :: rest)) (hd : d.isBroken = false) :
    values (fuel + 1) cs = (d :: (values fuel rest).1, (values fuel rest).2) := by
  simp [values, h, hd, skip, isSpace]

theorem members_last (name : String) (h : value fuel cs = (d, '}' :: rest))
    (hd : d.isBroken = false) :
    members (fuel + 1) (quote name ++ ':' :: cs) = ([(name, d)], rest) := by
  obtain ⟨tail, htail, hname⟩ := quoted_quote name (':' :: cs)
  simp [members, htail, hname, h, hd, skip, isSpace]

theorem members_cons (name : String) (h : value fuel cs = (d, ',' :: rest))
    (hd : d.isBroken = false) :
    members (fuel + 1) (quote name ++ ':' :: cs) =
      ((name, d) :: (members fuel rest).1, (members fuel rest).2) := by
  obtain ⟨tail, htail, hname⟩ := quoted_quote name (':' :: cs)
  simp [members, htail, hname, h, hd, skip, isSpace]

end

def ReadsBack (j : Json) : Prop :=
  ∀ fuel rest, 2 * j.render.length ≤ fuel → EndsNumber rest →
    value fuel (j.render ++ rest) = (ofJson j, rest)

theorem values_renderItems {x : Json} {items : List Json} (hplain : ∀ y ∈ x :: items, y.Plain)
    (hread : ∀ y ∈ x :: items, ReadsBack y) (fuel : Nat) (rest : List Char)
    (hfuel : 2 * (renderItems (x :: items)).length < fuel) :
    values fuel (renderItems (x :: items) ++ ']' :: rest) = (ofItems (x :: items), rest) := by
  induction items generalizing x fuel with
  | nil =>
    obtain _ | fuel := fuel
    · omega
    have hx := hread x List.mem_cons_self fuel (']' :: rest) (Nat.le_of_lt_succ hfuel)
      (.cons _ (by decide))
    exact values_last hx (isBroken_ofJson (hplain x List.mem_cons_self))
  | cons y items ih =>
    obtain _ | fuel := fuel
    · omega
    obtain ⟨hx, hplain⟩ := List.forall_mem_cons.1 hplain
    obtain ⟨hxread, hread⟩ := List.forall_mem_cons.1 hread
    simp only [renderItems, List.length_append, List.length_cons] at hfuel
    have hxread := hxread fuel (',' :: (renderItems (y :: items) ++ ']' :: rest)) (by omega)
      (.cons _ (by decide))
    rw [renderItems, List.append_assoc, List.cons_append, values_cons hxread (isBroken_ofJson hx),
      ih hplain hread fuel (by omega)]
    rfl

theorem members_renderMembers {m : String × Json} {ms : List (String × Json)}
    (hplain : ∀ m' ∈ m :: ms, m'.2.Plain) (hread : ∀ m' ∈ m :: ms, ReadsBack m'.2) (fuel : Nat)
    (rest : List Char) (hfuel : 2 * (renderMembers (m :: ms)).length < fuel) :
    members fuel (renderMembers (m :: ms) ++ '}' :: rest) = (ofMembers (m :: ms), rest) := by
  induction ms generalizing m fuel with
  | nil =>
    obtain _ | fuel := fuel
    · omega
    simp only [renderMembers, List.length_append, List.length_cons] at hfuel
    have hm := hread m List.mem_cons_self fuel ('}' :: rest) (by omega) (.cons _ (by decide))
    rw [renderMembers, List.append_assoc, List.cons_append,
      members_last m.1 hm (isBroken_ofJson (hplain m List.mem_cons_self))]
    rfl
  | cons m' ms ih =>
    obtain _ | fuel := fuel
    · omega
    obtain ⟨hm, hplain⟩ := List.forall_mem_cons.1 hplain
    obtain ⟨hmread, hread⟩ := List.forall_mem_cons.1 hread
    simp only [renderMembers, List.length_append, List.length_cons] at hfuel
    have hmread := hmread fuel (',' :: (renderMembers (m' :: ms) ++ '}' :: rest)) (by omega)
      (.cons _ (by decide))
    rw [renderMembers, List.append_assoc, List.cons_append, List.append_assoc, List.cons_append,
      members_cons m.1 hmread (isBroken_ofJson hm), ih hplain hread fuel (by omega)]
    rfl

theorem value_arr {fuel : Nat} {c : Char} {cs : List Char} (hspace : isSpace c = false)
    (hc : c ≠ ']') :
    value (fuel + 1) ('[' :: c :: cs) =
      (.arr (values fuel (c :: cs)).1, (values fuel (c :: cs)).2) := by
  simp [value, skip_cons (c := '[') rfl, skip_cons hspace, hc]

theorem value_obj {fuel : Nat} {cs : List Char} :
    value (fuel + 1) ('{' :: '"' :: cs) =
      (.obj (members fuel ('"' :: cs)).1, (members fuel ('"' :: cs)).2) := by
  simp [value, skip_cons (c := '{') rfl, skip_cons (c := '"') rfl]

theorem renderItems_eq_cons {x : Json} (h : x.Plain) (items : List Json) :
    ∃ c cs, renderItems (x :: items) = c :: cs ∧ isSpace c = false ∧ c ≠ ']' := by
  obtain ⟨c, cs, hcs, hc⟩ := render_eq_cons h
  cases items with
  | nil => exact ⟨c, cs, hcs, hc⟩
  | cons y items => exact ⟨c, cs ++ ',' :: renderItems (y :: items), by simp [renderItems, hcs], hc⟩

theorem renderMembers_eq_cons (m : String × Json) (ms : List (String × Json)) :
    ∃ cs, renderMembers (m :: ms) = '"' :: cs := by
  cases ms <;> exact ⟨_, by simp [renderMembers, quote]; rfl⟩

theorem ReadsBack.of_succ {j : Json} (hplain : j.Plain)
    (h : ∀ fuel rest, 2 * j.render.length ≤ fuel + 1 → EndsNumber rest →
      value (fuel + 1) (j.render ++ rest) = (ofJson j, rest)) : ReadsBack j := by
  intro fuel rest hfuel hrest
  obtain ⟨c, cs, hcs, -⟩ := render_eq_cons hplain
  obtain _ | fuel := fuel
  · simp [hcs] at hfuel
  · exact h fuel rest hfuel hrest

theorem value_render {j : Json} (h : j.Plain) : ReadsBack j := by
  induction h with
  | null =>
    refine .of_succ .null fun fuel rest _ _ => ?_
    simp [value, render, ofJson, skip, isSpace]
  | bool b =>
    refine .of_succ (.bool b) fun fuel rest _ _ => ?_
    cases b <;> simp [value, render, ofJson, skip, isSpace]
  | int h => exact .of_succ (.int h) fun fuel rest _ => value_int h
  | str s =>
    refine .of_succ (.str s) fun fuel rest _ _ => ?_
    obtain ⟨tail, htail, hs⟩ := quoted_quote s rest
    simp [value, render, htail, hs, ofJson, skip, isSpace]
  | @arr items h ih =>
    refine .of_succ (.arr h) fun fuel rest hfuel _ => ?_
    cases items with
    | nil => simp [value, render, renderItems, ofJson, ofItems, skip, isSpace]
    | cons x items =>
      simp only [render, List.length_cons, List.length_append] at hfuel
      have hitems := values_renderItems h ih fuel rest (by omega)
      have hx := h x List.mem_cons_self
      obtain ⟨c, cs, hcs, hspace, hc⟩ := renderItems_eq_cons hx items
      rw [hcs, List.cons_append] at hitems
      rw [render, hcs, List.cons_append, List.append_assoc, List.cons_append, List.singleton_append,
        value_arr hspace hc, hitems]
      rfl
  | @obj ms h ih =>
    refine .of_succ (.obj h) fun fuel rest hfuel _ => ?_
    cases ms with
    | nil => simp [value, render, renderMembers, ofJson, ofMembers, skip, isSpace]
    | cons m ms =>
      simp only [render, List.length_cons, List.length_append] at hfuel
      have hms := members_renderMembers h ih fuel rest (by omega)
      obtain ⟨cs, hcs⟩ := renderMembers_eq_cons m ms
      rw [hcs, List.cons_append] at hms
      rw [render, hcs, List.cons_append, List.append_assoc, List.cons_append, List.singleton_append,
        value_obj, hms]
      rfl

theorem read_render {j : Json} (h : j.Plain) : read j.render = (ofJson j, false) := by
  have hvalue := value_render h (2 * j.render.length + 2) [] (by omega) .nil
  rw [List.append_nil] at hvalue
  simp [read, hvalue, skip]

end Draft

end Depot.Json
