import Depot.Proofs.Canonical
import Depot.Text.EmailAddress

namespace Depot.Text

def hasHostName (s : String) : Bool :=
  isEmailAddress s && (splitAddress? s.toList).any fun x => isDomainName x.2

def isAddressChar (c : Char) : Bool := isLocalChar c || c == '@'

def small (c : Char) : Char := (lowerChar c).headD c

/-- The character is lowered alone and stays of its sort. -/
structure StaysInSort (c : Char) : Prop where
  sigma : c ≠ 'Σ'
  lower : lowerChar c = [small c]
  localPart : isLocalChar (small c) = isLocalChar c
  alphanumeric : isAlphanumeric (small c) = isAlphanumeric c
  dot : (small c == '.') = (c == '.')
  blank : isAddressChar c → isBlank c = false

instance (c : Char) : Decidable (StaysInSort c) :=
  decidable_of_iff
    (c ≠ 'Σ' ∧ lowerChar c = [small c] ∧ isLocalChar (small c) = isLocalChar c ∧
      isAlphanumeric (small c) = isAlphanumeric c ∧
      (small c == '.') = (c == '.') ∧ (isAddressChar c → isBlank c = false))
    ⟨fun ⟨h₁, h₂, h₃, h₄, h₅, h₆⟩ => ⟨h₁, h₂, h₃, h₄, h₅, h₆⟩,
      fun ⟨h₁, h₂, h₃, h₄, h₅, h₆⟩ => ⟨h₁, h₂, h₃, h₄, h₅, h₆⟩⟩

theorem toNat_of_isAddressChar {c : Char} (h : isAddressChar c) :
    c.toNat < 128 ∨ c.toNat = 0x17F ∨ c.toNat = 0x212A := by
  have hrange {first last : Char} (hlast : last.toNat < 128) (h : first ≤ c ∧ c ≤ last) :
      c.toNat < 128 := Nat.lt_of_le_of_lt (Char.le_def.1 h.2) hlast
  have hothers : ∀ d ∈ ".!#$%&'*+/=?^_`\x7b|\x7d~-".toList, d.toNat < 128 := by simp
  simp only [isAddressChar, isLocalChar, isAlphanumeric, isFoldedLetter, isDigit, Bool.or_eq_true,
    Bool.and_eq_true, decide_eq_true_eq, beq_iff_eq, List.contains_iff_mem] at h
  obtain (((((hsmall | hcapital) | hs) | hk) | hdigit) | hother) | rfl := h
  · exact .inl (hrange (by decide) hsmall)
  · exact .inl (hrange (by decide) hcapital)
  · exact .inr (.inl hs)
  · exact .inr (.inr hk)
  · exact .inl (hrange (by decide) hdigit)
  · exact .inl (hothers c hother)
  · exact .inl (by decide)

theorem staysInSort_ascii : ∀ n < 128, StaysInSort (Char.ofNat n) := by decide +kernel

theorem staysInSort {c : Char} (h : isAddressChar c) : StaysInSort c := by
  have hc : Char.ofNat c.toNat = c := Char.ofNat_toNat c
  obtain hascii | hs | hk := toNat_of_isAddressChar h
  · rw [← hc]
    exact staysInSort_ascii c.toNat hascii
  · rw [← hc, hs]
    decide +kernel
  · rw [← hc, hk]
    decide +kernel

theorem lowerFrom_eq_map {before cs : List Char} (h : ∀ c ∈ cs, isAddressChar c) :
    lowerFrom before cs = cs.map small := by
  induction cs generalizing before with
  | nil => rfl
  | cons c cs ih =>
    obtain ⟨hc, hcs⟩ := List.forall_mem_cons.1 h
    have hsort := staysInSort hc
    rw [lowerFrom_cons, lowerAt, if_neg hsort.sigma, hsort.lower, ih hcs]
    rfl

theorem normalizeEmail_eq {s : String} (h : ∀ c ∈ s.toList, isAddressChar c) :
    normalizeEmail s = String.ofList (s.toList.map small) := by
  have htrimmed : Trimmed s.toList :=
    ⟨fun c hc => (staysInSort (h c (List.mem_of_head? hc))).blank (h c (List.mem_of_head? hc)),
      fun c hc => (staysInSort (h c (List.mem_of_getLast? hc))).blank (h c (List.mem_of_getLast? hc))⟩
  rw [normalizeEmail, trim_eq_self htrimmed, lower, lowerFrom_eq_map h]

theorem splitAddress?_append {user domain : List Char} (h : '@' ∉ domain) :
    splitAddress? (user ++ '@' :: domain) = some (user, domain) := by
  have hmem : (user ++ '@' :: domain).contains '@' = true := by simp
  have hnot : ∀ c ∈ domain.reverse, (c != '@') = true := by
    intro c hc
    have hc : c ≠ '@' := fun he => h (he ▸ List.mem_reverse.1 hc)
    simpa using hc
  have hreverse : (user ++ '@' :: domain).reverse = domain.reverse ++ '@' :: user.reverse := by simp
  simp only [splitAddress?, if_pos hmem, hreverse, List.dropWhile_append_of_pos hnot,
    List.takeWhile_append_of_pos hnot]
  simp

theorem splitAddress?_eq_some {cs user domain : List Char}
    (h : splitAddress? cs = some (user, domain)) : cs = user ++ '@' :: domain ∧ '@' ∉ domain := by
  by_cases hmem : '@' ∈ cs.reverse
  · obtain ⟨last, first, hcs, hlast⟩ := List.eq_append_cons_of_mem hmem
    obtain rfl : cs = first.reverse ++ '@' :: last.reverse := by
      rw [← List.reverse_reverse cs, hcs]
      simp
    have hlast : '@' ∉ last.reverse := fun hmem => hlast (List.mem_reverse.1 hmem)
    rw [splitAddress?_append hlast] at h
    cases h
    exact ⟨rfl, hlast⟩
  · have hcontains : ¬ cs.contains '@' = true := by simpa using hmem
    rw [splitAddress?, if_neg hcontains] at h
    cases h

theorem pieces_map {e : Char → Bool} {f : Char → Char} {cs : List Char}
    (h : ∀ c ∈ cs, e (f c) = e c) :
    pieces e (cs.map f) = (pieces e cs).map (List.map f) := by
  induction cs with
  | nil => rfl
  | cons c cs ih =>
    obtain ⟨hc, hcs⟩ := List.forall_mem_cons.1 h
    rw [List.map_cons, pieces, pieces, hc, ih hcs]
    split
    · rfl
    · cases pieces e cs <;> rfl

theorem mem_pieces {e : Char → Bool} {cs : List Char} {c : Char} (h : c ∈ cs) :
    e c ∨ ∃ p ∈ pieces e cs, c ∈ p := by
  induction cs with
  | nil => exact absurd h List.not_mem_nil
  | cons d cs ih =>
    rw [pieces]
    split
    · rename_i hd
      obtain rfl | hc := List.mem_cons.1 h
      · exact .inl hd
      · obtain hends | ⟨p, hp, hc⟩ := ih hc
        · exact .inl hends
        · exact .inr ⟨p, List.mem_cons_of_mem _ hp, hc⟩
    · obtain ⟨p, ps, hps⟩ := List.exists_cons_of_ne_nil (pieces_ne_nil e cs)
      rw [hps] at ih ⊢
      obtain rfl | hc := List.mem_cons.1 h
      · exact .inr ⟨c :: p, List.mem_cons_self, List.mem_cons_self⟩
      · obtain hends | ⟨q, hq, hc⟩ := ih hc
        · exact .inl hends
        · obtain rfl | hq := List.mem_cons.1 hq
          · exact .inr ⟨d :: q, List.mem_cons_self, List.mem_cons_of_mem _ hc⟩
          · exact .inr ⟨q, List.mem_cons_of_mem _ hq, hc⟩

theorem isLabel_iff {cs : List Char} :
    isLabel cs ↔ ∃ first last, cs.head? = some first ∧ cs.getLast? = some last ∧ cs.length ≤ 63 ∧
      isAlphanumeric first ∧ isAlphanumeric last ∧ ∀ c ∈ cs, isAlphanumeric c ∨ c = '-' := by
  cases cs with
  | nil => exact iff_of_false (by decide) fun ⟨_, _, h, _⟩ => by cases h
  | cons c cs =>
    simp [isLabel, List.getLast?_cons, and_assoc]

theorem isLocalChar_of_isLabel {cs : List Char} (h : isLabel cs) : ∀ c ∈ cs, isLocalChar c := by
  obtain ⟨-, -, -, -, -, -, -, hall⟩ := isLabel_iff.1 h
  intro c hc
  obtain halphanumeric | rfl := hall c hc
  · simp [isLocalChar, halphanumeric]
  · decide

theorem isLocalChar_of_isDomainName {cs : List Char} (h : isDomainName cs) :
    ∀ c ∈ cs, isLocalChar c := by
  intro c hc
  obtain hdot | ⟨p, hp, hc⟩ := mem_pieces (e := (· == '.')) hc
  · rw [beq_iff_eq.1 hdot]
    decide
  · exact isLocalChar_of_isLabel (List.all_eq_true.1 h p hp) c hc

theorem isAddressChar_of_isLocalChar {c : Char} (h : isLocalChar c) : isAddressChar c := by
  simp [isAddressChar, h]

theorem isLabel_map_small {cs : List Char} (h : isLabel cs) : isLabel (cs.map small) := by
  have halphanumeric {c : Char} (hc : c ∈ cs) (hc' : isAlphanumeric c) : isAlphanumeric (small c) := by
    rw [(staysInSort (isAddressChar_of_isLocalChar (isLocalChar_of_isLabel h c hc))).alphanumeric]
    exact hc'
  obtain ⟨first, last, hfirst, hlast, hlength, hf, hl, hall⟩ := isLabel_iff.1 h
  refine isLabel_iff.2 ⟨small first, small last, by simp [hfirst], by simp [hlast], by simpa,
    halphanumeric (List.mem_of_head? hfirst) hf, halphanumeric (List.mem_of_getLast? hlast) hl, ?_⟩
  intro d hd
  obtain ⟨c, hc, rfl⟩ := List.mem_map.1 hd
  obtain hc' | rfl := hall c hc
  · exact .inl (halphanumeric hc hc')
  · exact .inr rfl

theorem isDomainName_map_small {cs : List Char} (h : isDomainName cs) :
    isDomainName (cs.map small) := by
  have hdots : ∀ c ∈ cs, (small c == '.') = (c == '.') := fun c hc =>
    (staysInSort (isAddressChar_of_isLocalChar (isLocalChar_of_isDomainName h c hc))).dot
  rw [isDomainName, pieces_map (e := (· == '.')) hdots, List.all_map]
  exact List.all_eq_true.2 fun p hp => isLabel_map_small (List.all_eq_true.1 h p hp)

theorem hasHostName_iff {s : String} :
    hasHostName s ↔ ∃ user domain, s.toList = user ++ '@' :: domain ∧ user.length ≤ 64 ∧
      domain.length ≤ 255 ∧ user ≠ [] ∧ (∀ c ∈ user, isLocalChar c) ∧ isDomainName domain := by
  have hsign : isLocalChar '@' = false := by decide
  constructor
  · intro h
    rw [hasHostName, Bool.and_eq_true] at h
    obtain ⟨haddress, hname⟩ := h
    unfold isEmailAddress at haddress
    cases hsplit : splitAddress? s.toList with
    | none => simp [hsplit] at hname
    | some x =>
      obtain ⟨user, domain⟩ := x
      simp only [hsplit, Bool.and_eq_true, decide_eq_true_eq, Bool.not_eq_true',
        List.isEmpty_eq_false_iff, List.all_eq_true] at haddress
      obtain ⟨⟨⟨⟨huser, hdomain⟩, hempty⟩, hlocal⟩, -⟩ := haddress
      rw [hsplit, Option.any_some] at hname
      exact ⟨user, domain, (splitAddress?_eq_some hsplit).1, huser, hdomain, hempty, hlocal, hname⟩
  · rintro ⟨user, domain, hs, huser, hdomain, hempty, hlocal, hname⟩
    have hmem : '@' ∉ domain := by
      intro h
      have := isLocalChar_of_isDomainName hname '@' h
      simp [hsign] at this
    have hsplit : splitAddress? s.toList = some (user, domain) := by
      rw [hs, splitAddress?_append hmem]
    have hlocal : user.all isLocalChar := List.all_eq_true.2 hlocal
    simp [hasHostName, isEmailAddress, hsplit, huser, hdomain, hempty, hlocal, hname, isMailDomain]

theorem hasHostName_normalizeEmail {s : String} (h : hasHostName s) :
    hasHostName (normalizeEmail s) := by
  obtain ⟨user, domain, hs, huser, hdomain, hempty, hlocal, hname⟩ := hasHostName_iff.1 h
  have hchars : ∀ c ∈ s.toList, isAddressChar c := by
    intro c hc
    rw [hs] at hc
    obtain hc | hc := List.mem_append.1 hc
    · exact isAddressChar_of_isLocalChar (hlocal c hc)
    obtain rfl | hc := List.mem_cons.1 hc
    · decide
    · exact isAddressChar_of_isLocalChar (isLocalChar_of_isDomainName hname c hc)
  have hsmall : small '@' = '@' := by decide +kernel
  refine hasHostName_iff.2 ⟨user.map small, domain.map small, ?_, by simpa, by simpa, by simpa, ?_,
    isDomainName_map_small hname⟩
  · rw [normalizeEmail_eq hchars, String.toList_ofList, hs, List.map_append, List.map_cons, hsmall]
  · intro d hd
    obtain ⟨c, hc, rfl⟩ := List.mem_map.1 hd
    rw [(staysInSort (isAddressChar_of_isLocalChar (hlocal c hc))).localPart]
    exact hlocal c hc

theorem isEmailAddress_of_hasHostName {s : String} (h : hasHostName s) : isEmailAddress s :=
  (Bool.and_eq_true_iff.1 h).1

end Depot.Text
