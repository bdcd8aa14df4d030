import Depot.User
import Mathlib.Data.List.Basic
import Mathlib.Data.List.TakeWhile

namespace Depot.Text

/-- No white space at either end. -/
structure Trimmed (cs : List Char) : Prop where
  head : ∀ c ∈ cs.head?, isBlank c = false
  last : ∀ c ∈ cs.getLast?, isBlank c = false

theorem trimStart_eq_self {cs : List Char} (h : ∀ c ∈ cs.head?, isBlank c = false) :
    trimStart cs = cs := by
  cases cs with
  | nil => rfl
  | cons c cs =>
    apply List.dropWhile_cons_of_neg
    simp [h c rfl]

theorem trimEnd_eq_self {cs : List Char} (h : ∀ c ∈ cs.getLast?, isBlank c = false) :
    trimEnd cs = cs := by
  rw [trimEnd, trimStart_eq_self, List.reverse_reverse]
  rwa [List.head?_reverse]

theorem trim_eq_self {s : String} (h : Trimmed s.toList) : trim s = s := by
  rw [trim, trimStart_eq_self h.head, trimEnd_eq_self h.last, String.ofList_toList]

theorem head_trimStart (cs : List Char) : ∀ c ∈ (trimStart cs).head?, isBlank c = false := by
  intro c hc
  have h := List.head?_dropWhile_not isBlank cs
  rw [trimStart, Option.mem_def] at hc
  rw [hc] at h
  exact h

theorem exists_trimEnd_append (cs : List Char) : ∃ rest, trimEnd cs ++ rest = cs := by
  obtain ⟨start, h⟩ := List.dropWhile_suffix (p := isBlank) (l := cs.reverse)
  refine ⟨start.reverse, ?_⟩
  rw [trimEnd, trimStart, ← List.reverse_append, h, List.reverse_reverse]

theorem trimmed_trim (s : String) : Trimmed (trim s).toList := by
  rw [trim, String.toList_ofList]
  constructor
  · -- what is taken off the end leaves the head where it is
    intro c hc
    obtain ⟨rest, h⟩ := exists_trimEnd_append (trimStart s.toList)
    apply head_trimStart s.toList
    rw [Option.mem_def] at hc
    rw [← h, List.head?_append, hc]
    rfl
  · intro c hc
    rw [trimEnd, List.getLast?_reverse] at hc
    exact head_trimStart _ c hc

theorem trim_trim (s : String) : trim (trim s) = trim s := trim_eq_self (trimmed_trim s)

theorem trimStart_append_of_blank {before : List Char} (h : before.all isBlank) (cs : List Char) :
    trimStart (before ++ cs) = trimStart cs :=
  List.dropWhile_append_of_pos (List.all_eq_true.1 h)

theorem trimEnd_append_of_blank {after : List Char} (h : after.all isBlank) (cs : List Char) :
    trimEnd (cs ++ after) = trimEnd cs := by
  rw [trimEnd, List.reverse_append, trimStart_append_of_blank (by rwa [List.all_reverse]), trimEnd]

theorem trim_surrounded {before after : String} (hbefore : isBlankText before)
    (hafter : isBlankText after) (s : String) : trim (before ++ s ++ after) = trim s := by
  have hstart : trimStart (before ++ s ++ after).toList = trimStart (s.toList ++ after.toList) := by
    rw [String.toList_append, String.toList_append, List.append_assoc,
      trimStart_append_of_blank hbefore]
  have hend : trimEnd (trimStart (s.toList ++ after.toList)) = trimEnd (trimStart s.toList) := by
    rw [trimStart, List.dropWhile_append]
    split
    · -- the text is white space too, and trimming its start goes on into what comes after it
      next hs =>
      rw [List.dropWhile_eq_nil_iff.2 (List.all_eq_true.1 hafter), trimStart, List.isEmpty_iff.1 hs]
    · exact trimEnd_append_of_blank hafter _
  rw [trim, hstart, hend, trim]

theorem Trimmed.isBlankText_iff {s : String} (h : Trimmed s.toList) : isBlankText s ↔ s = "" := by
  constructor
  · intro hblank
    rw [← String.toList_eq_nil_iff]
    cases hcs : s.toList with
    | nil => rfl
    | cons c cs =>
      rw [isBlankText, hcs, List.all_cons, Bool.and_eq_true] at hblank
      have hc := h.head c (by rw [hcs]; rfl)
      rw [hblank.1] at hc
      cases hc
  · rintro rfl
    rfl

theorem trim_eq_empty_iff {s : String} : trim s = "" ↔ isBlankText s := by
  have hstart : trimStart s.toList = [] ↔ isBlankText s := by
    rw [trimStart, List.dropWhile_eq_nil_iff, isBlankText, List.all_eq_true]
  rw [← hstart, ← String.toList_eq_nil_iff, trim, String.toList_ofList, trimEnd,
    List.reverse_eq_nil_iff]
  constructor
  · intro hend
    by_contra hne
    obtain ⟨c, cs, hcs⟩ := List.exists_cons_of_ne_nil hne
    have hc : isBlank c = false := head_trimStart s.toList c (by rw [hcs]; rfl)
    rw [trimStart, List.dropWhile_eq_nil_iff, hcs] at hend
    rw [hend c (by simp)] at hc
    cases hc
  · intro h
    rw [h]
    rfl

theorem isBlankText_trim (s : String) : isBlankText (trim s) ↔ isBlankText s := by
  rw [(trimmed_trim s).isBlankText_iff, trim_eq_empty_iff]

theorem nonBlank?_of_not_blank {text : String} (h : ¬ isBlankText text) :
    nonBlank? (some text) = some text := by
  rw [nonBlank?, Option.filter_some, if_pos]
  simpa using h

theorem not_blank_of_nonBlank? {text : Option String} {given : String}
    (h : nonBlank? text = some given) : ¬ isBlankText given := by
  obtain ⟨-, hgiven⟩ := Option.filter_eq_some_iff.1 h
  simpa using hgiven

def CaseRun.lowered (r : CaseRun) : CaseRun :=
  ⟨(r.first + r.shift).toNat, (r.last + r.shift).toNat, r.step, 0⟩

/-- Nothing lies in both runs. Where they reach into each other, it is because capital and small letters
take turns. -/
def CaseRun.apart (r r' : CaseRun) : Bool :=
  r.last < r'.first || r'.last < r.first ||
    (r'.step == 2 && (r.step == 2 || r.first == r.last) && (r.first + r'.first) % 2 == 1)

def CaseRun.isValid (r : CaseRun) : Bool :=
  0 ≤ r.first + r.shift && r.last + r.shift < 0xD800 ||
    0xDFFF < r.first + r.shift && r.last + r.shift < 0x110000

def blankRuns : List CaseRun :=
  [⟨9, 13, 1, 0⟩, ⟨0x20, 0x20, 1, 0⟩, ⟨0x85, 0x85, 1, 0⟩, ⟨0xA0, 0xA0, 1, 0⟩, ⟨0x1680, 0x1680, 1, 0⟩,
    ⟨0x2000, 0x200A, 1, 0⟩, ⟨0x2028, 0x2029, 1, 0⟩, ⟨0x202F, 0x202F, 1, 0⟩, ⟨0x205F, 0x205F, 1, 0⟩,
    ⟨0x3000, 0x3000, 1, 0⟩]

def dottedRun : CaseRun := ⟨0x130, 0x130, 1, 0⟩

theorem contains_of_isBlank {c : Char} (h : isBlank c = true) :
    ∃ r ∈ blankRuns, r.contains c.toNat := by
  simp only [isBlank, Bool.or_eq_true, Bool.and_eq_true, decide_eq_true_eq, beq_iff_eq] at h
  simp only [blankRuns, List.mem_cons, List.not_mem_nil, or_false, exists_eq_or_imp, exists_eq_left,
    CaseRun.contains, Nat.mod_one, Bool.and_eq_true, decide_eq_true_eq, beq_self_eq_true, and_true]
  omega

theorem caseRuns_apart :
    caseRuns.all (fun r => (caseRuns ++ dottedRun :: blankRuns).all r.lowered.apart) = true := by
  decide +kernel

theorem caseRuns_valid : ∀ r ∈ caseRuns, r.isValid = true := by
  decide +kernel

theorem CaseRun.not_contains_of_apart {r r' : CaseRun} (h : r.apart r' = true) {n : Nat}
    (hn : r.contains n = true) : r'.contains n = false := by
  simp only [contains, Bool.and_eq_true, decide_eq_true_eq, beq_iff_eq] at hn
  simp only [apart, Bool.or_eq_true, Bool.and_eq_true, decide_eq_true_eq, beq_iff_eq] at h
  rw [← Bool.not_eq_true]
  simp only [contains, Bool.and_eq_true, decide_eq_true_eq, beq_iff_eq]
  rintro ⟨⟨hfirst, hlast⟩, hstep⟩
  obtain (h | h) | ⟨⟨hstep', hr⟩, hodd⟩ := h
  · omega
  · omega
  · rw [hstep'] at hstep
    obtain hr | hr := hr
    · rw [hr] at hn
      omega
    · omega

theorem CaseRun.contains_lowered {r : CaseRun} (h : r.isValid = true) {n : Nat}
    (hn : r.contains n = true) : r.lowered.contains (n + r.shift).toNat = true := by
  simp only [contains, Bool.and_eq_true, decide_eq_true_eq, beq_iff_eq] at hn
  simp only [isValid, Bool.or_eq_true, Bool.and_eq_true, decide_eq_true_eq] at h
  have hoffset : (n + r.shift).toNat - (r.first + r.shift).toNat = n - r.first := by omega
  have hfirst : (r.first + r.shift).toNat ≤ (n + r.shift).toNat := by omega
  have hlast : (n + r.shift).toNat ≤ (r.last + r.shift).toNat := by omega
  simp [contains, lowered, hoffset, hfirst, hlast, hn.2]

theorem CaseRun.toNat_lowered {r : CaseRun} (h : r.isValid = true) {n : Nat}
    (hn : r.contains n = true) :
    (Char.ofNat (n + r.shift).toNat).toNat = (n + r.shift).toNat := by
  simp only [contains, Bool.and_eq_true, decide_eq_true_eq, beq_iff_eq] at hn
  simp only [isValid, Bool.or_eq_true, Bool.and_eq_true, decide_eq_true_eq] at h
  have hvalid : (n + r.shift).toNat.isValidChar := by
    unfold Nat.isValidChar
    omega
  rw [Char.ofNat, dif_pos hvalid]
  rfl

def Lowered (c : Char) : Prop := c ≠ 'Σ' ∧ lowerChar c = [c]

theorem lowered_of_not_contains {c : Char} (hdot : dottedRun.contains c.toNat = false)
    (h : ∀ r ∈ caseRuns, r.contains c.toNat = false) : Lowered c := by
  have hnone : caseRuns.find? (·.contains c.toNat) = none := by
    rw [List.find?_eq_none]
    intro r hr
    rw [h r hr]
    exact Bool.false_ne_true
  refine ⟨?_, ?_⟩
  · rintro rfl
    revert hnone
    decide
  · have hc : c.toNat ≠ 0x130 := by
      intro hc
      rw [hc] at hdot
      cases hdot
    rw [lowerChar, if_neg hc, hnone]

/-- What a letter is lowered to is no white space, unless the letter is, and lowering leaves it as it
is. -/
theorem lowered_of_mem_lowerChar {c d : Char} (hc : c ≠ 'Σ') (hd : d ∈ lowerChar c) :
    Lowered d ∧ (isBlank c = false → isBlank d = false) := by
  by_cases hdot : c.toNat = 0x130
  · rw [lowerChar, if_pos hdot] at hd
    obtain rfl | rfl : d = 'i' ∨ d = Char.ofNat 0x307 := by simpa using hd
    all_goals exact ⟨⟨by decide, by decide⟩, fun _ => by decide⟩
  · cases hrun : caseRuns.find? (·.contains c.toNat) with
    | none =>
      have hlower : lowerChar c = [c] := by rw [lowerChar, if_neg hdot, hrun]
      rw [hlower, List.mem_singleton] at hd
      rw [hd]
      exact ⟨⟨hc, hlower⟩, id⟩
    | some r =>
      have hr := List.mem_of_find?_eq_some hrun
      have hcontains : r.contains c.toNat = true := by simpa using List.find?_some hrun
      have hvalid := caseRuns_valid r hr
      rw [lowerChar, if_neg hdot, hrun, List.mem_singleton] at hd
      have hout : ∀ r' ∈ caseRuns ++ dottedRun :: blankRuns, r'.contains d.toNat = false := by
        intro r' hr'
        have hapart := List.all_eq_true.1 (List.all_eq_true.1 caseRuns_apart r hr) r' hr'
        rw [hd, CaseRun.toNat_lowered hvalid hcontains]
        exact CaseRun.not_contains_of_apart hapart (CaseRun.contains_lowered hvalid hcontains)
      refine ⟨lowered_of_not_contains (hout _ (by simp)) fun r' hr' => ?_, fun _ => ?_⟩
      · exact hout r' (List.mem_append_left _ hr')
      · rw [← Bool.not_eq_true]
        intro hblank
        obtain ⟨r', hr', h⟩ := contains_of_isBlank hblank
        have hr'' : r' ∈ caseRuns ++ dottedRun :: blankRuns := by simp [hr']
        rw [hout r' hr''] at h
        cases h

theorem lowered_lowerSigma (before rest : List Char) :
    Lowered (lowerSigma before rest) ∧ isBlank (lowerSigma before rest) = false := by
  have hsmall : Lowered 'σ' := ⟨by decide, by decide⟩
  have hfinal : Lowered 'ς' := ⟨by decide, by decide⟩
  unfold lowerSigma
  split
  · exact ⟨hfinal, by decide⟩
  · exact ⟨hsmall, by decide⟩

def lowerAt (before : List Char) (c : Char) (rest : List Char) : List Char :=
  if c = 'Σ' then [lowerSigma before rest] else lowerChar c

theorem lowerFrom_cons (before : List Char) (c : Char) (rest : List Char) :
    lowerFrom before (c :: rest) = lowerAt before c rest ++ lowerFrom (c :: before) rest := rfl

theorem lowerAt_ne_nil (before : List Char) (c : Char) (rest : List Char) :
    lowerAt before c rest ≠ [] := by
  unfold lowerAt lowerChar
  repeat' split
  all_goals exact List.cons_ne_nil _ _

theorem lowered_of_mem_lowerAt {before rest : List Char} {c d : Char}
    (hd : d ∈ lowerAt before c rest) : Lowered d ∧ (isBlank c = false → isBlank d = false) := by
  by_cases hc : c = 'Σ'
  · rw [lowerAt, if_pos hc, List.mem_singleton] at hd
    rw [hd]
    have h := lowered_lowerSigma before rest
    exact ⟨h.1, fun _ => h.2⟩
  · rw [lowerAt, if_neg hc] at hd
    exact lowered_of_mem_lowerChar hc hd

theorem lowered_of_mem_lowerFrom {before cs : List Char} :
    ∀ d ∈ lowerFrom before cs, Lowered d := by
  induction cs generalizing before with
  | nil => exact fun d hd => absurd hd List.not_mem_nil
  | cons c cs ih =>
    intro d hd
    rw [lowerFrom_cons] at hd
    obtain hd | hd := List.mem_append.1 hd
    · exact (lowered_of_mem_lowerAt hd).1
    · exact ih d hd

theorem lowerFrom_eq_self {before cs : List Char} (h : ∀ c ∈ cs, Lowered c) :
    lowerFrom before cs = cs := by
  induction cs generalizing before with
  | nil => rfl
  | cons c cs ih =>
    obtain ⟨⟨hsigma, hlower⟩, hcs⟩ := List.forall_mem_cons.1 h
    rw [lowerFrom_cons, lowerAt, if_neg hsigma, hlower, ih hcs]
    rfl

theorem lower_lower (s : String) : lower (lower s) = lower s := by
  unfold lower
  rw [String.toList_ofList, lowerFrom_eq_self lowered_of_mem_lowerFrom]

theorem head_lowerFrom {before cs : List Char} (h : ∀ c ∈ cs.head?, isBlank c = false) :
    ∀ d ∈ (lowerFrom before cs).head?, isBlank d = false := by
  cases cs with
  | nil => exact fun d hd => absurd hd (Option.not_mem_none d)
  | cons c cs =>
    intro d hd
    obtain ⟨x, xs, hx⟩ := List.exists_cons_of_ne_nil (lowerAt_ne_nil before c cs)
    rw [lowerFrom_cons, hx] at hd
    obtain rfl : x = d := by simpa using hd
    have hmem : x ∈ lowerAt before c cs := by simp [hx]
    exact (lowered_of_mem_lowerAt hmem).2 (h c rfl)

theorem last_lowerFrom {before cs : List Char} (h : ∀ c ∈ cs.getLast?, isBlank c = false) :
    ∀ d ∈ (lowerFrom before cs).getLast?, isBlank d = false := by
  induction cs generalizing before with
  | nil => exact fun d hd => absurd hd (Option.not_mem_none d)
  | cons c cs ih =>
    intro d hd
    rw [lowerFrom_cons] at hd
    cases cs with
    | nil =>
      rw [lowerFrom, List.append_nil] at hd
      exact (lowered_of_mem_lowerAt (List.mem_of_getLast? hd)).2 (h c rfl)
    | cons c' cs =>
      have hne : lowerFrom (c :: before) (c' :: cs) ≠ [] := by
        rw [lowerFrom_cons]
        exact List.append_ne_nil_of_left_ne_nil (lowerAt_ne_nil _ _ _) _
      rw [List.getLast?_append_of_ne_nil _ hne] at hd
      refine ih (fun x hx => h x ?_) d hd
      rwa [List.getLast?_cons_cons]

theorem lower_eq_empty_iff {s : String} : lower s = "" ↔ s = "" := by
  rw [← String.toList_eq_nil_iff, ← String.toList_eq_nil_iff, lower, String.toList_ofList]
  cases s.toList with
  | nil => exact Iff.rfl
  | cons c cs =>
    rw [lowerFrom_cons, List.append_eq_nil_iff]
    exact ⟨fun h => absurd h.1 (lowerAt_ne_nil _ _ _), nofun⟩

theorem Trimmed.lower {s : String} (h : Trimmed s.toList) : Trimmed (lower s).toList := by
  rw [Text.lower, String.toList_ofList]
  exact ⟨head_lowerFrom h.head, last_lowerFrom h.last⟩

end Depot.Text

namespace Depot

theorem trimmed_normalizeEmail (email : String) : Text.Trimmed (normalizeEmail email).toList :=
  (Text.trimmed_trim email).lower

theorem lower_normalizeEmail (email : String) :
    Text.lower (normalizeEmail email) = normalizeEmail email :=
  Text.lower_lower (Text.trim email)

theorem normalizeEmail_eq_self_iff {email : String} :
    normalizeEmail email = email ↔ Text.Trimmed email.toList ∧ Text.lower email = email := by
  constructor
  · intro h
    have htrimmed := trimmed_normalizeEmail email
    have hlower := lower_normalizeEmail email
    rw [h] at htrimmed hlower
    exact ⟨htrimmed, hlower⟩
  · rintro ⟨htrimmed, hlower⟩
    rw [normalizeEmail, Text.trim_eq_self htrimmed, hlower]

theorem normalizeEmail_normalizeEmail (email : String) :
    normalizeEmail (normalizeEmail email) = normalizeEmail email :=
  normalizeEmail_eq_self_iff.2 ⟨trimmed_normalizeEmail email, lower_normalizeEmail email⟩

theorem normalizeEmail_eq_empty_iff {email : String} :
    normalizeEmail email = "" ↔ Text.isBlankText email := by
  rw [normalizeEmail, Text.lower_eq_empty_iff, Text.trim_eq_empty_iff]

/-- The canonical form of an address is also that of itself and that of the address with white space around
it. It has no white space at either end and lowering leaves it as it is, and an address of which this holds
is canonical already. -/
theorem normalizeEmail_is_canonical (email : String) :
    normalizeEmail (normalizeEmail email) = normalizeEmail email ∧
      (∀ before after, Text.isBlankText before → Text.isBlankText after →
        normalizeEmail (before ++ email ++ after) = normalizeEmail email) ∧
      Text.Trimmed (normalizeEmail email).toList ∧
      Text.lower (normalizeEmail email) = normalizeEmail email ∧
      (normalizeEmail email = email ↔ Text.Trimmed email.toList ∧ Text.lower email = email) := by
  refine ⟨normalizeEmail_normalizeEmail email, fun before after hbefore hafter => ?_,
    trimmed_normalizeEmail email, lower_normalizeEmail email, normalizeEmail_eq_self_iff⟩
  rw [normalizeEmail, Text.trim_surrounded hbefore hafter, normalizeEmail]

/-- The capital I with a dot becomes two characters, and the sigma before the sign ends a word. -/
theorem dotted_capital_and_last_sigma_are_lowered_once :
    Text.isBlankText "\u2003" ∧ Text.isBlankText "\n" ∧
      normalizeEmail ("\u2003" ++ "\u0130Σ@X.org" ++ "\n") = "i\u0307ς@x.org" ∧
      normalizeEmail "i\u0307ς@x.org" = "i\u0307ς@x.org" ∧
      Text.Trimmed "i\u0307ς@x.org".toList ∧ Text.lower "i\u0307ς@x.org" = "i\u0307ς@x.org" := by
  obtain ⟨hagain, hsurrounded, htrimmed, hlower, -⟩ := normalizeEmail_is_canonical "\u0130Σ@X.org"
  have hform : normalizeEmail "\u0130Σ@X.org" = "i\u0307ς@x.org" := by decide +kernel
  have hbefore : Text.isBlankText "\u2003" := by decide +kernel
  have hafter : Text.isBlankText "\n" := by decide +kernel
  rw [hform] at hagain htrimmed hlower
  exact ⟨hbefore, hafter, (hsurrounded _ _ hbefore hafter).trans hform, hagain, htrimmed, hlower⟩

end Depot
