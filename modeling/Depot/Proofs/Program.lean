import Depot.Program

namespace Depot.Program

open Store

variable {α β σ : Type} {handle : Handler σ}

@[simp] theorem pure_eq (a : α) : (pure a : Program α) = .done a := rfl

@[simp] theorem bind_eq (p : Program α) (f : α → Program β) : p >>= f = p.bind f := rfl

@[simp] theorem map_eq (f : α → β) (p : Program α) : f <$> p = p.bind fun a => .done (f a) := rfl

@[simp] theorem throw_eq (e : Error) : (throw e : Program α) = .fail e := rfl

@[simp] theorem lift_eq (r : Except Error α) : (liftM r : Program α) = ofExcept r := rfl

@[simp] theorem done_bind (a : α) (f : α → Program β) : (done a).bind f = f a := rfl

@[simp] theorem fail_bind (e : Error) (f : α → Program β) :
    (fail e : Program α).bind f = .fail e := rfl

@[simp] theorem ask_bind (c : Call) (next : Except Error c.Answer → Program α)
    (f : α → Program β) : (ask c next).bind f = .ask c fun r => (next r).bind f := rfl

@[simp] theorem ofExcept_ok (a : α) : ofExcept (.ok a) = .done a := rfl

@[simp] theorem ofExcept_error (e : Error) : ofExcept (.error e : Except Error α) = .fail e := rfl

@[simp] theorem run_done (a : α) (s : σ) : (done a).run handle s = (.ok a, s) := rfl

@[simp] theorem run_fail (e : Error) (s : σ) :
    (fail e : Program α).run handle s = (.error e, s) := rfl

@[simp] theorem run_ask (c : Call) (next : Except Error c.Answer → Program α) (s : σ) :
    (ask c next).run handle s = (next (handle c s).1).run handle (handle c s).2 := rfl

@[simp] theorem run_ofExcept (r : Except Error α) (s : σ) :
    (ofExcept r).run handle s = (r, s) := by
  cases r <;> rfl

@[simp] theorem run_call (c : Call) (s : σ) : (call c).run handle s = handle c s := by
  simp [call]

theorem run_bind (p : Program α) (f : α → Program β) (s : σ) :
    (p.bind f).run handle s =
      match p.run handle s with
      | (.ok a, s') => (f a).run handle s'
      | (.error e, s') => (.error e, s') := by
  induction p generalizing s with
  | done a => rfl
  | fail e => rfl
  | ask c next ih => exact ih _ _

theorem run_guarded (p : Program α) (visible : α → Except Error β) (s : σ) :
    ((p.bind fun a => ofExcept (visible a)).run handle s).1 = (p.run handle s).1.bind visible := by
  rw [run_bind]
  cases p.run handle s with
  | mk r s' => cases r <;> simp [Except.bind]

theorem run_guarded_of_eq {p : Program α} {r : Except Error α} {s : σ}
    (visible : α → Except Error β) (h : p.run handle s = (r, s)) :
    (p.bind fun a => ofExcept (visible a)).run handle s = (r.bind visible, s) := by
  rw [run_bind, h]
  cases r <;> simp [Except.bind]

theorem run_guarded_call {c : Call} {visible : c.Answer → Except Error β} {s : σ} {a : c.Answer} {b : β}
    (h : handle c s = (.ok a, s)) (hvisible : visible a = .ok b) :
    ((call c).bind fun a => ofExcept (visible a)).run handle s = (.ok b, s) := by
  rw [run_guarded_of_eq visible ((run_call c s).trans h)]
  exact congrArg (·, s) hvisible

theorem run_map_eq_ok {p : Program α} {f : α → β} {s : σ} {b : β}
    (h : ((p.bind fun a => .done (f a)).run handle s).1 = .ok b) :
    ∃ a, (p.run handle s).1 = .ok a ∧ b = f a := by
  rw [run_bind] at h
  split at h
  · rename_i a s' hrun
    rw [hrun]
    cases h
    exact ⟨a, rfl, rfl⟩
  · cases h

theorem run_attempt (p : Program α) (s : σ) :
    p.attempt.run handle s = (.ok (p.run handle s).1, (p.run handle s).2) := by
  induction p generalizing s with
  | done a => rfl
  | fail e => rfl
  | ask c next ih => exact ih _ _

theorem run_tryCatch (p : Program α) (recover : Error → Program α) (s : σ) :
    (p.tryCatch recover).run handle s =
      match p.run handle s with
      | (.ok a, s') => (.ok a, s')
      | (.error e, s') => (recover e).run handle s' := by
  induction p generalizing s with
  | done a => rfl
  | fail e => rfl
  | ask c next ih => exact ih _ _

theorem run_within {p : Program α} {time : Nat} {waits : List Wait} (s : σ)
    (h : Wait.total waits ≤ time) :
    (p.within time waits).run handle s = (p.bind fun a => .done (some a)).run handle s := by
  induction p generalizing time waits s with
  | done a => cases waits <;> rfl
  | fail e => cases waits <;> rfl
  | ask c next ih =>
    cases waits with
    | nil => exact ih _ _ (Nat.zero_le time)
    | cons w waits =>
      rw [Wait.total] at h
      have hw : w.millis ≤ time := by omega
      simp only [within, hw, if_true]
      exact ih _ _ (by omega)

/-- Every call is allowed by what was seen before it, and what is answered meets the condition. A
call may be answered in any state; the states before and after it are seen from then on. -/
def Conforms (handle : Handler σ) (allowed : List σ → Call → Prop) (post : List σ → α → Prop) :
    List σ → Program α → Prop
  | seen, .done a => post seen a
  | _, .fail _ => True
  | seen, .ask c next =>
    allowed seen c ∧
      ∀ s, Conforms handle allowed post ((handle c s).2 :: s :: seen) (next (handle c s).1)

namespace Conforms

variable {allowed allowed' : List σ → Call → Prop} {post post' : List σ → α → Prop}
variable {seen : List σ} {p : Program α}

theorem done {a : α} (h : post seen a) : Conforms handle allowed post seen (.done a) := h

theorem fail {e : Error} : Conforms handle allowed post seen (.fail e) := trivial

theorem ofExcept {r : Except Error α} (h : ∀ a, r = .ok a → post seen a) :
    Conforms handle allowed post seen (.ofExcept r) := by
  cases r with
  | ok a => exact h a rfl
  | error e => exact fail

theorem call {c : Call} {post : List σ → c.Answer → Prop} (hc : allowed seen c)
    (h : ∀ s a, (handle c s).1 = .ok a → post ((handle c s).2 :: s :: seen) a) :
    Conforms handle allowed post seen (.call c) :=
  ⟨hc, fun s => ofExcept (h s)⟩

theorem mono (h : Conforms handle allowed post seen p)
    (hallowed : ∀ seen c, allowed seen c → allowed' seen c)
    (hpost : ∀ seen' a, seen ⊆ seen' → post seen' a → post' seen' a) :
    Conforms handle allowed' post' seen p := by
  induction p generalizing seen with
  | done a => exact hpost _ a (List.Subset.refl _) h
  | fail e => exact fail
  | ask c next ih =>
    refine ⟨hallowed _ _ h.1, fun s => ih _ (h.2 s) fun seen' a hs => hpost seen' a ?_⟩
    exact fun x hx => hs (List.mem_cons_of_mem _ (List.mem_cons_of_mem _ hx))

theorem weaken (h : Conforms handle allowed post seen p)
    (hpost : ∀ seen' a, seen ⊆ seen' → post seen' a → post' seen' a) :
    Conforms handle allowed post' seen p :=
  h.mono (fun _ _ => id) hpost

theorem bind {f : α → Program β} {post' : List σ → β → Prop}
    (h : Conforms handle allowed post seen p)
    (hf : ∀ seen' a, seen ⊆ seen' → post seen' a → Conforms handle allowed post' seen' (f a)) :
    Conforms handle allowed post' seen (p.bind f) := by
  induction p generalizing seen with
  | done a => exact hf _ a (List.Subset.refl _) h
  | fail e => exact fail
  | ask c next ih =>
    refine ⟨h.1, fun s => ih _ (h.2 s) fun seen' a hs => hf seen' a ?_⟩
    exact fun x hx => hs (List.mem_cons_of_mem _ (List.mem_cons_of_mem _ hx))

theorem of_bind {f : α → Program β} {post : List σ → β → Prop}
    (h : Conforms handle allowed post seen (p.bind f)) :
    Conforms handle allowed (fun _ _ => True) seen p := by
  induction p generalizing seen with
  | done a => exact trivial
  | fail e => exact fail
  | ask c next ih => exact ⟨h.1, fun s => ih _ (h.2 s)⟩

theorem bind_any {f : α → Program β} {post' : List σ → β → Prop}
    (h : Conforms handle allowed (fun _ _ => True) seen p)
    (hf : ∀ seen' a, Conforms handle allowed post' seen' (f a)) :
    Conforms handle allowed post' seen (p.bind f) :=
  h.bind fun seen' a _ _ => hf seen' a

theorem bind_ofExcept {r : Except Error α} {f : α → Program β} {post : List σ → β → Prop}
    (hf : ∀ a, r = .ok a → Conforms handle allowed post seen (f a)) :
    Conforms handle allowed post seen ((Program.ofExcept r).bind f) := by
  cases r with
  | ok a => exact hf a rfl
  | error e => exact fail

theorem bind_call {c : Call} {f : c.Answer → Program β} {post : List σ → β → Prop}
    (hc : allowed seen c)
    (hf : ∀ s a, (handle c s).1 = .ok a →
      Conforms handle allowed post ((handle c s).2 :: s :: seen) (f a)) :
    Conforms handle allowed post seen ((Program.call c).bind f) := by
  refine ⟨hc, fun s => ?_⟩
  cases hr : (handle c s).1 with
  | ok a => exact hf s a hr
  | error e => exact fail

theorem ite {c : Prop} [Decidable c] {q : Program α}
    (hp : c → Conforms handle allowed post seen p)
    (hq : ¬ c → Conforms handle allowed post seen q) :
    Conforms handle allowed post seen (if c then p else q) := by
  by_cases h : c
  · rw [if_pos h]
    exact hp h
  · rw [if_neg h]
    exact hq h

theorem join {c : Prop} [Decidable c] {P : List σ → Prop} {rest : Program β}
    {post' : List σ → β → Prop} (hp : c → Conforms handle allowed (fun seen _ => P seen) seen p)
    (hskip : ¬ c → P seen)
    (hrest : ∀ seen', seen ⊆ seen' → P seen' → Conforms handle allowed post' seen' rest) :
    Conforms handle allowed post' seen (if c then p.bind fun _ => rest else rest) := by
  refine ite (fun h => (hp h).bind fun seen' _ hs => hrest seen' hs) fun h => ?_
  exact hrest seen (List.Subset.refl _) (hskip h)

theorem attempt (h : Conforms handle allowed post seen p) :
    Conforms handle allowed (fun seen r => ∀ a, r = .ok a → post seen a) seen p.attempt := by
  induction p generalizing seen with
  | done a =>
    intro b hb
    cases hb
    exact h
  | fail e =>
    intro b hb
    cases hb
  | ask c next ih => exact ⟨h.1, fun s => ih _ (h.2 s)⟩

theorem tryCatch {recover : Error → Program α} (h : Conforms handle allowed post seen p)
    (hr : ∀ seen' e, seen ⊆ seen' → Conforms handle allowed post seen' (recover e)) :
    Conforms handle allowed post seen (p.tryCatch recover) := by
  induction p generalizing seen with
  | done a => exact h
  | fail e => exact hr _ e (List.Subset.refl _)
  | ask c next ih =>
    refine ⟨h.1, fun s => ih _ (h.2 s) fun seen' e hs => hr seen' e ?_⟩
    exact fun x hx => hs (List.mem_cons_of_mem _ (List.mem_cons_of_mem _ hx))

theorem within {time : Nat} {waits : List Wait} (h : Conforms handle allowed post seen p) :
    Conforms handle allowed (fun seen a => ∀ b, a = some b → post seen b) seen
      (p.within time waits) := by
  induction p generalizing seen time waits with
  | done a =>
    have hdone : ∀ b, some a = some b → post seen b := by
      rintro b ⟨⟩
      exact h
    cases waits <;> exact hdone
  | fail e => cases waits <;> exact fail
  | ask c next ih =>
    cases waits with
    | nil => exact ⟨h.1, fun s => ih _ (h.2 s)⟩
    | cons w waits =>
      refine ite (fun _ => ⟨h.1, fun s => ih _ (h.2 s)⟩) fun _ => ?_
      exact ite (fun _ => ⟨h.1, fun s => nofun⟩) fun _ => nofun

/-- Whatever the allowed calls preserve of the states so far, the latest one first, a whole run
preserves. -/
theorem run {H : List σ → Prop}
    (step : ∀ seen c s past, seen ⊆ s :: past → allowed seen c → H (s :: past) →
      H ((handle c s).2 :: s :: past))
    {s : σ} {past : List σ} (h : Conforms handle allowed post seen p) (hs : seen ⊆ s :: past)
    (hH : H (s :: past)) :
    ∃ past', H ((p.run handle s).2 :: past') ∧ s :: past ⊆ (p.run handle s).2 :: past' ∧
      ∀ a, (p.run handle s).1 = .ok a → ∃ seen' ⊆ (p.run handle s).2 :: past', post seen' a := by
  induction p generalizing seen s past with
  | done a =>
    refine ⟨past, hH, List.Subset.refl _, fun b hb => ⟨seen, hs, ?_⟩⟩
    cases hb
    exact h
  | fail e =>
    refine ⟨past, hH, List.Subset.refl _, fun b hb => ?_⟩
    cases hb
  | ask c next ih =>
    have hnext := step seen c s past hs h.1 hH
    have hseen : (handle c s).2 :: s :: seen ⊆ (handle c s).2 :: s :: past := by
      refine List.cons_subset_cons _ (List.cons_subset.2 ⟨List.mem_cons_self, hs⟩)
    obtain ⟨past', hH', hpast, hpost⟩ := ih _ (h.2 s) hseen hnext
    exact ⟨past', hH', fun x hx => hpast (List.mem_cons_of_mem _ hx), hpost⟩

end Conforms

end Depot.Program
