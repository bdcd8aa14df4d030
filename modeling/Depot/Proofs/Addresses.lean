import Depot.Proofs.Registrations
import Depot.Proofs.Traceless

namespace Depot

namespace Program

open Store

variable {α σ : Type} {handle : Handler σ} {c : Call} {s : σ}

def calls (handle : Handler σ) : Program α → σ → List Call
  | .done _, _ => []
  | .fail _, _ => []
  | .ask c next, s => c :: (next (handle c s).1).calls handle (handle c s).2

theorem Conforms.of_mem_calls {allowed : List σ → Call → Prop} {post : List σ → α → Prop}
    {seen : List σ} {p : Program α} (h : Conforms handle allowed post seen p)
    (hc : c ∈ p.calls handle s) : ∃ seen, allowed seen c := by
  induction p generalizing seen s with
  | done a => exact absurd hc List.not_mem_nil
  | fail e => exact absurd hc List.not_mem_nil
  | ask c' next ih =>
    obtain rfl | hc := List.mem_cons.1 hc
    · exact ⟨seen, h.1⟩
    · exact ih _ (h.2 s) hc

theorem calls_ofExcept (r : Except Error α) : (ofExcept r).calls handle s = [] := by
  cases r <;> rfl

theorem EndsWith.run_of_mem_calls {last : Call → Prop} {p : Program α} (h : EndsWith last p)
    (hlook : ∀ c s, c.IsLookup → (handle c s).2 = s) (hc : c ∈ p.calls handle s)
    (hwrite : ¬ c.IsLookup) :
    ∃ f : c.Answer → α, p.run handle s = ((handle c s).1.map f, (handle c s).2) := by
  induction h generalizing s with
  | done a => exact absurd hc List.not_mem_nil
  | fail e => exact absurd hc List.not_mem_nil
  | @look c' next hc' _ ih =>
    obtain rfl | hc := List.mem_cons.1 hc
    · exact absurd hc' hwrite
    · rw [hlook c' s hc'] at hc
      rw [run_ask, hlook c' s hc']
      exact ih _ hc
  | @last c' hc' f =>
    rw [calls, calls_ofExcept] at hc
    obtain rfl := List.mem_singleton.1 hc
    exact ⟨f, by rw [run_ask, run_ofExcept]⟩

end Program

namespace Operation

open Program Store

variable {s : Accounts.Settings} {m : Memory} {u : User}

theorem Act.event_of_taken {b : Act} {door : Accounts.Door} {r : Registration}
    (hb : b.opening? = some (door, r)) (hu : u ∈ m.users.rows)
    (hemail : u.email = normalizeEmail r.email) {c : Call}
    (hc : c ∈ (b.perform s).calls Memory.handle m) (hopens : c.account? ≠ none) :
    (b.event s m).outcome = .error .emailTaken ∧ (b.event s m).after = m := by
  obtain ⟨account, haccount⟩ := Option.ne_none_iff_exists'.1 hopens
  have hwrite : ¬ c.IsRead := Call.not_isRead_of_account? haccount
  have hconforms : Conforms _ _ _ [] (b.perform s) := Act.perform_conforms s b
  obtain ⟨seen, hlicense⟩ := hconforms.of_mem_calls hc
  have htaken : u.email = account.email := by
    obtain ⟨account', haccount', hr, -⟩ := hlicense.opening hwrite hb
    obtain rfl : account' = account := Option.some.inj (haccount'.symm.trans haccount)
    obtain ⟨hash, -, rfl⟩ := Accounts.account_eq_ok hr
    exact hemail
  obtain ⟨f, hrun⟩ := (Act.perform_last s b).run_of_mem_calls (fun _ _ h => h.handle_eq _) hc
    fun h => hwrite h.isRead
  rw [Memory.handle_account_of_taken haccount hu htaken] at hrun
  exact ⟨congrArg Prod.fst hrun, congrArg Prod.snd hrun⟩

theorem Users.Change.email_apply {c : Users.Change} {email : String} (hc : c.email = some email)
    (h : ¬ Text.isBlankText email) (v : User) : (c.apply v).email = normalizeEmail email := by
  simp only [Change.apply, hc, Text.nonBlank?_of_not_blank h]

theorem run_update_of_taken {p : Principal} {v : User} {c : Users.Change} {email : String}
    (hsound : m.users.Sound) (hu : u ∈ m.users.rows) (hv : v ∈ m.users.rows)
    (hsees : Users.sees p v) (hne : v.id ≠ u.id) (hc : c.email = some email)
    (hblank : ¬ Text.isBlankText email) (hemail : u.email = normalizeEmail email) :
    (Users.update p v.id c).run Memory.handle m = (.error .emailTaken, m) := by
  have hget := Users.run_get_of_seen hsound hv ((Users.sees_iff v).1 hsees)
  have hany : m.users.rows.any fun w => w.id != (c.apply v).id && w.email == (c.apply v).email := by
    refine List.any_eq_true.2 ⟨u, hu, ?_⟩
    rw [Users.Change.email_apply hc hblank, hemail, beq_self_eq_true, Bool.and_true, bne_iff_ne]
    exact hne.symm
  have hcall : Memory.handle (.users (.update (c.apply v))) m = (.error .emailTaken, m) :=
    if_pos hany
  simp only [Users.update, bind_eq, run_bind, hget]
  rw [← hcall]
  exact run_call _ _

theorem run_findUser_email {email : String} (h : ¬ Text.isBlankText email) (phone : Option String)
    (password : String) :
    (Accounts.findUser ⟨some email, phone, password⟩).run Memory.handle m =
      (Memory.find m.users.rows (·.email == normalizeEmail email) .noUser, m) := by
  unfold Accounts.findUser
  simp only [Text.nonBlank?_of_not_blank h]
  exact run_call (.users (.byEmail (normalizeEmail email))) m

/-- Everywhere the address stands for the user. -/
structure StandsFor (s : Accounts.Settings) (m : Memory) (email : String) (u : User) : Prop where
  login : ∀ (now : Int) (door : Accounts.Door) (phone : Option String) (password : String),
    door.admits u → Password.verify password u.passwordHash = .ok true →
    ∃ p, u.principal = .ok p ∧
      (Accounts.login s now door ⟨some email, phone, password⟩).run Memory.handle m =
        (Accounts.session s now p, m) ∧
      (Token.firstSecond ≤ now + s.ttl → now + s.ttl ≤ Token.lastSecond →
        ∃ token, Accounts.session s now p = .ok ⟨p, token⟩)
  lookup : ∀ p : Principal, p.isAdmin → ((Users.getByEmail p email).run Memory.handle m).1 = .ok u
  registration : ∀ (b : Act) (door : Accounts.Door) (r : Registration),
    b.opening? = some (door, r) → r.email = email →
    ∀ c ∈ (b.perform s).calls Memory.handle m, c.account? ≠ none →
      (b.event s m).outcome = .error .emailTaken ∧ (b.event s m).after = m
  update : ∀ (p : Principal), ∀ v ∈ m.users.rows, Users.sees p v → v.id ≠ u.id →
    ∀ c : Users.Change, c.email = some email →
      (Users.update p v.id c).run Memory.handle m = (.error .emailTaken, m)
  seeding : ∀ phone password : String,
    (Accounts.seedAdmin s email phone password).run Memory.handle m = (.ok none, m)

theorem Run.standsFor {es : List Event} (h : Run s es m) (hu : u ∈ m.users.rows) {email : String}
    (hemail : u.email = normalizeEmail email) (hblank : ¬ Text.isBlankText email) :
    StandsFor s m email u := by
  obtain ⟨hseparate, hcanonical, hprincipal⟩ := h.orderly
  have hfind : Memory.find m.users.rows (·.email == normalizeEmail email) .noUser = .ok u := by
    rw [← hemail]
    exact find_own hseparate.1 hu .noUser
  constructor
  case login =>
    intro now door phone password hdoor hpassword
    obtain ⟨p, hp⟩ := hprincipal u hu
    refine ⟨p, hp, ?_, Accounts.exists_session⟩
    rw [run_login (run_findUser_email hblank phone password), hfind]
    exact congrArg (·, m) (Accounts.admitted_eq hdoor hpassword hp)
  case lookup =>
    intro p hp
    have hown : Users.getByEmail p email = Users.getByEmail p u.email := by
      rw [Users.getByEmail, Users.getByEmail, (hcanonical u hu).1, hemail]
    rw [hown, run_getByEmail p hu hseparate (hcanonical u hu).1]
    obtain ⟨id, kind⟩ := p
    cases kind with
    | admin => rfl
    | member | customer => cases hp
  case registration =>
    rintro b door r hb rfl c hc hopens
    exact Act.event_of_taken hb hu hemail hc hopens
  case update =>
    intro p v hv hsees hne c hc
    exact run_update_of_taken h.sound.users hu hv hsees hne hc hblank hemail
  case seeding =>
    intro phone password
    have hcall : Memory.handle (.users (.byEmail (normalizeEmail email))) m = (.ok u, m) :=
      congrArg (·, m) hfind
    unfold Accounts.seedAdmin
    rw [run_ask, hcall]
    rfl

/-- The act gives an account the address. -/
inductive Act.Gives (email : String) : Act → Prop
  | opening {a : Act} {door : Accounts.Door} {r : Registration} (ha : a.opening? = some (door, r))
    (hr : r.email = email) : Gives email a
  | update {p : Principal} {id : Id} {c : Users.Change} (hc : c.email = some email) :
    Gives email (.job p (.userUpdate id c))

theorem email_of_update {v row : User}
    (h : (Memory.handle (.users (.update v)) m).1 = .ok row) : row.email = v.email := by
  simp only [Memory.handle, Memory.userCall, Memory.updateUser] at h
  split at h
  · cases h
  split at h
  · cases h
  split at h
  · cases h
  · rename_i x rows hrows
    cases h
    obtain ⟨-, x, -, -, rfl⟩ := modifyFirst?_mem hrows
    rfl

theorem Act.Gives.stored {a : Act} {email : String} (hgives : a.Gives email)
    (hblank : ¬ Text.isBlankText email) {reply : Reply} (hok : (a.event s m).outcome = .ok reply)
    (hu : .user u ∈ reply.rows) :
    u ∈ (a.event s m).after.users.rows ∧ u.email = normalizeEmail email := by
  cases hgives with
  | opening ha hr =>
    obtain ⟨v, hshown, husers, hv, -⟩ := Act.user_of_opening ha hok (List.ne_nil_of_mem hu)
    obtain rfl := (hshown u).1 hu
    rw [husers, hv.email, hr]
    exact ⟨List.mem_append_right _ List.mem_cons_self, rfl⟩
  | update hc =>
    obtain ⟨hrest, -⟩ | ⟨c, seen, -, hwrite, hlicense, x, hx, hreply, hafter⟩ := Act.event_of_ok s hok
    · exact hrest.elim
    · cases hlicense with
      | read hread => exact absurd hread hwrite
      | job hj =>
        cases hj
        rw [hreply] at hu
        obtain rfl : u = x := by simpa [Call.rows] using hu
        rw [hafter, email_of_update hx]
        exact ⟨(user_updated hx).1, Users.Change.email_apply hc hblank _⟩

/-- Once an account has been given an address, it is the account's in every spelling: the account logs in
and is found with it, and nobody else is given it, now or as long as the account keeps it. -/
theorem spellings_share_their_account {es : List Event} (h : Run s es m) {a : Act} {e₁ e₂ : String}
    (hgives : a.Gives e₁) (hblank : ¬ Text.isBlankText e₁)
    (hsame : normalizeEmail e₁ = normalizeEmail e₂) {reply : Reply}
    (hok : (a.event s m).outcome = .ok reply) (hu : .user u ∈ reply.rows) :
    u ∈ (a.event s m).after.users.rows ∧ StandsFor s (a.event s m).after e₂ u ∧
      (∀ door r, a.opening? = some (door, r) →
        door.admits u ∧ Password.verify r.password u.passwordHash = .ok true) ∧
      ∀ es' m', Run s es' m' → ∀ v ∈ m'.users.rows, v.email = u.email → StandsFor s m' e₂ v := by
  obtain ⟨hmem, hemail⟩ := hgives.stored hblank hok hu
  have hblank' : ¬ Text.isBlankText e₂ := by
    rwa [← normalizeEmail_eq_empty_iff, ← hsame, normalizeEmail_eq_empty_iff]
  refine ⟨hmem, (h.act a).standsFor hmem (hemail.trans hsame) hblank', fun door r ha => ?_,
    fun es' m' h' v hv hkept => h'.standsFor hv (hkept.trans (hemail.trans hsame)) hblank'⟩
  obtain ⟨v, hshown, -, hv, hdoor⟩ := Act.user_of_opening ha hok (List.ne_nil_of_mem hu)
  obtain rfl := (hshown u).1 hu
  exact ⟨hdoor, hv.password⟩

/-- Capital letters, of which the last sigma ends a word, and the small ones that they are lowered to. -/
theorem a_sigma_ends_the_word :
    let s : Accounts.Settings := ⟨"k", 60, 4⟩
    let a : Act := .registerCustomer ⟨"Ada", "A", " ΣΑΣ@X.org", "100", "secret"⟩
    let m := (a.event s (Memory.empty ⟨0⟩)).after
    normalizeEmail " ΣΑΣ@X.org" = "σας@x.org" ∧
      (∃ p, (Accounts.login s 0 .customer ⟨some "σας@x.ORG ", none, "secret"⟩).run Memory.handle m =
        (Accounts.session s 0 p, m)) ∧
      (Accounts.seedAdmin s "Σας@x.org" "200" "secret").run Memory.handle m = (.ok none, m) := by
  intro s a m
  have hnormal : normalizeEmail " ΣΑΣ@X.org" = "σας@x.org" := by decide +kernel
  obtain ⟨reply, hok, u, hu⟩ : ∃ reply, (a.event s (Memory.empty ⟨0⟩)).outcome = .ok reply ∧
      ∃ u, .user u ∈ reply.rows := ⟨_, rfl, _, List.mem_cons_self⟩
  have hspelled {e₂ : String} (h : normalizeEmail " ΣΑΣ@X.org" = normalizeEmail e₂) :=
    spellings_share_their_account (.start ⟨0⟩) (.opening (rfl : a.opening? = _) rfl)
      (by decide +kernel) h hok hu
  obtain ⟨-, hlogin, hopened, -⟩ := hspelled (by decide +kernel : _ = normalizeEmail "σας@x.ORG ")
  obtain ⟨-, hseed, -⟩ := hspelled (by decide +kernel : _ = normalizeEmail "Σας@x.org")
  obtain ⟨hdoor, hpassword⟩ := hopened _ _ rfl
  obtain ⟨p, -, hrun, -⟩ := hlogin.login 0 .customer none "secret" hdoor hpassword
  exact ⟨hnormal, ⟨p, hrun⟩, hseed.seeding "200" "secret"⟩

end Operation

end Depot
