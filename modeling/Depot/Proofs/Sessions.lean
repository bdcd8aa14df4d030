import Depot.Proofs.Accounts
import Depot.Proofs.Lifetime

namespace Depot

/-- Exactly one kind, and with it what a member must have. -/
structure Flags.Proper (f : Flags) : Prop where
  kind : [f.isAdmin, f.isMember, f.isCustomer].count true = 1
  organization : f.isMember → f.organizationId ≠ none
  role : f.isMember → f.roleId ≠ none

/-- The principal has the number and the kind of the flags, and their organization and role if it is a
member. -/
structure Flags.Names (f : Flags) (p : Principal) : Prop where
  id : p.id = f.id
  admin : p.isAdmin = f.isAdmin
  member : p.isMember = f.isMember
  customer : p.isCustomer = f.isCustomer
  organization : p.organization? = if f.isMember then f.organizationId else none
  role : p.role? = if f.isMember then f.roleId else none

theorem Flags.proper_iff {f : Flags} : f.Proper ↔
    [f.isAdmin, f.isMember, f.isCustomer].count true = 1 ∧
      ¬ (f.isMember ∧ (f.organizationId = none ∨ f.roleId = none)) := by
  constructor
  · rintro ⟨hkind, horganization, hrole⟩
    refine ⟨hkind, fun ⟨hmember, hnone⟩ => ?_⟩
    obtain hnone | hnone := hnone
    · exact horganization hmember hnone
    · exact hrole hmember hnone
  · rintro ⟨hkind, hmember⟩
    exact ⟨hkind, fun h hnone => hmember ⟨h, .inl hnone⟩, fun h hnone => hmember ⟨h, .inr hnone⟩⟩

theorem Flags.names_of_principal? {f : Flags} {p : Principal} (h : f.principal? = some p) :
    f.Proper ∧ f.Names p := by
  obtain ⟨id, admin, member, customer, organization, role⟩ := f
  cases admin <;> cases member <;> cases customer
  case true.false.false | false.false.true =>
    cases h
    exact ⟨⟨rfl, nofun, nofun⟩, ⟨rfl, rfl, rfl, rfl, rfl, rfl⟩⟩
  case false.true.false =>
    cases organization with
    | none => cases h
    | some o =>
      cases role with
      | none => cases h
      | some r =>
        cases h
        exact ⟨⟨rfl, nofun, nofun⟩, ⟨rfl, rfl, rfl, rfl, rfl, rfl⟩⟩
  all_goals cases h

theorem Flags.Proper.principal? {f : Flags} (h : f.Proper) : ∃ p, f.principal? = some p := by
  obtain ⟨id, admin, member, customer, organization, role⟩ := f
  obtain ⟨hkind, horganization, hrole⟩ := h
  cases admin <;> cases member <;> cases customer
  case true.false.false => exact ⟨⟨id, .admin⟩, rfl⟩
  case false.false.true => exact ⟨⟨id, .customer⟩, rfl⟩
  case false.true.false =>
    obtain ⟨o, rfl⟩ := Option.ne_none_iff_exists'.1 (horganization rfl)
    obtain ⟨r, rfl⟩ := Option.ne_none_iff_exists'.1 (hrole rfl)
    exact ⟨⟨id, .member o r⟩, rfl⟩
  all_goals cases hkind

theorem User.names_of_principal {u : User} {p : Principal} (h : u.principal = .ok p) :
    u.flags.Names p := by
  unfold User.principal at h
  cases hp : u.flags.principal? with
  | some q =>
    rw [hp] at h
    obtain rfl : q = p := Except.ok.inj h
    exact (Flags.names_of_principal? hp).2
  | none =>
    rw [hp] at h
    cases h

namespace Token

theorem le_inWord {n : Int} (h : n ≤ lastSecond) : n ≤ inWord n := by
  unfold inWord lastSecond at *
  omega

theorem validate_of_issue {secret : String} {ttl now t : Int} {p : Principal} {token : String}
    (h : issue secret ttl now p = .ok token) (hp : p.InWords) (ht : t ≤ now + ttl + leeway) :
    validate secret t token = .ok p := by
  obtain ⟨⟨-, hlast⟩, rfl⟩ := issue_eq_ok.1 h
  have hword := le_inWord hlast
  rw [validate_claimsOf secret ttl now t hp]
  exact if_pos (by omega)

theorem Claims.principal_eq_ok {c : Claims} {p : Principal} :
    c.principal = .ok p ↔ c.flags.principal? = some p := by
  unfold Claims.principal
  cases c.flags.principal? with
  | some q => rw [Except.ok.injEq, Option.some.injEq]
  | none => exact ⟨nofun, nofun⟩

theorem Claims.principal_eq_error {c : Claims} :
    c.principal = .error .invalidToken ↔ ¬ c.flags.Proper := by
  unfold Claims.principal
  cases hp : c.flags.principal? with
  | some p => exact ⟨nofun, fun h => absurd (Flags.names_of_principal? hp).1 h⟩
  | none =>
    refine ⟨fun _ hproper => ?_, fun _ => rfl⟩
    obtain ⟨p, hp'⟩ := hproper.principal?
    rw [hp] at hp'
    cases hp'

end Token

theorem exists_of_bind_eq_ok {ε α β : Type} {r : Except ε α} {f : α → Except ε β} {b : β}
    (h : r.bind f = .ok b) : ∃ a, r = .ok a ∧ f a = .ok b := by
  cases r with
  | error e => cases h
  | ok a => exact ⟨a, rfl, h⟩

theorem Password.verify_of_hash {cost : Int} {password : String} {h : PasswordHash}
    (hhash : Password.hash cost password = .ok h) : Password.verify password h = .ok true := by
  unfold Password.hash at hhash
  split at hhash
  · cases hhash
    simp [Password.verify]
  · cases hhash

namespace Operation

open Program Store

variable {s : Accounts.Settings} {m : Memory} {now : Int} {door : Accounts.Door} {c : Credentials}

/-- The session that is opened for a principal, if its expiry lies in the calendar. -/
def Accounts.session (s : Accounts.Settings) (now : Int) (p : Principal) :
    Except Error Accounts.Session :=
  (Token.issue s.secret s.ttl now p).map fun token => ⟨p, token⟩

theorem Accounts.session_eq_ok {p : Principal} {t : Accounts.Session}
    (h : Accounts.session s now p = .ok t) :
    t.principal = p ∧ Token.issue s.secret s.ttl now p = .ok t.token := by
  unfold Accounts.session at h
  cases hissue : Token.issue s.secret s.ttl now p with
  | ok token =>
    rw [hissue] at h
    cases h
    exact ⟨rfl, rfl⟩
  | error e =>
    rw [hissue] at h
    cases h

theorem Accounts.exists_session {p : Principal} (hfirst : Token.firstSecond ≤ now + s.ttl)
    (hlast : now + s.ttl ≤ Token.lastSecond) :
    ∃ token, Accounts.session s now p = .ok ⟨p, token⟩ := by
  obtain ⟨token, htoken⟩ : ∃ token, Token.issue s.secret s.ttl now p = .ok token :=
    ⟨_, Token.issue_eq_ok.2 ⟨⟨hfirst, hlast⟩, rfl⟩⟩
  refine ⟨token, ?_⟩
  rw [Accounts.session, htoken]
  rfl

theorem checkPassword_eq_ok {password : String} {u : User} :
    Accounts.checkPassword password u = .ok () ↔
      Password.verify password u.passwordHash = .ok true := by
  unfold Accounts.checkPassword
  cases Password.verify password u.passwordHash with
  | error e => exact ⟨nofun, nofun⟩
  | ok right => cases right <;> simp [Bind.bind, Except.bind]

def Accounts.admitted (s : Accounts.Settings) (now : Int) (door : Accounts.Door) (password : String)
    (u : User) : Except Error Accounts.Session :=
  if door.admits u then
    (Accounts.checkPassword password u).bind fun _ => u.principal.bind (Accounts.session s now)
  else .error .noUser

theorem run_login {r : Except Error User}
    (hfind : (Accounts.findUser c).run Memory.handle m = (r, m)) :
    (Accounts.login s now door c).run Memory.handle m =
      (r.bind (Accounts.admitted s now door c.password), m) := by
  simp only [Accounts.login, bind_eq, run_bind, hfind, throw_eq, fail_bind, lift_eq, pure_eq]
  cases r with
  | error e => rfl
  | ok u =>
    simp only [Except.bind, Accounts.admitted]
    by_cases hdoor : door.admits u
    · simp only [hdoor, Bool.not_true, Bool.false_eq_true, if_false, if_true]
      cases Accounts.checkPassword c.password u with
      | error e => rfl
      | ok _ =>
        cases u.principal with
        | error e => rfl
        | ok p =>
          simp only [ofExcept_ok, done_bind, Accounts.session]
          cases Token.issue s.secret s.ttl now p with
          | error e => rfl
          | ok token => rfl
    · simp only [hdoor, Bool.not_false, if_true, Bool.false_eq_true, if_false, run_fail]

theorem Accounts.admitted_eq {password : String} {u : User} {p : Principal} (hdoor : door.admits u)
    (hpassword : Password.verify password u.passwordHash = .ok true) (hp : u.principal = .ok p) :
    Accounts.admitted s now door password u = Accounts.session s now p := by
  rw [Accounts.admitted, if_pos hdoor, checkPassword_eq_ok.2 hpassword, hp]
  rfl

theorem Accounts.of_admitted {password : String} {u : User} {t : Accounts.Session}
    (h : Accounts.admitted s now door password u = .ok t) :
    ∃ p, u.principal = .ok p ∧ Accounts.session s now p = .ok t := by
  unfold Accounts.admitted at h
  split at h
  · obtain ⟨-, -, h⟩ := exists_of_bind_eq_ok h
    exact exists_of_bind_eq_ok h
  · cases h

theorem user_of_login {t : Accounts.Session}
    (h : ((Accounts.login s now door c).run Memory.handle m).1 = .ok t) :
    ∃ u ∈ m.users.rows, (Accounts.findUser c).run Memory.handle m = (.ok u, m) ∧
      u.principal = .ok t.principal ∧ Token.issue s.secret s.ttl now t.principal = .ok t.token := by
  obtain ⟨u, hu, hfind⟩ | ⟨e, hfind, -⟩ := run_findUser (m := m) c
  · rw [run_login hfind] at h
    obtain ⟨p, hp, hsession⟩ := Accounts.of_admitted h
    obtain ⟨rfl, hissue⟩ := Accounts.session_eq_ok hsession
    exact ⟨u, hu, hfind, hp, hissue⟩
  · rw [run_login hfind] at h
    cases h

/-- A principal comes back out of its token. Whoever logs in is told the principal that the token speaks
for, which is the one that is stored. Claims name a principal just if they set one kind and have what a
member needs, and then the principal is as they say. -/
theorem principals_come_back :
    (∀ (secret : String) (ttl now : Int) (p : Principal), p.InWords →
      Token.firstSecond ≤ now + ttl → now + ttl ≤ Token.lastSecond →
      ∃ token, Token.issue secret ttl now p = .ok token ∧
        ∀ t ≤ now + ttl + Token.leeway, Token.validate secret t token = .ok p) ∧
    (∀ (s : Accounts.Settings) (now : Int) (door : Accounts.Door) (c : Credentials) (m : Memory)
      (t : Accounts.Session),
      ((Accounts.login s now door c).run Memory.handle m).1 = .ok t →
      ∃ u ∈ m.users.rows, ∃ p, (Accounts.findUser c).run Memory.handle m = (.ok u, m) ∧
        u.principal = .ok p ∧ u.flags.Names p ∧
        t.toJson = .obj [("auther", p.flags.toJson), ("token", .str t.token)] ∧
        (p.InWords → ∀ time ≤ now + s.ttl + Token.leeway,
          Token.validate s.secret time t.token = .ok p)) ∧
    ∀ c : Token.Claims,
      (c.principal = .error .invalidToken ↔
        [c.isAdmin, c.isMember, c.isCustomer].count true ≠ 1 ∨
          c.isMember ∧ (c.organizationId = none ∨ c.roleId = none)) ∧
      (c.principal ≠ .error .invalidToken → ∃ p, c.principal = .ok p ∧ c.flags.Names p) := by
  refine ⟨fun secret ttl now p hp hfirst hlast => ?_, fun s now door c m t h => ?_,
    fun c => ⟨?_, fun h => ?_⟩⟩
  · obtain ⟨token, hissue⟩ : ∃ token, Token.issue secret ttl now p = .ok token :=
      ⟨_, Token.issue_eq_ok.2 ⟨⟨hfirst, hlast⟩, rfl⟩⟩
    exact ⟨token, hissue, fun t ht => Token.validate_of_issue hissue hp ht⟩
  · obtain ⟨u, hu, hfind, hp, hissue⟩ := user_of_login h
    refine ⟨u, hu, t.principal, hfind, hp, User.names_of_principal hp, rfl, fun hwords time ht => ?_⟩
    exact Token.validate_of_issue hissue hwords ht
  · rw [Token.Claims.principal_eq_error, Flags.proper_iff, not_and_or, not_not]
    exact Iff.rfl
  · obtain ⟨p, hp⟩ := (not_not.1 fun hn => h (Token.Claims.principal_eq_error.2 hn)).principal?
    exact ⟨p, Token.Claims.principal_eq_ok.2 hp, (Flags.names_of_principal? hp).2⟩

/-- A member with the least number and the greatest ones, for whom a token is signed with the empty secret
that expires at once; a customer who logs in; and claims of two kinds. -/
theorem extreme_principals_come_back :
    let p : Principal := ⟨-9223372036854775808, .member 9223372036854775807 9223372036854775807⟩
    let ada := Memory.userRow 1 ⟨"Ada", "A", "ada@x.org", "1", .digest 4 (Password.key "secret")⟩
      .customer ⟨0⟩
    let m : Memory := { Memory.empty ⟨0⟩ with users := ⟨[ada], 1⟩ }
    (∃ token, Token.issue "" 0 1763000000 p = .ok token ∧
      Token.validate "" 1763000060 token = .ok p) ∧
    (∃ t, ((Accounts.login ⟨"k", 60, 4⟩ 0 .customer ⟨none, some "1", "secret"⟩).run
        Memory.handle m).1 = .ok t ∧ Token.validate "k" 120 t.token = .ok ⟨1, .customer⟩) ∧
    (⟨1, true, false, true, none, none, 0, 0⟩ : Token.Claims).principal = .error .invalidToken := by
  intro p ada m
  obtain ⟨hround, hlogin, hclaims⟩ := principals_come_back
  refine ⟨?_, ?_, (hclaims _).1.2 (.inl (by decide))⟩
  · have hp : p.InWords := by
      unfold Principal.InWords
      decide
    obtain ⟨token, hissue, hvalid⟩ := hround "" 0 1763000000 p hp (by decide) (by decide)
    exact ⟨token, hissue, hvalid _ (by decide)⟩
  · let s : Accounts.Settings := ⟨"k", 60, 4⟩
    have hwords : Principal.InWords ⟨1, .customer⟩ := by
      unfold Principal.InWords
      decide
    obtain ⟨token, hsession⟩ : ∃ token, Accounts.session s 0 ⟨1, .customer⟩ =
        .ok ⟨⟨1, .customer⟩, token⟩ := Accounts.exists_session (by decide) (by decide)
    have ht : ((Accounts.login s 0 .customer ⟨none, some "1", "secret"⟩).run Memory.handle m).1 =
        .ok ⟨⟨1, .customer⟩, token⟩ := by
      rw [run_login (r := .ok ada) rfl]
      have hpassword : Password.verify "secret" ada.passwordHash = .ok true :=
        Password.verify_of_hash (rfl : Password.hash 4 "secret" = _)
      have hdoor : Accounts.Door.customer.admits ada = true := rfl
      exact (Accounts.admitted_eq hdoor hpassword rfl).trans hsession
    obtain ⟨u, hu, q, -, hq, -, -, hvalid⟩ := hlogin s 0 .customer _ m _ ht
    obtain rfl : u = ada := List.mem_singleton.1 hu
    obtain rfl : ⟨1, .customer⟩ = q := Except.ok.inj hq
    exact ⟨_, ht, hvalid hwords _ (by decide)⟩

end Operation

end Depot
