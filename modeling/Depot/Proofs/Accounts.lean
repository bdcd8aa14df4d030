import Depot.Proofs.Canonical
import Depot.Proofs.Interleaving
import Depot.Proofs.Uniqueness

namespace Depot

def Canonical (email phone : String) : Prop := normalizeEmail email = email ∧ Text.trim phone = phone

/-- An account as it should be: of one kind, and with an organization and a role just if it is a
member's. -/
structure User.Regular (u : User) : Prop where
  contact : Canonical u.email u.phone
  kind : [u.isAdmin, u.isMember, u.isCustomer].count true = 1
  organization : u.organizationId.isSome = u.isMember
  role : u.roleId.isSome = u.isMember

theorem User.regular_of_born {u : User} (hborn : Store.Record.born u)
    (h : Canonical u.email u.phone) : u.Regular := by
  obtain ⟨kind, hflags⟩ := hborn
  have hadmin : u.isAdmin = kind.isAdmin := congrArg Flags.isAdmin hflags
  have hmember : u.isMember = kind.isMember := congrArg Flags.isMember hflags
  have hcustomer : u.isCustomer = kind.isCustomer := congrArg Flags.isCustomer hflags
  have horganization : u.organizationId = kind.organization? := congrArg Flags.organizationId hflags
  have hrole : u.roleId = kind.role? := congrArg Flags.roleId hflags
  constructor
  · exact h
  · rw [hadmin, hmember, hcustomer]
    cases kind <;> rfl
  · rw [horganization, hmember]
    cases kind <;> rfl
  · rw [hrole, hmember]
    cases kind <;> rfl

theorem User.principal_of_born {u : User} (hborn : Store.Record.born u) :
    ∃ p, u.principal = .ok p ∧ p.flags = u.flags := by
  obtain ⟨kind, hflags⟩ := hborn
  refine ⟨⟨u.id, kind⟩, ?_, hflags.symm⟩
  simp only [User.principal, hflags, Principal.principal?_flags]

namespace Operation

theorem Accounts.account_eq_ok {s : Accounts.Settings} {r : Registration} {a : NewAccount}
    (h : Accounts.account s r = .ok a) :
    ∃ hash, Password.hash s.hashCost r.password = .ok hash ∧
      a = ⟨Text.trim r.firstName, Text.trim r.lastName, normalizeEmail r.email, Text.trim r.phone,
        hash⟩ := by
  unfold Accounts.account at h
  cases hhash : Password.hash s.hashCost r.password with
  | error e =>
    rw [hhash] at h
    cases h
  | ok hash =>
    rw [hhash] at h
    exact ⟨hash, rfl, (Except.ok.inj h).symm⟩

theorem Accounts.account_canonical {s : Accounts.Settings} {r : Registration} {a : NewAccount}
    (h : Accounts.account s r = .ok a) : Canonical a.email a.phone := by
  obtain ⟨hash, -, rfl⟩ := Accounts.account_eq_ok h
  exact ⟨normalizeEmail_normalizeEmail r.email, Text.trim_trim r.phone⟩

theorem Users.Change.apply_canonical (c : Users.Change) {u : User}
    (h : Canonical u.email u.phone) : Canonical (c.apply u).email (c.apply u).phone := by
  constructor
  · simp only [Change.apply]
    split
    · exact normalizeEmail_normalizeEmail _
    · exact h.1
  · simp only [Change.apply, replaced]
    split
    · exact Text.trim_trim _
    · exact h.2

end Operation

namespace Store.Memory

variable {m : Memory}

theorem user_contact {c : Call} {u : User} (hu : u ∈ (handle c m).2.users.rows) :
    (∃ old ∈ m.users.rows, u.email = old.email ∧ u.phone = old.phone) ∨ m.AddsUser c u ∨
      ∃ v, c = .users (.update v) ∧ u.email = v.email ∧ u.phone = v.phone := by
  cases user_after hu with
  | old hu => exact .inl ⟨u, hu, rfl, rfl⟩
  | added hnew => exact .inr (.inl hnew)
  | updated _ hc _ hu =>
    subst hu
    exact .inr (.inr ⟨_, hc, rfl, rfl⟩)
  | rehashed hv _ hu =>
    subst hu
    exact .inl ⟨_, hv, rfl, rfl⟩

end Store.Memory

namespace Operation

open Program Store

variable {s : Accounts.Settings} {m : Memory} {states seen : List Memory}

theorem Act.Licensed.account_canonical {a : Act} {c : Call} {u : User}
    (hc : Act.Licensed s seen a c) (hu : m.AddsUser c u) : Canonical u.email u.phone := by
  cases hu with
  | insert new =>
    cases hc with
    | read hc => exact hc.elim
    | seedAdmin haccount | registerAdmin haccount => exact Accounts.account_canonical haccount
    | registerMember _ _ _ _ _ _ haccount => exact Accounts.account_canonical haccount
    | job hj => cases hj
  | customer account =>
    cases hc with
    | read hc => exact hc.elim
    | registerCustomer haccount => exact Accounts.account_canonical haccount
    | job hj => cases hj
  | register new owner =>
    cases hc with
    | read hc => exact hc.elim
    | registerOrganization haccount => exact Accounts.account_canonical haccount
    | job hj => cases hj

theorem History.canonical (h : History s states) :
    ∀ m ∈ states, ∀ u ∈ m.users.rows, Canonical u.email u.phone := by
  induction h with
  | start clock =>
    intro m hm u hu
    obtain rfl := List.mem_singleton.1 hm
    exact absurd hu List.not_mem_nil
  | @tick m past _ now ih =>
    intro n hn u hu
    obtain rfl | hn := List.mem_cons.1 hn
    · exact ih m List.mem_cons_self u hu
    · exact ih n hn u hu
  | @call m past seen a c hist hseen hc ih =>
    intro n hn u hu
    obtain rfl | hn := List.mem_cons.1 hn
    · obtain ⟨old, hold, hemail, hphone⟩ | hnew | ⟨v, rfl, hemail, hphone⟩ :=
        Memory.user_contact hu
      · rw [hemail, hphone]
        exact ih m List.mem_cons_self old hold
      · exact hc.account_canonical hnew
      · rw [hemail, hphone]
        cases hc with
        | read hc => exact hc.elim
        | job hj =>
          cases hj with
          | userUpdate hu' =>
            obtain ⟨n, hn, hrow⟩ := hu'.stored
            exact Users.Change.apply_canonical _ (ih n (hseen hn) _ hrow)
    · exact ih n hn u hu

theorem run_findUser (c : Credentials) :
    (∃ u ∈ m.users.rows, (Accounts.findUser c).run Memory.handle m = (.ok u, m)) ∨
      ∃ e, (Accounts.findUser c).run Memory.handle m = (.error e, m) ∧
        ∀ cause, e ≠ .internal cause := by
  have lookup (p : User → Bool) :
      (∃ u ∈ m.users.rows, (Memory.find m.users.rows p .noUser, m) = (.ok u, m)) ∨
        ∃ e, (Memory.find m.users.rows p .noUser, m) = (.error e, m) ∧
          ∀ cause, e ≠ .internal cause := by
    unfold Memory.find
    split
    · rename_i u hu
      exact .inl ⟨u, List.mem_of_find?_eq_some hu, rfl⟩
    · exact .inr ⟨_, rfl, fun _ he => by cases he⟩
  unfold Accounts.findUser
  split
  · rw [run_call]
    exact lookup _
  · split
    · rw [run_call]
      exact lookup _
    · exact .inr ⟨_, rfl, fun _ he => by cases he⟩

theorem checkPassword_ne_internal (password : String) (u : User) (cause : String) :
    Accounts.checkPassword password u ≠ .error (.internal cause) := by
  intro h
  unfold Accounts.checkPassword at h
  cases hhash : u.passwordHash with
  | text t =>
    rw [hhash] at h
    cases h
  | digest cost key =>
    rw [hhash] at h
    by_cases hkey : Password.key password == key
    · simp [Password.verify, Bind.bind, Except.bind, hkey] at h
    · simp [Password.verify, Bind.bind, Except.bind, hkey, Accounts.wrongPassword] at h

theorem cause_of_issue {secret cause : String} {ttl now : Int} {p : Principal}
    (h : Token.issue secret ttl now p = .error (.internal cause)) :
    cause = "the expiry lies outside the calendar" := by
  unfold Token.issue at h
  dsimp only at h
  split at h
  · cases h
    rfl
  · cases h

/-- A login fails of itself only where the calendar ends, if all who can be found are of one kind. -/
theorem cause_of_login (hborn : ∀ u ∈ m.users.rows, Record.born u) {now : Int}
    {door : Accounts.Door} {c : Credentials} {cause : String}
    (h : ((Accounts.login s now door c).run Memory.handle m).1 = .error (.internal cause)) :
    cause = "the expiry lies outside the calendar" := by
  simp only [Accounts.login, bind_eq, run_bind] at h
  obtain ⟨u, hu, hrun⟩ | ⟨e, hrun, he⟩ := run_findUser (m := m) c
  · simp only [hrun, throw_eq, fail_bind, lift_eq, pure_eq] at h
    split at h
    · cases h
    cases hcheck : Accounts.checkPassword c.password u with
    | error e =>
      rw [hcheck] at h
      cases h
      exact absurd hcheck (checkPassword_ne_internal _ _ _)
    | ok _ =>
      obtain ⟨p, hp, -⟩ := User.principal_of_born (hborn u hu)
      simp only [hcheck, hp, ofExcept_ok, done_bind] at h
      cases hissue : Token.issue s.secret s.ttl now p with
      | error e =>
        rw [hissue] at h
        cases h
        exact cause_of_issue hissue
      | ok token =>
        rw [hissue] at h
        cases h
  · rw [hrun] at h
    cases h
    exact absurd rfl (he cause)

theorem Users.run_get (m : Memory) (p : Principal) (id : Id) :
    (get p id).run Memory.handle m =
      ((Memory.find m.users.rows (·.id == id) .noUser).bind (visible p), m) :=
  run_guarded_of_eq (visible p) (run_call (.users (.byId id)) m)

theorem Users.run_get_of_seen (hs : m.users.Sound) {u : User} (hu : u ∈ m.users.rows)
    (hown : p.Owns (.user u)) : (get p u.id).run Memory.handle m = (.ok u, m) := by
  have hfind : Memory.find m.users.rows (·.id == u.id) .noUser = .ok u := find_own hs.nodup hu .noUser
  rw [run_get, hfind]
  exact congrArg (·, m) (visible_eq_ok.2 ⟨rfl, hown⟩)

theorem run_getByEmail (p : Principal) {u : User} (hu : u ∈ m.users.rows)
    (h : Memory.Separate m.users.rows) (hemail : normalizeEmail u.email = u.email) :
    ((Users.getByEmail p u.email).run Memory.handle m).1 = Users.visible p u := by
  refine (run_guarded (call (.users (.byEmail (normalizeEmail u.email)))) (Users.visible p) m).trans ?_
  rw [run_call, hemail]
  exact congrArg (·.bind (Users.visible p)) (find_own h.1 hu .noUser)

theorem run_getByPhone (p : Principal) {u : User} (hu : u ∈ m.users.rows)
    (h : Memory.Separate m.users.rows) :
    ((Users.getByPhone p u.phone).run Memory.handle m).1 = Users.visible p u := by
  refine (run_guarded (call (.users (.byPhone u.phone))) (Users.visible p) m).trans ?_
  rw [run_call]
  exact congrArg (·.bind (Users.visible p)) (find_own h.2 hu .noUser)

namespace Traffic

/-- Addresses and phones are kept apart, each in the form in which it is looked up, and every account is
of one kind. So nobody who is stored is refused a login for a wrong kind, and everybody is found by the
own address and the own phone. -/
theorem accounts_stay_regular (s : Accounts.Settings) (clock : Timestamp) (moves : List Move) :
    let m := (after s clock moves).memory
    Memory.Separate m.users.rows ∧
      (∀ u ∈ m.users.rows, u.Regular ∧
        (∃ p, u.principal = .ok p ∧ p.flags = u.flags) ∧
        (Memory.handle (.users (.byEmail u.email)) m).1 = .ok u ∧
        (Memory.handle (.users (.byPhone u.phone)) m).1 = .ok u ∧
        ∀ p, ((Users.getByEmail p u.email).run Memory.handle m).1 = Users.visible p u ∧
          ((Users.getByPhone p u.phone).run Memory.handle m).1 = Users.visible p u) ∧
      ∀ now door credentials, ∀ id : Id,
        ((Accounts.login s now door credentials).run Memory.handle m).1 ≠
          .error (.internal ("user " ++ toString id ++ " has an inconsistent kind")) := by
  intro m
  obtain ⟨past, hist⟩ := exists_history_after s clock moves
  have hborn : ∀ u ∈ m.users.rows, Record.born u :=
    (hist.lineage.sound m List.mem_cons_self).users.born
  have hseparate : Memory.Separate m.users.rows := (hist.distinct m List.mem_cons_self).accounts
  refine ⟨hseparate, fun u hu => ?_, fun now door credentials id h => ?_⟩
  · have hcontact := hist.canonical m List.mem_cons_self u hu
    refine ⟨User.regular_of_born (hborn u hu) hcontact, User.principal_of_born (hborn u hu), ?_, ?_,
      fun p => ⟨run_getByEmail p hu hseparate hcontact.1, run_getByPhone p hu hseparate⟩⟩
    · exact find_own hseparate.1 hu .noUser
    · exact find_own hseparate.2 hu .noUser
  · have hcause := congrArg (·.toList.head?) (cause_of_login hborn h)
    simp at hcause

/-- Two customers take the same phone at the same time, and a third one an address that is taken in other
letters: the first to write has it. -/
theorem racing_accounts_stay_apart :
    ∃ moves : List Move,
      ((after ⟨"k", 60, 4⟩ ⟨0⟩ moves).memory.users.rows.map fun u => (u.email, u.phone)) =
          [("ada@x.org", "7"), ("bob@x.org", "3")] ∧
        ∀ u ∈ (after ⟨"k", 60, 4⟩ ⟨0⟩ moves).memory.users.rows, u.Regular := by
  let moves : List Move :=
    [.enter (.registerCustomer ⟨"Ada", "A", " Ada@X.org ", "1", "secret"⟩), .call 0,
      .enter (.registerCustomer ⟨"Bob", "B", "BOB@x.org", "3", "secret"⟩), .call 1,
      .enter (.registerCustomer ⟨"Eve", "E", "ada@x.ORG", "4", "secret"⟩), .call 2,
      .enter (.job ⟨1, .customer⟩ (.userUpdate 1 ⟨none, none, none, some " 7 "⟩)),
      .enter (.job ⟨2, .customer⟩ (.userUpdate 2 ⟨none, none, none, some "7"⟩)),
      .call 3, .call 4, .call 3, .call 4]
  have hregular := (accounts_stay_regular ⟨"k", 60, 4⟩ ⟨0⟩ moves).2.1
  refine ⟨moves, ?_, fun u hu => (hregular u hu).1⟩
  decide +kernel

end Traffic

end Operation

end Depot
