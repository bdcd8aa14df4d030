import Depot.Http.Service
import Depot.Proofs.Effects
import Depot.Proofs.Sessions

namespace Depot

namespace Store

def Call.account? : Call → Option NewAccount
  | .users (.insert new) => some new.account
  | .users (.insertCustomer account) => some account
  | .organizations (.register _ owner) => some owner
  | _ => none

theorem Call.not_isRead_of_account? {c : Call} {account : NewAccount}
    (h : c.account? = some account) : ¬ c.IsRead := by
  unfold account? at h
  split at h
  · exact not_false
  · exact not_false
  · exact not_false
  · cases h

namespace Memory

variable {m : Memory} {c : Call} {account : NewAccount} {u : User}

theorem AddsUser.eq_userRow (h : m.AddsUser c u) (hc : c.account? = some account) :
    ∃ kind, u = userRow m.users.nextId account kind m.clock := by
  cases h with
  | insert new =>
    cases hc
    exact ⟨new.kind, rfl⟩
  | customer =>
    cases hc
    exact ⟨.customer, rfl⟩
  | register =>
    cases hc
    exact ⟨.member m.organizations.nextId m.roles.nextId, rfl⟩

theorem AddsUser.exists_account (h : m.AddsUser c u) :
    ∃ account, c.account? = some account ∧ ∃ kind, u = userRow m.users.nextId account kind m.clock := by
  have hc : ∃ account, c.account? = some account := by
    cases h <;> exact ⟨_, rfl⟩
  obtain ⟨account, hc⟩ := hc
  exact ⟨account, hc, h.eq_userRow hc⟩

/-- What a call has done that opened an account for the user. -/
structure Opens (m : Memory) (c : Call) (x : c.Answer) (u : User) : Prop where
  added : m.AddsUser c u
  shown : ∀ v, .user v ∈ c.rows x ↔ v = u
  users : (handle c m).2.users = m.users.insert u

theorem handle_account_of_error {e : Error} (hc : c.account? = some account)
    (hcheck : checkAccount m.users.rows account.email account.phone = .error e) :
    handle c m = (.error e, m) := by
  unfold Call.account? at hc
  split at hc
  · cases hc
    simp only [handle, userCall, insertUser, hcheck]
  · cases hc
    simp only [handle, userCall, insertCustomer, insertUser, hcheck]
  · cases hc
    simp only [handle, organizationCall, register, hcheck]
  · cases hc

theorem opens_of_ok {x : c.Answer} (hc : c.account? = some account)
    (hx : (handle c m).1 = .ok x) : ∃ u, m.Opens c x u := by
  cases hcheck : checkAccount m.users.rows account.email account.phone with
  | error e =>
    rw [handle_account_of_error hc hcheck] at hx
    cases hx
  | ok _ =>
    unfold Call.account? at hc
    split at hc
    · rename_i new
      cases hc
      simp only [handle, userCall, insertUser, hcheck] at hx
      cases hx
      refine ⟨_, .insert new, fun v => by simp [Call.rows], ?_⟩
      simp only [handle, userCall, insertUser, hcheck]
    · cases hc
      simp only [handle, userCall, insertCustomer, insertUser, hcheck] at hx
      cases hx
      refine ⟨_, .customer account, fun v => by simp [Call.rows], ?_⟩
      simp only [handle, userCall, insertCustomer, insertUser, hcheck]
    · rename_i new owner
      cases hc
      simp only [handle, organizationCall, register, hcheck] at hx
      cases hx
      refine ⟨_, .register new account, fun v => ?_, ?_⟩
      · simp [Call.rows, organizationRow, roleRow]
      · simp only [handle, organizationCall, register, hcheck, organizationRow, roleRow]
    · cases hc

theorem handle_account_of_taken (hc : c.account? = some account) (hu : u ∈ m.users.rows)
    (hemail : u.email = account.email) : handle c m = (.error .emailTaken, m) := by
  have hany : m.users.rows.any (·.email == account.email) = true :=
    List.any_eq_true.2 ⟨u, hu, beq_iff_eq.2 hemail⟩
  exact handle_account_of_error hc (if_pos hany)

/-- Accounts that can be told apart by what they are looked up by, each with a principal. -/
structure Orderly (m : Memory) : Prop where
  separate : Separate m.users.rows
  canonical : ∀ u ∈ m.users.rows, Canonical u.email u.phone
  principal : ∀ u ∈ m.users.rows, ∃ p, u.principal = .ok p

end Memory

end Store

theorem FieldProblem.atLeast_eq_nil_iff {n : Nat} {field message value : String} :
    atLeast n field message value = [] ↔ n ≤ value.length := by
  unfold atLeast
  split
  · rename_i h
    exact iff_of_true rfl h
  · rename_i h
    exact iff_of_false (List.cons_ne_nil _ _) h

theorem Registration.contact_of_problems {r : Registration} (h : r.problems = []) :
    r.phone ≠ "" ∧ 1 ≤ r.password.length := by
  simp only [problems, List.append_eq_nil_iff, FieldProblem.atLeast_eq_nil_iff] at h
  obtain ⟨⟨-, hphone⟩, hpassword⟩ := h
  refine ⟨?_, by omega⟩
  rintro hempty
  rw [hempty] at hphone
  cases hphone

/-- The user as the registration describes it. -/
structure Registration.Describes (r : Registration) (u : User) : Prop where
  firstName : u.firstName = Text.trim r.firstName
  lastName : u.lastName = Text.trim r.lastName
  email : u.email = normalizeEmail r.email
  phone : u.phone = Text.trim r.phone
  password : Password.verify r.password u.passwordHash = .ok true

namespace Operation

open Program Store

/-- What an act would open an account with, and the door that the account is for. -/
def Act.opening? : Act → Option (Accounts.Door × Registration)
  | .seedAdmin email phone password => some (.admin, ⟨"Super", "Admin", email, phone, password⟩)
  | .registerAdmin r => some (.admin, r)
  | .registerCustomer r => some (.customer, r)
  | .registerOrganization r => some (.member, r.owner)
  | .registerMember _ r => some (.member, r.account)
  | .login .. | .job .. => none

variable {s : Accounts.Settings} {seen : List Memory} {m : Memory} {a : Act} {c : Call}
variable {door : Accounts.Door} {r : Registration}

theorem Act.Licensed.opening (hc : Act.Licensed s seen a c) (hwrite : ¬ c.IsRead)
    (ho : a.opening? = some (door, r)) :
    ∃ account, c.account? = some account ∧ Accounts.account s r = .ok account ∧
      ∀ (n : Memory) (u : User), n.AddsUser c u → door.admits u := by
  cases hc with
  | read hc => exact absurd hc hwrite
  | seedAdmin haccount | registerAdmin haccount | registerCustomer haccount
  | registerOrganization haccount | registerMember _ _ _ _ _ _ haccount =>
    cases ho
    refine ⟨_, rfl, haccount, fun n u hu => ?_⟩
    cases hu
    rfl
  | job hj => cases ho

theorem Act.Licensed.opening_of_account {account : NewAccount} (hc : Act.Licensed s seen a c)
    (haccount : c.account? = some account) : ∃ door r, a.opening? = some (door, r) := by
  cases hc with
  | read hread => exact absurd hread (Call.not_isRead_of_account? haccount)
  | seedAdmin | registerAdmin | registerCustomer | registerOrganization | registerMember =>
    exact ⟨_, _, rfl⟩
  | job hj => cases hj <;> cases haccount

theorem Accounts.describes_of_account {account : NewAccount} {id : Id} {kind : Kind}
    {now : Timestamp} (h : Accounts.account s r = .ok account) :
    r.Describes (Memory.userRow id account kind now) := by
  obtain ⟨hash, hhash, rfl⟩ := Accounts.account_eq_ok h
  exact ⟨rfl, rfl, rfl, rfl, Password.verify_of_hash hhash⟩

theorem Act.user_of_opening {reply : Reply} (ho : a.opening? = some (door, r))
    (h : (a.event s m).outcome = .ok reply) (hrows : reply.rows ≠ []) :
    ∃ u, (∀ v, .user v ∈ reply.rows ↔ v = u) ∧ (a.event s m).after.users = m.users.insert u ∧
      r.Describes u ∧ door.admits u := by
  obtain ⟨hrest, -⟩ | ⟨c, seen, -, hwrite, hc, x, hx, hreply, hafter⟩ := Act.event_of_ok s h
  · -- only the seeding may rest, and then it shows nobody
    cases a with
    | seedAdmin => exact absurd hrest hrows
    | login | job => cases ho
    | registerAdmin | registerCustomer | registerOrganization | registerMember => exact hrest.elim
  · obtain ⟨account, haccount, hr, hdoor⟩ := hc.opening hwrite ho
    obtain ⟨u, hadded, hshown, husers⟩ := Memory.opens_of_ok haccount hx
    obtain ⟨kind, rfl⟩ := hadded.eq_userRow haccount
    rw [hreply, hafter]
    exact ⟨_, hshown, husers, Accounts.describes_of_account hr, hdoor m _ hadded⟩

theorem History.orderly {past : List Memory} (h : History s (m :: past)) : m.Orderly := by
  refine ⟨(h.distinct m List.mem_cons_self).accounts, h.canonical m List.mem_cons_self,
    fun u hu => ?_⟩
  have hsound := h.lineage.sound m List.mem_cons_self
  obtain ⟨p, hp, -⟩ := User.principal_of_born (hsound.users.born u hu)
  exact ⟨p, hp⟩

theorem Run.orderly {es : List Event} (h : Run s es m) : m.Orderly := by
  obtain ⟨past, hist, -⟩ := h.history
  exact hist.orderly

theorem run_findUser_phone {phone password : String} (h : phone ≠ "") :
    (Accounts.findUser ⟨none, some phone, password⟩).run Memory.handle m =
      (Memory.find m.users.rows (·.phone == phone) .noUser, m) := by
  have hfilter : (some phone).filter (!·.isEmpty) = some phone := by
    rw [Option.filter_some, if_pos]
    simpa using h
  unfold Accounts.findUser
  simp only [Text.nonBlank?, Option.filter_none, hfilter]
  exact run_call (.users (.byPhone phone)) m

/-- Whoever has just opened an account logs in by the phone that was given, if no white space was trimmed
off it, and is not found by it otherwise. The session opens as long as its token expires within the
calendar. -/
theorem phones_are_looked_up_as_given {es : List Event} (h : Run s es m) {reply : Reply}
    (ho : a.opening? = some (door, r)) (hvalid : r.problems = [])
    (hok : (a.event s m).outcome = .ok reply) (hrows : reply.rows ≠ []) (now : Int) :
    let credentials : Credentials := ⟨none, some r.phone, r.password⟩
    ∃ u p, .user u ∈ reply.rows ∧ u ∈ (a.event s m).after.users.rows ∧ u.principal = .ok p ∧
      credentials.problems = [] ∧
      (Accounts.login s now door credentials).run Memory.handle (a.event s m).after =
        (if Text.trim r.phone = r.phone then Accounts.session s now p else .error .noUser,
          (a.event s m).after) ∧
      (Token.firstSecond ≤ now + s.ttl → now + s.ttl ≤ Token.lastSecond →
        ∃ token, Accounts.session s now p = .ok ⟨p, token⟩) := by
  intro credentials
  obtain ⟨hphone, hpassword⟩ := Registration.contact_of_problems hvalid
  obtain ⟨u, hshown, husers, hu, hdoor⟩ := Act.user_of_opening ho hok hrows
  have hafter := (h.act a).orderly
  have hmem : u ∈ (a.event s m).after.users.rows := by
    rw [husers]
    exact List.mem_append_right _ List.mem_cons_self
  obtain ⟨p, hp⟩ := hafter.principal u hmem
  refine ⟨u, p, (hshown u).2 rfl, hmem, hp, ?_, ?_, Accounts.exists_session⟩
  · exact FieldProblem.atLeast_eq_nil_iff.2 hpassword
  · rw [run_login (run_findUser_phone hphone)]
    by_cases htrim : Text.trim r.phone = r.phone
    · have hfind : Memory.find (a.event s m).after.users.rows (·.phone == r.phone) .noUser = .ok u := by
        rw [← htrim, ← hu.phone]
        exact find_own hafter.separate.2 hmem .noUser
      rw [hfind, if_pos htrim]
      exact congrArg (·, _) (Accounts.admitted_eq hdoor hu.password hp)
    · -- whatever phone is stored has been trimmed
      have hnone : (a.event s m).after.users.rows.find? (·.phone == r.phone) = none := by
        rw [List.find?_eq_none]
        intro v hv heq
        have hcanonical := (hafter.canonical v hv).2
        rw [beq_iff_eq.1 heq] at hcanonical
        exact htrim hcanonical
      rw [Memory.find, hnone, if_neg htrim]
      rfl

/-- One customer comes back by phone, the other one typed a blank before it. -/
theorem ada_comes_back_and_bob_does_not :
    let s : Accounts.Settings := ⟨"k", 60, 4⟩
    let ada : Act := .registerCustomer ⟨"Ada", "A", "ada@x.org", "100", "secret"⟩
    let bob : Act := .registerCustomer ⟨"Bob", "B", "bob@x.org", " 200", "secret"⟩
    let m := (ada.event s (Memory.empty ⟨0⟩)).after
    let m' := (bob.event s m).after
    (∃ u p token, u ∈ m.users.rows ∧ u.principal = .ok p ∧
      (Accounts.login s 0 .customer ⟨none, some "100", "secret"⟩).run Memory.handle m =
        (.ok ⟨p, token⟩, m)) ∧
    (Accounts.login s 0 .customer ⟨none, some " 200", "secret"⟩).run Memory.handle m' =
      (.error .noUser, m') := by
  intro s ada bob m m'
  have hstart : Run s [] (Memory.empty ⟨0⟩) := .start ⟨0⟩
  have opened {a : Act} {n : Memory}
      (h : (a.event s n).outcome.toOption.any (fun reply => !reply.rows.isEmpty) = true) :
      ∃ reply, (a.event s n).outcome = .ok reply ∧ reply.rows ≠ [] := by
    cases houtcome : (a.event s n).outcome with
    | ok reply =>
      rw [houtcome] at h
      exact ⟨reply, rfl, by simpa [Except.toOption] using h⟩
    | error e =>
      rw [houtcome] at h
      cases h
  refine ⟨?_, ?_⟩
  · obtain ⟨reply, hok, hrows⟩ : ∃ reply, (ada.event s (Memory.empty ⟨0⟩)).outcome = .ok reply ∧
        reply.rows ≠ [] := opened (by decide +kernel)
    obtain ⟨u, p, -, hu, hp, -, hlogin, hsession⟩ :=
      phones_are_looked_up_as_given hstart (rfl : ada.opening? = _) (by decide +kernel) hok hrows 0
    obtain ⟨token, htoken⟩ := hsession (by decide) (by decide)
    rw [if_pos (by decide +kernel), htoken] at hlogin
    exact ⟨u, p, token, hu, hp, hlogin⟩
  · obtain ⟨reply, hok, hrows⟩ : ∃ reply, (bob.event s m).outcome = .ok reply ∧
        reply.rows ≠ [] := opened (by decide +kernel)
    obtain ⟨u, p, -, -, -, -, hlogin, -⟩ :=
      phones_are_looked_up_as_given (hstart.act ada) (rfl : bob.opening? = _) (by decide +kernel)
        hok hrows 0
    rw [if_neg (by decide +kernel)] at hlogin
    exact hlogin

end Operation

open Http Operation Store in
/-- A customer is registered with a phone and refused with the same phone and password. -/
theorem registered_phone_can_be_refused :
    let s : Service := ⟨⟨"k", 60, 4⟩, ⟨0, 1⟩, 0⟩
    let phone := " 100"
    let post (path body : String) : Request :=
      ⟨"POST", path, [("content-type", "application/json")], body⟩
    let register := post "/api/auth/customer/register"
      ("\x7b\"firstName\":\"Ada\",\"lastName\":\"A\",\"email\":\"ada@x.org\",\"phone\":\"" ++ phone ++
        "\",\"password\":\"secret\"\x7d")
    let login := post "/api/auth/customer/login"
      ("\x7b\"phone\":\"" ++ phone ++ "\",\"password\":\"secret\"\x7d")
    let registered := (s.respond register).run Memory.handle (Memory.empty ⟨0⟩)
    registered.1.map (·.status) = .ok 201 ∧
      ((s.respond login).run Memory.handle registered.2).1 = .ok (.ofError .noUser) := by
  intro s phone post register login registered
  constructor
  · decide +kernel
  · decide +kernel

end Depot
