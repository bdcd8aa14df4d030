import Depot.Proofs.Concealment
import Depot.Proofs.Registrations
import Depot.Proofs.Traceless

namespace Depot

namespace Password

variable {cost : Int} {p q : String} {h : PasswordHash}

theorem hash_eq_ok : hash cost p = .ok h ↔ (4 ≤ cost ∧ cost ≤ 31) ∧ h = .digest cost (key p) := by
  unfold hash
  by_cases hcost : 4 ≤ cost ∧ cost ≤ 31
  · simp [hcost, eq_comm]
  · simp [hcost]

theorem verify_eq_decide (hhash : hash cost p = .ok h) :
    verify q h = .ok (decide (key q = key p)) := by
  obtain ⟨-, rfl⟩ := hash_eq_ok.1 hhash
  simp [verify, beq_eq_decide]

theorem key_length (p : String) : (key p).length = 72 := by simp [key]

theorem key_take (p : String) :
    (key p).take ((Text.utf8 p).length + 1) = (Text.utf8 p ++ [0]).take 72 := by
  apply List.ext_getElem
  · simp [key_length, Nat.min_comm]
  · intro i hi hi'
    have hlt : i < (Text.utf8 p ++ [0]).length := by
      simp only [List.length_take] at hi'
      omega
    have hmod : i % (Text.utf8 p ++ [0]).length = i := Nat.mod_eq_of_lt hlt
    simp only [key, List.getElem_take, List.getElem_map, List.getElem_range, hmod]
    exact (List.getElem_eq_getD 0).symm

theorem key_takeWhile (hp : 0 ∉ Text.utf8 p) :
    (key p).takeWhile (· ≠ 0) = (Text.utf8 p).take 72 := by
  have hbytes : ∀ b ∈ (Text.utf8 p).take 72, decide (b ≠ 0) = true := by
    intro b hb
    have hmem := List.mem_of_mem_take hb
    exact decide_eq_true fun heq => hp (heq ▸ hmem)
  have hkey := List.take_append_drop ((Text.utf8 p).length + 1) (key p)
  rw [key_take] at hkey
  by_cases hshort : (Text.utf8 p).length < 72
  · have htake : (Text.utf8 p).take 72 = Text.utf8 p := List.take_of_length_le (by omega)
    have hzero : (Text.utf8 p ++ [0]).take 72 = Text.utf8 p ++ [0] :=
      List.take_of_length_le (by simp; omega)
    rw [htake] at hbytes ⊢
    rw [← hkey, hzero, List.append_assoc, List.takeWhile_append_of_pos hbytes]
    simp
  · have hrest : (key p).drop ((Text.utf8 p).length + 1) = [] :=
      List.drop_of_length_le (by rw [key_length]; omega)
    have hlong : (Text.utf8 p ++ [0]).take 72 = (Text.utf8 p).take 72 :=
      List.take_append_of_le_length (by omega)
    rw [← hkey, hrest, List.append_nil, hlong]
    exact List.takeWhile_eq_self_iff.2 hbytes

theorem key_eq_key_iff (hp : 0 ∉ Text.utf8 p) (hq : 0 ∉ Text.utf8 q) :
    key p = key q ↔ (Text.utf8 p).take 72 = (Text.utf8 q).take 72 := by
  constructor
  · intro hkey
    rw [← key_takeWhile hp, ← key_takeWhile hq, hkey]
  · intro htake
    have hlength := congrArg List.length htake
    simp only [List.length_take] at hlength
    by_cases hshort : (Text.utf8 p).length < 72
    · rw [List.take_of_length_le (by omega), List.take_of_length_le (by omega)] at htake
      rw [key, key, htake]
    · have hlong {r : String} (h : 72 ≤ (Text.utf8 r).length) : key r = (Text.utf8 r).take 72 := by
        have hzero : (Text.utf8 r ++ [0]).take 72 = (Text.utf8 r).take 72 :=
          List.take_append_of_le_length h
        rw [← hzero, ← key_take]
        exact (List.take_of_length_le (by rw [key_length]; omega)).symm
      rw [hlong (by omega), hlong (by omega), htake]

end Password

namespace Text

theorem length_le_utf8 (s : String) : s.length ≤ (utf8 s).length := by
  rw [utf8, List.length_flatMap, ← String.length_toList]
  induction s.toList with
  | nil => exact Nat.le_refl 0
  | cons c cs ih =>
    have hc : 0 < (String.utf8EncodeChar c).length := by
      rw [String.length_utf8EncodeChar]
      exact c.utf8Size_pos
    simp only [List.map_cons, List.sum_cons, List.length_cons]
    omega

theorem length_utf8_of_isAscii {s : String} (h : isAscii s.toList) :
    (utf8 s).length = s.length := by
  rw [utf8, List.length_flatMap, ← String.length_toList]
  generalize s.toList = cs at h
  induction cs with
  | nil => rfl
  | cons c cs ih =>
    simp only [isAscii, List.all_cons, Bool.and_eq_true, decide_eq_true_eq] at h
    have hc : (String.utf8EncodeChar c).length = 1 := by
      rw [String.length_utf8EncodeChar, Char.utf8Size_eq_one_iff]
      exact UInt32.le_iff_toNat_le.2 (Nat.le_of_lt_succ h.1)
    have hcs := ih h.2
    simp only [List.map_cons, List.sum_cons, List.length_cons]
    omega

end Text

namespace FieldProblem

variable {x : FieldProblem} {field value : String}

theorem mem_atLeast {n : Nat} {message : String} :
    x ∈ atLeast n field message value ↔ value.length < n ∧ x = ⟨field, "length", some message⟩ := by
  unfold atLeast
  split
  · rename_i h
    simp [Nat.not_lt.2 h]
  · rename_i h
    simp [Nat.not_le.1 h]

theorem field_of_mem_mailbox (h : x ∈ mailbox field value) : x.field = field := by
  unfold mailbox at h
  split at h
  · exact absurd h List.not_mem_nil
  · obtain rfl := List.mem_singleton.1 h
    rfl

end FieldProblem

def Registration.PasswordPasses (r : Registration) : Prop := ∀ x ∈ r.problems, x.field ≠ "password"

instance (r : Registration) : Decidable r.PasswordPasses :=
  inferInstanceAs (Decidable (∀ x ∈ r.problems, x.field ≠ "password"))

theorem Registration.passwordPasses_iff (r : Registration) :
    r.PasswordPasses ↔ 6 ≤ r.password.length := by
  unfold PasswordPasses problems
  constructor
  · intro h
    by_contra hshort
    refine h ⟨"password", "length", some "Password must have at least 6 characters"⟩ ?_ rfl
    exact List.mem_append_right _ (FieldProblem.mem_atLeast.2 ⟨Nat.lt_of_not_le hshort, rfl⟩)
  · intro hlength x hx
    simp only [List.mem_append, FieldProblem.mem_atLeast] at hx
    obtain (((⟨-, rfl⟩ | ⟨-, rfl⟩) | hx) | ⟨-, rfl⟩) | ⟨hshort, -⟩ := hx
    · decide
    · decide
    · rw [FieldProblem.field_of_mem_mailbox hx]
      decide
    · decide
    · omega

def User.rehashed (id : Id) (hash : PasswordHash) (u : User) : User :=
  if u.id = id then { u with passwordHash := hash } else u

namespace User

variable {id : Id} {hash : PasswordHash} {u : User}

theorem rehashed_self : u.rehashed u.id hash = { u with passwordHash := hash } := if_pos rfl

theorem rehashed_of_ne (h : u.id ≠ id) : u.rehashed id hash = u := if_neg h

@[simp] theorem rehashed_email : (u.rehashed id hash).email = u.email := by
  unfold rehashed
  split <;> rfl

@[simp] theorem rehashed_phone : (u.rehashed id hash).phone = u.phone := by
  unfold rehashed
  split <;> rfl

end User

namespace Store.Memory

def rehashed (m : Memory) (id : Id) (hash : PasswordHash) : Memory :=
  { m with users := { m.users with rows := m.users.rows.map (User.rehashed id hash) } }

variable {m : Memory} {u : User} {hash : PasswordHash}

theorem handle_updatePassword (hs : m.Sound) (hu : u ∈ m.users.rows) :
    handle (.users (.updatePassword u.id hash)) m = (.ok (), m.rehashed u.id hash) := by
  have hmodify := modifyFirst?_eq_map (g := fun v : User => { v with passwordHash := hash })
    hs.users.nodup hu
  have hkeys : (modifyFirst? (fun v : User => v.id == u.id)
      (fun v : User => { v with passwordHash := hash }) m.users.rows) = _ := hmodify
  simp only [handle, userCall, hkeys]
  rfl

end Store.Memory

namespace Operation

open Program Store

variable {s : Accounts.Settings} {m : Memory} {u : User} {p : Principal} {old new : String}
variable {hash : PasswordHash}

theorem run_findUser_rehashed (c : Credentials) (id : Id) (hash : PasswordHash) :
    (Accounts.findUser c).run Memory.handle (m.rehashed id hash) =
      (((Accounts.findUser c).run Memory.handle m).1.map (User.rehashed id hash),
        m.rehashed id hash) := by
  unfold Accounts.findUser
  split
  · rename_i email _
    rw [run_call, run_call]
    refine congrArg (·, m.rehashed id hash) (Memory.find_map _ fun v => ?_)
    rw [User.rehashed_email]
  · split
    · rename_i phone _
      rw [run_call, run_call]
      refine congrArg (·, m.rehashed id hash) (Memory.find_map _ fun v => ?_)
      rw [User.rehashed_phone]
    · rfl

namespace Accounts

/-- The hash that a change of the password puts in place of the old one. -/
def renewal (s : Settings) (u : User) (old new : String) : Except Error PasswordHash :=
  (checkPassword old u).bind fun _ =>
    if (Text.utf8 new).length < 6 then
      .error (.badRequest "password must have at least 6 characters")
    else if old = new then
      .error (.badRequest "new password must be different from the current one")
    else Password.hash s.hashCost new

theorem renewal_eq_ok : renewal s u old new = .ok hash ↔
    checkPassword old u = .ok () ∧ 6 ≤ (Text.utf8 new).length ∧ old ≠ new ∧
      Password.hash s.hashCost new = .ok hash := by
  unfold renewal
  cases checkPassword old u with
  | error e => exact ⟨nofun, fun h => nomatch h.1⟩
  | ok _ =>
    by_cases hlength : (Text.utf8 new).length < 6
    · simp [Except.bind, hlength, Nat.not_le.2 hlength]
    · by_cases heq : old = new
      · simp [Except.bind, hlength, heq]
      · simp [Except.bind, hlength, heq, Nat.not_lt.1 hlength]

end Accounts

theorem run_changePassword (hs : m.Sound) (hu : u ∈ m.users.rows) (hid : p.id = u.id)
    (s : Accounts.Settings) (old new : String) :
    (Accounts.changePassword s p old new).run Memory.handle m =
      match Accounts.renewal s u old new with
      | .ok hash => (.ok (), m.rehashed u.id hash)
      | .error e => (.error e, m) := by
  have hfind : (call (.users (.byId p.id))).run Memory.handle m = (.ok u, m) := by
    rw [run_call, hid]
    exact congrArg (·, m) (find_own hs.users.nodup hu Error.noUser)
  simp only [Accounts.changePassword, Accounts.renewal, bind_eq, run_bind, hfind, lift_eq,
    run_ofExcept, throw_eq, fail_bind]
  cases Accounts.checkPassword old u with
  | error e => rfl
  | ok _ =>
    simp only [Except.bind]
    by_cases hlength : (Text.utf8 new).length < 6
    · simp only [hlength, if_true, run_fail]
    · by_cases heq : old = new
      · simp only [hlength, heq, if_true, if_false, run_fail]
      · simp only [hlength, heq, if_false]
        cases Password.hash s.hashCost new with
        | error e => rfl
        | ok hash =>
          simp only [ofExcept_ok, done_bind]
          exact (run_call _ m).trans (Memory.handle_updatePassword hs hu)

theorem event_changePassword (hs : m.Sound) (hu : u ∈ m.users.rows) (hid : p.id = u.id)
    (s : Accounts.Settings) (old new : String) :
    ((Act.job p (.changePassword old new)).event s m).outcome =
        (Accounts.renewal s u old new).map (fun _ => ⟨[], none⟩) ∧
      ∀ hash, Accounts.renewal s u old new = .ok hash →
        ((Act.job p (.changePassword old new)).event s m).after = m.rehashed u.id hash := by
  have hrun := run_changePassword hs hu hid s old new
  simp only [Act.event, Act.perform, Job.perform, bind_eq, pure_eq, run_bind, hrun]
  cases Accounts.renewal s u old new with
  | error e => exact ⟨rfl, nofun⟩
  | ok hash =>
    refine ⟨rfl, fun hash' h => ?_⟩
    cases h
    rfl

theorem Act.Licensed.exists_password {seen : List Memory} {a : Act} {c : Call}
    (hc : a.Licensed s seen c) (hu : m.AddsUser c u) :
    ∃ password, Password.hash s.hashCost password = .ok u.passwordHash := by
  have made {r : Registration} {account : NewAccount} (h : Accounts.account s r = .ok account) :
      ∃ password, Password.hash s.hashCost password = .ok account.passwordHash := by
    obtain ⟨hash, hhash, rfl⟩ := Accounts.account_eq_ok h
    exact ⟨_, hhash⟩
  cases hu with
  | insert new =>
    cases hc with
    | read hc => exact hc.elim
    | seedAdmin haccount | registerAdmin haccount => exact made haccount
    | registerMember _ _ _ _ _ _ haccount => exact made haccount
    | job hj => cases hj
  | customer account =>
    cases hc with
    | read hc => exact hc.elim
    | registerCustomer haccount => exact made haccount
    | job hj => cases hj
  | register new owner =>
    cases hc with
    | read hc => exact hc.elim
    | registerOrganization haccount => exact made haccount
    | job hj => cases hj

theorem Run.hashed {es : List Event} (h : Run s es m) {u : User} (hu : u ∈ m.users.rows) :
    ∃ password, Password.hash s.hashCost password = .ok u.passwordHash := by
  induction h generalizing u with
  | start clock => exact absurd hu List.not_mem_nil
  | tick _ now ih => exact ih hu
  | @act es m h a ih =>
    obtain hafter | ⟨c, seen, hseen, hread, hc, x, reply, hx, hrows, hreply, hafter⟩ :=
      a.event_writes s m
    · rw [hafter] at hu
      exact ih hu
    · rw [hafter] at hu
      cases Memory.user_after hu with
      | old hu => exact ih hu
      | added hnew => exact hc.exists_password hnew
      | updated hv _ _ heq =>
        subst heq
        obtain ⟨password, hhash⟩ := ih hv
        exact ⟨password, hhash⟩
      | @rehashed v hash hv hcall heq =>
        generalize v.id = id at hcall
        subst heq hcall
        cases hc with
        | read hc => exact absurd hc hread
        | job hj =>
          cases hj with
          | changePassword _ _ _ _ _ hhash => exact ⟨_, hhash⟩

theorem checkPassword_eq {cost : Int} {password given : String}
    (hhash : Password.hash cost password = .ok u.passwordHash) :
    Accounts.checkPassword given u =
      if Password.key given = Password.key password then .ok ()
      else .error Accounts.wrongPassword := by
  unfold Accounts.checkPassword
  rw [Password.verify_eq_decide hhash]
  by_cases hkey : Password.key given = Password.key password
  · simp [hkey, Bind.bind, Except.bind]
  · simp [hkey, Bind.bind, Except.bind]

theorem run_login_of_hash {cost : Int} {password : String} {now : Int} {door : Accounts.Door}
    {c : Credentials} (hfind : (Accounts.findUser c).run Memory.handle m = (.ok u, m))
    (hdoor : door.admits u) (hp : u.principal = .ok p)
    (hhash : Password.hash cost password = .ok u.passwordHash) :
    (Accounts.login s now door c).run Memory.handle m =
      (if Password.key c.password = Password.key password then Accounts.session s now p
        else .error Accounts.wrongPassword, m) := by
  rw [run_login hfind]
  refine congrArg (·, m) ?_
  simp only [Except.bind, Accounts.admitted, if_pos hdoor, checkPassword_eq hhash, hp]
  by_cases hkey : Password.key c.password = Password.key password
  · simp only [hkey, if_true]
  · simp only [hkey, if_false]

variable {es : List Event} {reply : Reply}

theorem run_login_rehashed (s : Accounts.Settings) (now : Int) {cost : Int} {door : Accounts.Door}
    {c : Credentials} (hfind : (Accounts.findUser c).run Memory.handle m = (.ok u, m))
    (hdoor : door.admits u) (hp : u.principal = .ok p) (hhash : Password.hash cost new = .ok hash) :
    (Accounts.login s now door c).run Memory.handle (m.rehashed u.id hash) =
      (if Password.key c.password = Password.key new then Accounts.session s now p
        else .error Accounts.wrongPassword, m.rehashed u.id hash) := by
  have hfind' : (Accounts.findUser c).run Memory.handle (m.rehashed u.id hash) =
      (.ok { u with passwordHash := hash }, m.rehashed u.id hash) := by
    rw [run_findUser_rehashed, hfind]
    exact congrArg (fun v => (Except.ok v, _)) User.rehashed_self
  have hdoor' : door.admits { u with passwordHash := hash } := by
    cases door <;> exact hdoor
  exact run_login_of_hash hfind' hdoor' hp hhash

theorem run_login_of_ne (hs : m.Sound) (hu : u ∈ m.users.rows) {now : Int} {door : Accounts.Door}
    {c : Credentials} (hfind : (Accounts.findUser c).run Memory.handle m ≠ (.ok u, m)) :
    ((Accounts.login s now door c).run Memory.handle (m.rehashed u.id hash)).1 =
      ((Accounts.login s now door c).run Memory.handle m).1 := by
  have hfind' := run_findUser_rehashed (m := m) c u.id hash
  obtain ⟨v, hv, hfound⟩ | ⟨e, hfound, -⟩ := run_findUser (m := m) c
  · have hne : v.id ≠ u.id := by
      intro hid
      obtain rfl := hs.users.eq_of_key hv hu hid
      exact hfind hfound
    have hsame : Except.map (User.rehashed u.id hash) (.ok v : Except Error User) = .ok v :=
      congrArg Except.ok (User.rehashed_of_ne hne)
    rw [hfound, hsame] at hfind'
    rw [run_login hfind', run_login hfound]
  · rw [hfound] at hfind'
    rw [run_login hfind', run_login hfound]
    rfl

/-- A change of the password puts the key of the new one in place of the key of the old one. So an old
password stays good if it has the key of the new one, which is to say the same first 72 bytes; for
everybody else nothing changes. -/
theorem changed_password_is_told_by_its_key (h : Run s es m) {u : User} (hu : u ∈ m.users.rows)
    {q : Principal} (hq : u.principal = .ok q) {cost : Int} {password : String}
    (hpassword : Password.hash cost password = .ok u.passwordHash) {old new : String}
    (hok : ((Act.job q (.changePassword old new)).event s m).outcome = .ok reply) :
    let n := ((Act.job q (.changePassword old new)).event s m).after
    Password.key old = Password.key password ∧
    (∀ now door c, (Accounts.findUser c).run Memory.handle m = (.ok u, m) → door.admits u →
      ((Accounts.login s now door { c with password := new }).run Memory.handle n =
          (Accounts.session s now q, n)) ∧
        (Accounts.login s now door { c with password := password }).run Memory.handle n =
          (if Password.key password = Password.key new then Accounts.session s now q
            else .error Accounts.wrongPassword, n)) ∧
    (0 ∉ Text.utf8 password → 0 ∉ Text.utf8 new →
      (Password.key password = Password.key new ↔
        (Text.utf8 password).take 72 = (Text.utf8 new).take 72)) ∧
    (∀ now, Token.firstSecond ≤ now + s.ttl → now + s.ttl ≤ Token.lastSecond →
      ∃ token, Accounts.session s now q = .ok ⟨q, token⟩) ∧
    ∀ now door c, (Accounts.findUser c).run Memory.handle m ≠ (.ok u, m) →
      ((Accounts.login s now door c).run Memory.handle n).1 =
        ((Accounts.login s now door c).run Memory.handle m).1 := by
  intro n
  have hid : q.id = u.id := by
    have hflags := flags_of_principal (h.sound.users.born u hu) hq
    exact (congrArg Flags.id hflags).symm
  obtain ⟨houtcome, hafter⟩ := event_changePassword h.sound hu hid s old new
  cases hrenewal : Accounts.renewal s u old new with
  | error e =>
    rw [houtcome, hrenewal] at hok
    cases hok
  | ok hash =>
    obtain ⟨hold, -, -, hhash⟩ := Accounts.renewal_eq_ok.1 hrenewal
    have hn : n = m.rehashed u.id hash := hafter hash hrenewal
    rw [hn]
    refine ⟨?_, fun now door c hfind hdoor => ⟨?_, ?_⟩, Password.key_eq_key_iff,
      fun now => Accounts.exists_session, fun now door c hfind => run_login_of_ne h.sound hu hfind⟩
    · rw [checkPassword_eq hpassword] at hold
      by_contra hkey
      rw [if_neg hkey] at hold
      cases hold
    · have hlogin := run_login_rehashed (c := { c with password := new }) s now hfind hdoor hq hhash
      rwa [if_pos rfl] at hlogin
    · exact run_login_rehashed s now hfind hdoor hq hhash

/-- Ada changes her password: the new one lets her in, the old one does not. -/
theorem short_password_is_replaced :
    ∃ (s : Accounts.Settings) (es : List Event) (m n : Memory) (u : User) (q : Principal),
      Run s es m ∧ u ∈ m.users.rows ∧ u.principal = .ok q ∧
        n = ((Act.job q (.changePassword "secret" "geheim")).event s m).after ∧
        (Accounts.login s 0 .customer ⟨some "ada@x.org", none, "geheim"⟩).run Memory.handle n =
          (Accounts.session s 0 q, n) ∧
        (Accounts.login s 0 .customer ⟨some "ada@x.org", none, "secret"⟩).run Memory.handle n =
          (.error Accounts.wrongPassword, n) := by
  let s : Accounts.Settings := ⟨"k", 60, 4⟩
  let opening : Act := .registerCustomer ⟨"Ada", "A", "ada@x.org", "1", "secret"⟩
  let m : Memory := (opening.event s (Memory.empty ⟨0⟩)).after
  let account : NewAccount := ⟨"Ada", "A", "ada@x.org", "1", .digest 4 (Password.key "secret")⟩
  let u : User := Memory.userRow 1 account .customer ⟨0⟩
  let q : Principal := ⟨1, .customer⟩
  have hrun : Run s _ m := (Run.start ⟨0⟩).act opening
  have hu : u ∈ m.users.rows := by decide +kernel
  have hok : ((Act.job q (.changePassword "secret" "geheim")).event s m).outcome =
      .ok ⟨[], none⟩ := by decide +kernel
  have hfind : (Accounts.findUser ⟨some "ada@x.org", none, "secret"⟩).run Memory.handle m =
      (.ok u, m) := by
    have hfound : ((Accounts.findUser ⟨some "ada@x.org", none, "secret"⟩).run Memory.handle m).1 =
        .ok u := by decide +kernel
    obtain ⟨v, -, hv⟩ | ⟨e, he, -⟩ := run_findUser (m := m) ⟨some "ada@x.org", none, "secret"⟩
    · rw [hv] at hfound ⊢
      exact congrArg (·, m) hfound
    · rw [he] at hfound
      cases hfound
  obtain ⟨-, hlogins, hbytes, -, -⟩ := changed_password_is_told_by_its_key hrun hu (q := q) rfl
    (Password.hash_eq_ok.2 ⟨by decide, rfl⟩) hok
  have hkey : Password.key "secret" ≠ Password.key "geheim" := by
    rw [Ne, hbytes (by decide +kernel) (by decide +kernel)]
    decide +kernel
  obtain ⟨hnew, hold⟩ := hlogins 0 .customer _ hfind rfl
  rw [if_neg hkey] at hold
  exact ⟨s, _, m, _, u, q, hrun, hu, rfl, rfl, hnew, hold⟩

/-- A letter is changed behind the 72 bytes that count: the change is accepted, and both passwords let
their owner in. -/
theorem long_password_outlives_its_change :
    ∃ (s : Accounts.Settings) (es : List Event) (m : Memory) (u : User) (q : Principal)
      (password new : String),
      Run s es m ∧ u ∈ m.users.rows ∧ u.principal = .ok q ∧
        Password.hash s.hashCost password = .ok u.passwordHash ∧ password ≠ new ∧
        ((Act.job q (.changePassword password new)).event s m).outcome = .ok ⟨[], none⟩ ∧
        ((Accounts.login s 0 .customer ⟨some "ada@x.org", none, password⟩).run Memory.handle
          ((Act.job q (.changePassword password new)).event s m).after).1.isOk := by
  let s : Accounts.Settings := ⟨"k", 60, 4⟩
  let password : String := String.ofList (List.replicate 72 'a') ++ "b"
  let new : String := String.ofList (List.replicate 72 'a') ++ "c"
  let account : NewAccount := ⟨"Ada", "A", "ada@x.org", "1", .digest 4 (Password.key password)⟩
  have hrun := (Run.start (s := s) ⟨0⟩).act
    (.registerCustomer ⟨"Ada", "A", "ada@x.org", "1", password⟩)
  refine ⟨s, _, _, Memory.userRow 1 account .customer ⟨0⟩, ⟨1, .customer⟩, password, new, hrun, ?_, rfl,
    rfl, ?_, ?_, ?_⟩
  · decide +kernel
  · decide +kernel
  · decide +kernel
  · decide +kernel

theorem Run.outcome_changePassword (h : Run s es m) {u : User} (hu : u ∈ m.users.rows)
    {q : Principal} (hq : q.id = u.id) {old new : String}
    (hold : Accounts.checkPassword old u = .ok ()) (hne : old ≠ new) :
    ((Text.utf8 new).length < 6 → ((Act.job q (.changePassword old new)).event s m).outcome =
        .error (.badRequest "password must have at least 6 characters")) ∧
      (6 ≤ (Text.utf8 new).length →
        ((Act.job q (.changePassword old new)).event s m).outcome = .ok ⟨[], none⟩) := by
  obtain ⟨houtcome, -⟩ := event_changePassword h.sound hu hq s old new
  rw [houtcome]
  constructor
  · intro hlength
    simp only [Accounts.renewal, hold, Except.bind, if_pos hlength, Except.map]
  · intro hlength
    -- the cost of the settings has made a hash before
    obtain ⟨password, hhash⟩ := h.hashed hu
    obtain ⟨hcost, -⟩ := Password.hash_eq_ok.1 hhash
    rw [Accounts.renewal_eq_ok.2 ⟨hold, hlength, hne, Password.hash_eq_ok.2 ⟨hcost, rfl⟩⟩]
    rfl

/-- A change of the password is accepted by the bytes of the new one, a registration by its characters. -/
theorem new_passwords_are_counted_in_bytes (h : Run s es m) {u : User} (hu : u ∈ m.users.rows)
    {q : Principal} (hq : q.id = u.id) {old new : String}
    (hold : Accounts.checkPassword old u = .ok ()) (hne : old ≠ new) {r : Registration}
    (hr : r.password = new) :
    let accepted := ((Act.job q (.changePassword old new)).event s m).outcome = .ok ⟨[], none⟩
    (accepted ↔ 6 ≤ (Text.utf8 new).length) ∧
    (r.PasswordPasses ↔ 6 ≤ new.length) ∧
    (r.PasswordPasses → accepted) ∧
    ((accepted ↔ r.PasswordPasses) ↔ ¬ (new.length < 6 ∧ 6 ≤ (Text.utf8 new).length)) ∧
    (Text.isAscii new.toList → (accepted ↔ r.PasswordPasses)) ∧
    (¬ accepted → ((Act.job q (.changePassword old new)).event s m).outcome =
      .error (.badRequest "password must have at least 6 characters")) := by
  intro accepted
  obtain ⟨hshort, hlong⟩ := h.outcome_changePassword hu hq hold hne
  have haccepted : accepted ↔ 6 ≤ (Text.utf8 new).length := by
    refine ⟨fun haccepted => ?_, hlong⟩
    by_contra hlength
    exact nomatch haccepted.symm.trans (hshort (Nat.lt_of_not_le hlength))
  have hpasses : r.PasswordPasses ↔ 6 ≤ new.length := by
    rw [r.passwordPasses_iff, hr]
  have hbytes := Text.length_le_utf8 new
  refine ⟨haccepted, hpasses, ?_, ?_, ?_, ?_⟩
  · rw [haccepted, hpasses]
    omega
  · rw [haccepted, hpasses]
    omega
  · intro hascii
    rw [haccepted, hpasses, Text.length_utf8_of_isAscii hascii]
  · intro hrefused
    rw [haccepted] at hrefused
    exact hshort (Nat.lt_of_not_le hrefused)

/-- Six letters are enough for both rules. -/
theorem six_letters_pass_both_rules :
    ∃ (s : Accounts.Settings) (es : List Event) (m : Memory) (u : User) (q : Principal)
      (r : Registration),
      Run s es m ∧ u ∈ m.users.rows ∧ q.id = u.id ∧ r.password = "geheim" ∧ r.PasswordPasses ∧
        ((Act.job q (.changePassword "secret" "geheim")).event s m).outcome = .ok ⟨[], none⟩ := by
  let s : Accounts.Settings := ⟨"k", 60, 4⟩
  let opening : Act := .registerCustomer ⟨"Ada", "A", "ada@x.org", "1", "secret"⟩
  let m : Memory := (opening.event s (Memory.empty ⟨0⟩)).after
  let account : NewAccount := ⟨"Ada", "A", "ada@x.org", "1", .digest 4 (Password.key "secret")⟩
  let u : User := Memory.userRow 1 account .customer ⟨0⟩
  let r : Registration := ⟨"Bob", "B", "bob@x.org", "2", "geheim"⟩
  have hrun : Run s _ m := (Run.start ⟨0⟩).act opening
  have hu : u ∈ m.users.rows := by decide +kernel
  have hold : Accounts.checkPassword "secret" u = .ok () := by decide +kernel
  obtain ⟨haccepted, hpasses, -⟩ := new_passwords_are_counted_in_bytes hrun hu
    (q := ⟨1, .customer⟩) rfl hold (by decide) (r := r) rfl
  exact ⟨s, _, m, u, ⟨1, .customer⟩, r, hrun, hu, rfl, rfl, hpasses.2 (by decide),
    haccepted.2 (by decide)⟩

/-- Three letters of two bytes each are enough for a change, and too few for a registration. -/
theorem three_letters_pass_one_rule :
    ∃ (s : Accounts.Settings) (es : List Event) (m : Memory) (u : User) (q : Principal)
      (r : Registration),
      Run s es m ∧ u ∈ m.users.rows ∧ q.id = u.id ∧
        Accounts.checkPassword "secret" u = .ok () ∧ r.password = "ééé" ∧ ¬ r.PasswordPasses ∧
        ((Act.job q (.changePassword "secret" "ééé")).event s m).outcome = .ok ⟨[], none⟩ := by
  let s : Accounts.Settings := ⟨"k", 60, 4⟩
  let account : NewAccount := ⟨"Ada", "A", "ada@x.org", "1", .digest 4 (Password.key "secret")⟩
  have hrun := (Run.start (s := s) ⟨0⟩).act
    (.registerCustomer ⟨"Ada", "A", "ada@x.org", "1", "secret"⟩)
  refine ⟨s, _, _, Memory.userRow 1 account .customer ⟨0⟩, ⟨1, .customer⟩,
    ⟨"Bob", "B", "bob@x.org", "2", "ééé"⟩, hrun, ?_, rfl, ?_, rfl, ?_, ?_⟩
  all_goals decide +kernel

end Operation

end Depot
