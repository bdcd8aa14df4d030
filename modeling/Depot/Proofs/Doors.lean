import Depot.Proofs.Noninterference
import Depot.Proofs.Sessions

namespace Depot.Operation

open Program Store

namespace Accounts

variable {s : Settings} {now : Int} {door : Door} {c : Credentials} {users : List User}

def named (users : List User) (c : Credentials) : Except Error User :=
  match Text.nonBlank? c.email with
  | some email => Memory.find users (·.email == normalizeEmail email) .noUser
  | none =>
    match c.phone.filter (!·.isEmpty) with
    | some phone => Memory.find users (·.phone == phone) .noUser
    | none => .error (.badRequest "email or phone is required")

theorem run_findUser_eq_named (m : Memory) (c : Credentials) :
    (findUser c).run Memory.handle m = (named m.users.rows c, m) := by
  unfold findUser named
  cases Text.nonBlank? c.email with
  | some email => exact run_call (.users (.byEmail (normalizeEmail email))) m
  | none =>
    cases c.phone.filter (!·.isEmpty) with
    | some phone => exact run_call (.users (.byPhone phone)) m
    | none => rfl

theorem named_bind_guard (h : Memory.Separate users) (own : User → Bool) (c : Credentials) :
    ((named users c).bind fun u => if own u then .ok u else .error .noUser) =
      named (users.filter own) c := by
  unfold named
  split
  · exact find_bind_guard h.1 own _ _
  · split
    · exact find_bind_guard h.2 own _ _
    · rfl

theorem guard_bind_admitted (s : Settings) (now : Int) (door : Door) (password : String) (u : User) :
    ((if door.admits u then .ok u else .error .noUser : Except Error User).bind
      (admitted s now door password)) = admitted s now door password u := by
  by_cases hdoor : door.admits u
  · rw [if_pos hdoor]
    rfl
  · rw [if_neg hdoor, admitted, if_neg hdoor]
    rfl

theorem named_bind_admitted (h : Memory.Separate users) (s : Settings) (now : Int) (door : Door)
    (c : Credentials) :
    (named users c).bind (admitted s now door c.password) =
      (named (users.filter door.admits) c).bind (admitted s now door c.password) := by
  rw [← named_bind_guard h]
  cases named users c with
  | error e => rfl
  | ok u => exact (guard_bind_admitted s now door c.password u).symm

theorem run_login_eq {m : Memory} (h : Memory.Separate m.users.rows) (s : Settings) (now : Int)
    (door : Door) (c : Credentials) :
    (login s now door c).run Memory.handle m =
      ((named (m.users.rows.filter door.admits) c).bind (admitted s now door c.password), m) := by
  rw [run_login (run_findUser_eq_named m c), named_bind_admitted h]

theorem run_login_of_unadmitted {m : Memory} (s : Settings) (now : Int)
    (h : (∃ u, ((findUser c).run Memory.handle m).1 = .ok u ∧ door.admits u = false) ∨
      ((findUser c).run Memory.handle m).1 = .error .noUser) (password : String) :
    (login s now door { c with password := password }).run Memory.handle m = (.error .noUser, m) := by
  have hfind : (findUser { c with password := password }).run Memory.handle m =
      (named m.users.rows c, m) := run_findUser_eq_named m _
  rw [run_login hfind]
  rw [run_findUser_eq_named m c] at h
  obtain ⟨u, hu, hdoor⟩ | hnone := h
  · have hu : named m.users.rows c = .ok u := hu
    rw [hu]
    simp only [Except.bind, admitted, hdoor, Bool.false_eq_true, if_false]
  · have hnone : named m.users.rows c = .error .noUser := hnone
    rw [hnone]
    rfl

end Accounts

/-- What a login says depends on no user whom the door is not for: it is the same in any two states that
agree on the users of the door's kind, and whoever is of another kind is answered like nobody. -/
theorem doors_tell_nothing_of_others {m₁ m₂ : Memory} (h₁ : Reachable m₁) (h₂ : Reachable m₂)
    {door : Accounts.Door} (h : m₁.users.rows.filter door.admits = m₂.users.rows.filter door.admits)
    (s : Accounts.Settings) (now : Int) (c : Credentials) :
    ((Accounts.login s now door c).run Memory.handle m₁).1 =
        ((Accounts.login s now door c).run Memory.handle m₂).1 ∧
      ((∃ u, ((Accounts.findUser c).run Memory.handle m₁).1 = .ok u ∧ door.admits u = false) ∨
          ((Accounts.findUser c).run Memory.handle m₁).1 = .error .noUser →
        ∀ password : String,
          ((Accounts.login s now door { c with password := password }).run Memory.handle m₁).1 =
            .error (.notFound "user not found")) := by
  refine ⟨?_, fun hc password => ?_⟩
  · rw [Accounts.run_login_eq h₁.orderly.accounts,
      Accounts.run_login_eq h₂.orderly.accounts, h]
  · rw [Accounts.run_login_of_unadmitted s now hc password]
    rfl

/-- There is an administrator or there is none: at the door for customers nobody can tell, not even by the
right password, and a customer is let in all the same. -/
theorem administrator_is_not_seen_through_another_door :
    ∃ m₁ m₂ : Memory, Reachable m₁ ∧ Reachable m₂ ∧ m₁.users.rows.map (·.isAdmin) = [false, true] ∧
      m₂.users.rows.map (·.isAdmin) = [false] ∧
      (∀ c, ((Accounts.login ⟨"k", 60, 4⟩ 0 .customer c).run Memory.handle m₁).1 =
        ((Accounts.login ⟨"k", 60, 4⟩ 0 .customer c).run Memory.handle m₂).1) ∧
      ((Accounts.login ⟨"k", 60, 4⟩ 0 .customer ⟨some "eve@x.org", none, "right!"⟩).run
        Memory.handle m₁).1 = .error (.notFound "user not found") := by
  let s : Accounts.Settings := ⟨"k", 60, 4⟩
  let e₁ := Act.event s (.registerCustomer ⟨"Ada", "A", "ada@x.org", "1", "secret"⟩) (Memory.empty ⟨0⟩)
  let e₂ := Act.event s (.registerAdmin ⟨"Eve", "E", "eve@x.org", "2", "right!"⟩) e₁.after
  let eve : User :=
    Memory.userRow 2 ⟨"Eve", "E", "eve@x.org", "2", .digest 4 (Password.key "right!")⟩ .admin ⟨0⟩
  let c : Credentials := ⟨some "eve@x.org", none, "guess"⟩
  have hrun : Run s [e₁] e₁.after := (Run.start ⟨0⟩).act _
  have h₁ : Reachable e₂.after := ⟨s, [e₂, e₁], hrun.act _⟩
  have h₂ : Reachable e₁.after := ⟨s, [e₁], hrun⟩
  have h : e₂.after.users.rows.filter Accounts.Door.customer.admits =
      e₁.after.users.rows.filter Accounts.Door.customer.admits := by decide +kernel
  have hfound : ((Accounts.findUser c).run Memory.handle e₂.after).1 = .ok eve := by decide +kernel
  refine ⟨e₂.after, e₁.after, h₁, h₂, by decide +kernel, by decide +kernel, fun c => ?_, ?_⟩
  · exact (doors_tell_nothing_of_others h₁ h₂ h s 0 c).1
  · exact (doors_tell_nothing_of_others h₁ h₂ h s 0 c).2 (.inl ⟨eve, hfound, rfl⟩) "right!"

end Depot.Operation
