import Depot.Proofs.Effects

namespace Depot.Store

open Operation Record

instance : Record Profile where
  key := Profile.userId
  origin q := q
  born _ := True
  key_origin _ := rfl
  born_origin _ := Iff.rfl

namespace Memory

variable {m : Memory}

theorem profiles_insertCustomer (account : NewAccount) (m : Memory) :
    (handle (.users (.insertCustomer account)) m).2 = m ∨
      ∃ q : Profile, key q = m.users.sequence + 1 ∧
        (handle (.users (.insertCustomer account)) m).2.profiles = m.profiles ++ [q] ∧
        (handle (.users (.insertCustomer account)) m).2.users =
          m.users.insert (userRow m.users.nextId account .customer m.clock) := by
  simp only [handle, userCall, insertCustomer, insertUser]
  cases checkAccount m.users.rows account.email account.phone with
  | error e => exact .inl rfl
  | ok _ => exact .inr ⟨_, rfl, rfl, rfl⟩

theorem profiles_eq {c : Call} (hc : ∀ account, c ≠ .users (.insertCustomer account)) :
    (handle c m).2.profiles = m.profiles := by
  cases c with
  | organizations c =>
    cases c <;> simp only [handle, organizationCall, fetch, register]
    all_goals
      try split
      all_goals rfl
  | roles c =>
    cases c <;> simp only [handle, roleCall, fetch, addRole]
    all_goals
      try split
      all_goals rfl
  | users c =>
    cases c with
    | insertCustomer account => exact absurd rfl (hc account)
    | update u =>
      simp only [handle, userCall, updateUser]
      repeat' split
      all_goals rfl
    | _ =>
      simp only [handle, userCall, fetch, insertUser]
      try split
      all_goals rfl
  | profiles c =>
    cases c <;> simp only [handle, profileCall, fetch]
    all_goals
      try split
      all_goals rfl
  | containers c =>
    cases c <;> simp only [handle, containerCall, fetch, addContainer]
    all_goals
      try split
      all_goals rfl
  | pallets c =>
    cases c <;> simp only [handle, palletCall, fetch, addPallet]
    all_goals
      try split
      all_goals rfl

/-- Profiles stand in the order of their users, and these are customers, as far as they are still
there. -/
structure Attended (m : Memory) : Prop where
  ascending : (m.profiles.map key).Pairwise (· < ·)
  bounds : ∀ q ∈ m.profiles, key q ≤ m.users.sequence
  customer : ∀ q ∈ m.profiles, ∀ u ∈ m.users.rows, key u = key q → u.isCustomer

namespace Attended

theorem empty (clock : Timestamp) : (Memory.empty clock).Attended :=
  ⟨.nil, fun _ hq => absurd hq List.not_mem_nil, fun _ hq => absurd hq List.not_mem_nil⟩

theorem customer_of_old (h : m.Attended) {c : Call} (hc : m.Faithful c) {q : Profile}
    (hq : q ∈ m.profiles) {u : User} (hu : u ∈ (handle c m).2.users.rows) (hkey : key u = key q) :
    u.isCustomer := by
  obtain ⟨old, hold, heq⟩ | hnew := (handle_step c hc).users.exists hu
  · have hflag : old.isCustomer = u.isCustomer := (congrArg User.isCustomer heq :)
    exact hflag ▸ h.customer q hq old hold ((key_eq heq).trans hkey)
  · have hnumber := (addsUser_born hnew).1
    have hbound := h.bounds q hq
    omega

theorem kept (h : m.Attended) {c : Call} (hc : m.Faithful c)
    (hprofiles : (handle c m).2.profiles = m.profiles) : (handle c m).2.Attended := by
  have hsequence : m.users.sequence ≤ (handle c m).2.users.sequence :=
    (handle_step c hc).later.users.sequence
  refine ⟨by rw [hprofiles]; exact h.ascending, fun q hq => ?_, fun q hq u hu hkey => ?_⟩
  · rw [hprofiles] at hq
    have hbound := h.bounds q hq
    omega
  · rw [hprofiles] at hq
    exact h.customer_of_old hc hq hu hkey

theorem added (h : m.Attended) (hs : m.Sound) (account : NewAccount) :
    (handle (.users (.insertCustomer account)) m).2.Attended := by
  obtain hrest | ⟨q, hnumber, hprofiles, husers⟩ := profiles_insertCustomer account m
  · rwa [hrest]
  · refine ⟨?_, fun q' hq' => ?_, fun q' hq' u hu hkey => ?_⟩
    · rw [hprofiles, List.map_append, List.pairwise_append]
      refine ⟨h.ascending, List.pairwise_singleton _ _, fun k hk k' hk' => ?_⟩
      obtain ⟨old, hold, rfl⟩ := List.mem_map.1 hk
      obtain rfl : k' = key q := by simpa using hk'
      have hbound := h.bounds old hold
      omega
    · rw [husers, Table.insert]
      push_cast
      rw [hprofiles] at hq'
      obtain hold | hnew := List.mem_append.1 hq'
      · have hbound := h.bounds q' hold
        omega
      · obtain rfl := List.mem_singleton.1 hnew
        omega
    · rw [hprofiles] at hq'
      obtain hold | hnew := List.mem_append.1 hq'
      · have hfaithful : m.Faithful (.users (.insertCustomer account)) := trivial
        exact h.customer_of_old hfaithful hold hu hkey
      · obtain rfl := List.mem_singleton.1 hnew
        rw [husers] at hu
        obtain hu | hu := List.mem_append.1 hu
        · have hbound := (hs.users.bounds u hu).2
          omega
        · obtain rfl := List.mem_singleton.1 hu
          rfl

theorem call (h : m.Attended) (hs : m.Sound) {c : Call} (hc : m.Faithful c) :
    (handle c m).2.Attended := by
  by_cases hcustomer : ∃ account, c = .users (.insertCustomer account)
  · obtain ⟨account, rfl⟩ := hcustomer
    exact h.added hs account
  · exact h.kept hc (profiles_eq fun account heq => hcustomer ⟨account, heq⟩)

theorem nodup (h : m.Attended) : (m.profiles.map key).Nodup :=
  h.ascending.imp fun hlt => Int.ne_of_lt hlt

end Attended

end Memory

end Depot.Store

namespace Depot.Operation

open Store

theorem Run.attended {s : Accounts.Settings} {es : List Event} {m : Memory} (h : Run s es m) :
    m.Attended := by
  induction h with
  | start clock => exact .empty clock
  | tick _ now ih => exact ⟨ih.ascending, ih.bounds, ih.customer⟩
  | @act es m h a ih =>
    obtain ⟨e, -, hafter⟩ | ⟨reply, -, -, hafter⟩ | ⟨c, seen, hseen, -, hc, f, -, -, hafter⟩ :=
      a.event_cases s m
    · rwa [hafter]
    · rwa [hafter]
    · rw [hafter]
      exact ih.call h.sound (h.faithful hseen hc)

end Depot.Operation
