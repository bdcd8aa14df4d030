import Depot.Proofs.Table

namespace Depot.Store

instance : Record Organization where
  key := Organization.id
  origin o := { o with name := "", website := none, isArchived := false }
  born o := o.code = sequenceCode Code.organization o.id
  key_origin _ := rfl
  born_origin _ := Iff.rfl

instance : Record Role where
  key := Role.id
  origin r := { r with name := "", permissions := [], isArchived := false }
  born r := r.code = sequenceCode Code.role r.id
  key_origin _ := rfl
  born_origin _ := Iff.rfl

instance : Record User where
  key := User.id
  origin u :=
    { u with firstName := "", lastName := "", email := "", phone := "", passwordHash := .text "" }
  born u := ∃ kind, u.flags = Principal.flags ⟨u.id, kind⟩
  key_origin _ := rfl
  born_origin _ := Iff.rfl

instance : Record Container where
  key := Container.id
  origin c := { c with description := none, isArchived := false }
  born c := c.code = sequenceCode Code.container c.id ∧ ∃ o, c.organizationId = some o
  key_origin _ := rfl
  born_origin _ := Iff.rfl

instance : Record Pallet where
  key := Pallet.id
  origin x := { x with description := none, containerId := none, isArchived := false }
  born x := x.code = sequenceCode Code.pallet x.id ∧ ∃ o, x.organizationId = some o
  key_origin _ := rfl
  born_origin _ := Iff.rfl

section Origins

open Record

theorem role_owner {r r' : Role} (h : origin r = origin r') :
    r.organizationId = r'.organizationId := (congrArg Role.organizationId h :)

theorem role_isOrgAdmin {r r' : Role} (h : origin r = origin r') : r.isOrgAdmin = r'.isOrgAdmin :=
  (congrArg Role.isOrgAdmin h :)

theorem user_flags {u u' : User} (h : origin u = origin u') : u.flags = u'.flags :=
  (congrArg User.flags h :)

theorem user_role {u u' : User} (h : origin u = origin u') : u.roleId = u'.roleId :=
  (congrArg User.roleId h :)

theorem user_owner {u u' : User} (h : origin u = origin u') :
    u.organizationId = u'.organizationId := (congrArg User.organizationId h :)

theorem user_isMember {u u' : User} (h : origin u = origin u') : u.isMember = u'.isMember :=
  (congrArg User.isMember h :)

theorem container_owner {c c' : Container} (h : origin c = origin c') :
    c.organizationId = c'.organizationId := (congrArg Container.organizationId h :)

theorem pallet_owner {x x' : Pallet} (h : origin x = origin x') :
    x.organizationId = x'.organizationId := (congrArg Pallet.organizationId h :)

end Origins

namespace Memory

open Record

inductive AddsOrganization (m : Memory) : Call → Organization → Prop
  | register (new : NewOrganization) (owner : NewAccount) :
    AddsOrganization m (.organizations (.register new owner))
      (organizationRow m.organizations.nextId new m.clock)

inductive AddsRole (m : Memory) : Call → Role → Prop
  | insert (new : NewRole) :
    AddsRole m (.roles (.insert new)) (roleRow m.roles.nextId new m.clock)
  | register (new : NewOrganization) (owner : NewAccount) :
    AddsRole m (.organizations (.register new owner))
      (roleRow m.roles.nextId ⟨Role.ownerName, [], true, m.organizations.nextId⟩ m.clock)

inductive AddsUser (m : Memory) : Call → User → Prop
  | insert (new : NewUser) :
    AddsUser m (.users (.insert new)) (userRow m.users.nextId new.account new.kind m.clock)
  | customer (account : NewAccount) :
    AddsUser m (.users (.insertCustomer account)) (userRow m.users.nextId account .customer m.clock)
  | register (new : NewOrganization) (owner : NewAccount) :
    AddsUser m (.organizations (.register new owner))
      (userRow m.users.nextId owner (.member m.organizations.nextId m.roles.nextId) m.clock)

inductive AddsContainer (m : Memory) : Call → Container → Prop
  | insert (new : NewContainer) :
    AddsContainer m (.containers (.insert new))
      (containerRow m.containers.nextId (Uid.drawn m.drawn) new m.clock)

inductive AddsPallet (m : Memory) : Call → Pallet → Prop
  | insert (new : NewPallet) :
    AddsPallet m (.pallets (.insert new))
      (palletRow m.pallets.nextId (Uid.drawn m.drawn) new m.clock)

/-- The tables after a call. -/
structure Step (m : Memory) (c : Call) (m' : Memory) : Prop where
  organizations : m.organizations.Step (m.AddsOrganization c) m'.organizations
  roles : m.roles.Step (m.AddsRole c) m'.roles
  users : m.users.Step (m.AddsUser c) m'.users
  containers : m.containers.Step (m.AddsContainer c) m'.containers
  pallets : m.pallets.Step (m.AddsPallet c) m'.pallets
  drawn : m.drawn ≤ m'.drawn

/-- Only an organization is written as a whole; the others keep what cannot be changed in any case.
-/
def Faithful (m : Memory) : Call → Prop
  | .organizations (.update o) =>
    ∀ row ∈ m.organizations.rows, row.id = o.id → origin o = origin row
  | _ => True

variable {m : Memory}

theorem Step.refl (c : Call) : m.Step c m := ⟨.refl, .refl, .refl, .refl, .refl, Nat.le_refl _⟩

theorem organizationCall_step (c : OrganizationCall) (h : m.Faithful (.organizations c)) :
    m.Step (.organizations c) (m.organizationCall c).2 := by
  cases c with
  | byId | byCode | list => exact .refl _
  | many ids =>
    simp only [organizationCall, fetch]
    split <;> exact ⟨.refl, .refl, .refl, .refl, .refl, Nat.le_refl _⟩
  | register new owner =>
    simp only [organizationCall, register]
    split
    · exact .refl _
    · exact ⟨.insert (.register new owner), .insert (.register new owner),
        .insert (.register new owner), .refl, .refl, Nat.le_refl _⟩
  | update o =>
    simp only [organizationCall]
    split
    · exact .refl _
    · rename_i row rows hrows
      exact ⟨.modify hrows fun x hx hid => h x hx (by simpa using hid), .refl, .refl, .refl, .refl,
        Nat.le_refl _⟩
  | delete id =>
    simp only [organizationCall]
    split
    · exact .refl _
    · rename_i rows hrows
      exact ⟨.without hrows, .refl, .refl, .refl, .refl, Nat.le_refl _⟩

theorem roleCall_step (c : RoleCall) : m.Step (.roles c) (m.roleCall c).2 := by
  cases c with
  | byId | byCode | list | ofOrganization => exact .refl _
  | many ids =>
    simp only [roleCall, fetch]
    split <;> exact ⟨.refl, .refl, .refl, .refl, .refl, Nat.le_refl _⟩
  | insert new => exact ⟨.refl, .insert (.insert new), .refl, .refl, .refl, Nat.le_refl _⟩
  | update r =>
    simp only [roleCall]
    split
    · exact .refl _
    · rename_i row rows hrows
      exact ⟨.refl, .modify hrows fun _ _ _ => rfl, .refl, .refl, .refl, Nat.le_refl _⟩
  | delete id =>
    simp only [roleCall]
    split
    · exact .refl _
    · rename_i rows hrows
      exact ⟨.refl, .without hrows, .refl, .refl, .refl, Nat.le_refl _⟩

theorem userCall_step (c : UserCall) : m.Step (.users c) (m.userCall c).2 := by
  cases c with
  | byId | byEmail | byPhone | list | ofOrganization => exact .refl _
  | many ids =>
    simp only [userCall, fetch]
    split <;> exact ⟨.refl, .refl, .refl, .refl, .refl, Nat.le_refl _⟩
  | insert new =>
    simp only [userCall, insertUser]
    split
    · exact .refl _
    · exact ⟨.refl, .refl, .insert (.insert new), .refl, .refl, Nat.le_refl _⟩
  | insertCustomer account =>
    simp only [userCall, insertCustomer, insertUser]
    cases checkAccount m.users.rows account.email account.phone with
    | error e => exact .refl _
    | ok _ => exact ⟨.refl, .refl, .insert (.customer account), .refl, .refl, Nat.le_succ _⟩
  | update u =>
    simp only [userCall, updateUser]
    split
    · exact .refl _
    split
    · exact .refl _
    split
    · exact .refl _
    · rename_i row rows hrows
      exact ⟨.refl, .refl, .modify hrows fun _ _ _ => rfl, .refl, .refl, Nat.le_refl _⟩
  | updatePassword id hash =>
    simp only [userCall]
    split
    · exact .refl _
    · rename_i row rows hrows
      exact ⟨.refl, .refl, .modify hrows fun _ _ _ => rfl, .refl, .refl, Nat.le_refl _⟩
  | delete id =>
    simp only [userCall]
    split
    · exact .refl _
    · rename_i rows hrows
      exact ⟨.refl, .refl, .without hrows, .refl, .refl, Nat.le_refl _⟩

theorem profileCall_step (c : ProfileCall) : m.Step (.profiles c) (m.profileCall c).2 := by
  cases c with
  | byUser => exact .refl _
  | many ids =>
    simp only [profileCall, fetch]
    split <;> exact ⟨.refl, .refl, .refl, .refl, .refl, Nat.le_refl _⟩

theorem containerCall_step (c : ContainerCall) :
    m.Step (.containers c) (m.containerCall c).2 := by
  cases c with
  | byId | byUid | byCode | list | ofOrganization => exact .refl _
  | many ids =>
    simp only [containerCall, fetch]
    split <;> exact ⟨.refl, .refl, .refl, .refl, .refl, Nat.le_refl _⟩
  | insert new => exact ⟨.refl, .refl, .refl, .insert (.insert new), .refl, Nat.le_succ _⟩
  | update row =>
    simp only [containerCall]
    split
    · exact .refl _
    · rename_i row rows hrows
      exact ⟨.refl, .refl, .refl, .modify hrows fun _ _ _ => rfl, .refl, Nat.le_refl _⟩
  | delete id =>
    simp only [containerCall]
    split
    · exact .refl _
    · rename_i rows hrows
      exact ⟨.refl, .refl, .refl, .without hrows, .refl, Nat.le_refl _⟩

theorem palletCall_step (c : PalletCall) : m.Step (.pallets c) (m.palletCall c).2 := by
  cases c with
  | byId | byUid | byCode | list | ofOrganization | ofContainer => exact .refl _
  | ofContainers ids =>
    simp only [palletCall, fetch]
    split <;> exact ⟨.refl, .refl, .refl, .refl, .refl, Nat.le_refl _⟩
  | insert new => exact ⟨.refl, .refl, .refl, .refl, .insert (.insert new), Nat.le_succ _⟩
  | update x =>
    simp only [palletCall]
    split
    · exact .refl _
    · rename_i row rows hrows
      exact ⟨.refl, .refl, .refl, .refl, .modify hrows fun _ _ _ => rfl, Nat.le_refl _⟩
  | delete id =>
    simp only [palletCall]
    split
    · exact .refl _
    · rename_i rows hrows
      exact ⟨.refl, .refl, .refl, .refl, .without hrows, Nat.le_refl _⟩

theorem handle_step (c : Call) (h : m.Faithful c) : m.Step c (handle c m).2 := by
  cases c with
  | organizations c => exact organizationCall_step c h
  | roles c => exact roleCall_step c
  | users c => exact userCall_step c
  | profiles c => exact profileCall_step c
  | containers c => exact containerCall_step c
  | pallets c => exact palletCall_step c

/-- Every table is as it should be. -/
structure Sound (m : Memory) : Prop where
  organizations : m.organizations.Sound
  roles : m.roles.Sound
  users : m.users.Sound
  containers : m.containers.Sound
  pallets : m.pallets.Sound

/-- A later state of the store. -/
structure Later (m m' : Memory) : Prop where
  organizations : m.organizations.Later m'.organizations
  roles : m.roles.Later m'.roles
  users : m.users.Later m'.users
  containers : m.containers.Later m'.containers
  pallets : m.pallets.Later m'.pallets

theorem addsOrganization_born {c : Call} {o : Organization} (h : m.AddsOrganization c o) :
    key o = m.organizations.sequence + 1 ∧ born o := by
  cases h
  exact ⟨rfl, rfl⟩

theorem addsRole_born {c : Call} {r : Role} (h : m.AddsRole c r) :
    key r = m.roles.sequence + 1 ∧ born r := by
  cases h <;> exact ⟨rfl, rfl⟩

theorem addsUser_born {c : Call} {u : User} (h : m.AddsUser c u) :
    key u = m.users.sequence + 1 ∧ born u := by
  cases h with
  | insert new => exact ⟨rfl, new.kind, rfl⟩
  | customer => exact ⟨rfl, .customer, rfl⟩
  | register => exact ⟨rfl, .member m.organizations.nextId m.roles.nextId, rfl⟩

theorem addsContainer_born {c : Call} {x : Container} (h : m.AddsContainer c x) :
    key x = m.containers.sequence + 1 ∧ born x := by
  cases h
  exact ⟨rfl, rfl, _, rfl⟩

theorem addsPallet_born {c : Call} {x : Pallet} (h : m.AddsPallet c x) :
    key x = m.pallets.sequence + 1 ∧ born x := by
  cases h
  exact ⟨rfl, rfl, _, rfl⟩

theorem Sound.empty (clock : Timestamp) : (Memory.empty clock).Sound :=
  ⟨.empty, .empty, .empty, .empty, .empty⟩

theorem Sound.step {c : Call} {m' : Memory} (h : m.Sound) (hs : m.Step c m') : m'.Sound where
  organizations := h.organizations.step hs.organizations fun _ => addsOrganization_born
  roles := h.roles.step hs.roles fun _ => addsRole_born
  users := h.users.step hs.users fun _ => addsUser_born
  containers := h.containers.step hs.containers fun _ => addsContainer_born
  pallets := h.pallets.step hs.pallets fun _ => addsPallet_born

theorem Later.refl : m.Later m := ⟨.refl, .refl, .refl, .refl, .refl⟩

theorem Later.trans {m' m'' : Memory} (h : m.Later m') (h' : m'.Later m'') : m.Later m'' where
  organizations := h.organizations.trans h'.organizations
  roles := h.roles.trans h'.roles
  users := h.users.trans h'.users
  containers := h.containers.trans h'.containers
  pallets := h.pallets.trans h'.pallets

theorem Step.later {c : Call} {m' : Memory} (hs : m.Step c m') : m.Later m' where
  organizations := hs.organizations.later fun _ h => (addsOrganization_born h).1
  roles := hs.roles.later fun _ h => (addsRole_born h).1
  users := hs.users.later fun _ h => (addsUser_born h).1
  containers := hs.containers.later fun _ h => (addsContainer_born h).1
  pallets := hs.pallets.later fun _ h => (addsPallet_born h).1

/-- A call writes the table that it names. Only the registration of an organization writes two more. -/
structure Frame (m : Memory) (c : Call) (m' : Memory) : Prop where
  organizations : c.table ≠ .organizations → m'.organizations = m.organizations
  roles : c.table ≠ .roles → (∀ new owner, c ≠ .organizations (.register new owner)) →
    m'.roles = m.roles
  users : c.table ≠ .users → (∀ new owner, c ≠ .organizations (.register new owner)) →
    m'.users = m.users
  containers : c.table ≠ .containers → m'.containers = m.containers
  pallets : c.table ≠ .pallets → m'.pallets = m.pallets

theorem handle_frame (c : Call) : m.Frame c (handle c m).2 := by
  cases c with
  | organizations c =>
    have frame {m' : Memory} (hroles : m'.roles = m.roles) (husers : m'.users = m.users)
        (hcontainers : m'.containers = m.containers) (hpallets : m'.pallets = m.pallets) :
        m.Frame (.organizations c) m' :=
      ⟨fun h => absurd rfl h, fun _ _ => hroles, fun _ _ => husers, fun _ => hcontainers,
        fun _ => hpallets⟩
    cases c with
    | register new owner =>
      simp only [handle, organizationCall, register]
      split
      · exact frame rfl rfl rfl rfl
      · exact ⟨fun h => absurd rfl h, fun _ h => absurd rfl (h new owner),
          fun _ h => absurd rfl (h new owner), fun _ => rfl, fun _ => rfl⟩
    | _ =>
      simp only [handle, organizationCall, fetch]
      try split
      all_goals exact frame rfl rfl rfl rfl
  | roles c =>
    cases c <;> simp only [handle, roleCall, fetch, addRole]
    all_goals
      try split
      all_goals
        exact ⟨fun _ => rfl, fun h => absurd rfl h, fun _ _ => rfl, fun _ => rfl, fun _ => rfl⟩
  | users c =>
    have frame {m' : Memory} (horganizations : m'.organizations = m.organizations)
        (hroles : m'.roles = m.roles) (hcontainers : m'.containers = m.containers)
        (hpallets : m'.pallets = m.pallets) : m.Frame (.users c) m' :=
      ⟨fun _ => horganizations, fun _ _ => hroles, fun h => absurd rfl h, fun _ => hcontainers,
        fun _ => hpallets⟩
    cases c with
    | insertCustomer account =>
      simp only [handle, userCall, insertCustomer, insertUser]
      cases checkAccount m.users.rows account.email account.phone
      all_goals exact frame rfl rfl rfl rfl
    | update u =>
      simp only [handle, userCall, updateUser]
      repeat' split
      all_goals exact frame rfl rfl rfl rfl
    | _ =>
      simp only [handle, userCall, fetch, insertUser]
      try split
      all_goals exact frame rfl rfl rfl rfl
  | profiles c =>
    cases c <;> simp only [handle, profileCall, fetch]
    all_goals
      try split
      all_goals exact ⟨fun _ => rfl, fun _ _ => rfl, fun _ _ => rfl, fun _ => rfl, fun _ => rfl⟩
  | containers c =>
    cases c <;> simp only [handle, containerCall, fetch, addContainer]
    all_goals
      try split
      all_goals
        exact ⟨fun _ => rfl, fun _ _ => rfl, fun _ _ => rfl, fun h => absurd rfl h, fun _ => rfl⟩
  | pallets c =>
    cases c <;> simp only [handle, palletCall, fetch, addPallet]
    all_goals
      try split
      all_goals
        exact ⟨fun _ => rfl, fun _ _ => rfl, fun _ _ => rfl, fun _ => rfl, fun h => absurd rfl h⟩

theorem pallet_place {c : Call} {x : Pallet} (hx : x ∈ (handle c m).2.pallets.rows) :
    (∃ y ∈ m.pallets.rows, origin y = origin x ∧ y.containerId = x.containerId) ∨
      m.AddsPallet c x ∨
      ∃ y ∈ m.pallets.rows, ∃ z, c = .pallets (.update z) ∧ y.id = z.id ∧ origin y = origin x ∧
        x.containerId = z.containerId := by
  by_cases hc : c.table = .pallets
  swap
  · rw [(handle_frame c).pallets hc] at hx
    exact .inl ⟨x, hx, rfl, rfl⟩
  cases c with
  | pallets c =>
    cases c with
    | insert new =>
      obtain hx | hx := List.mem_append.1 hx
      · exact .inl ⟨x, hx, rfl, rfl⟩
      · obtain rfl := List.mem_singleton.1 hx
        exact .inr (.inl (.insert new))
    | update z =>
      simp only [handle, palletCall] at hx
      split at hx
      · exact .inl ⟨x, hx, rfl, rfl⟩
      · rename_i row rows hrows
        obtain hx | ⟨y, hy, hid, rfl⟩ := of_mem_modifyFirst? hrows hx
        · exact .inl ⟨x, hx, rfl, rfl⟩
        · exact .inr (.inr ⟨y, hy, z, rfl, by simpa using hid, rfl, rfl⟩)
    | delete id =>
      simp only [handle, palletCall] at hx
      split at hx
      · exact .inl ⟨x, hx, rfl, rfl⟩
      · rename_i rows hrows
        rw [withoutId_eq_some hrows] at hx
        exact .inl ⟨x, List.mem_of_mem_filter hx, rfl, rfl⟩
    | ofContainers ids =>
      simp only [handle, palletCall, fetch] at hx
      split at hx <;> exact .inl ⟨x, hx, rfl, rfl⟩
    | _ => exact .inl ⟨x, hx, rfl, rfl⟩
  | _ => cases hc

/-- Where a user after a call comes from. -/
inductive UserAfter (m : Memory) (c : Call) (u : User) : Prop
  | old (h : u ∈ m.users.rows)
  | added (h : m.AddsUser c u)
  | updated {v w : User} (hv : v ∈ m.users.rows) (hc : c = .users (.update w)) (hid : v.id = w.id)
    (hu : u = { v with
      firstName := w.firstName, lastName := w.lastName, email := w.email, phone := w.phone })
  | rehashed {v : User} {hash : PasswordHash} (hv : v ∈ m.users.rows)
    (hc : c = .users (.updatePassword v.id hash)) (hu : u = { v with passwordHash := hash })

theorem user_after {c : Call} {u : User} (hu : u ∈ (handle c m).2.users.rows) :
    m.UserAfter c u := by
  have insert {account : NewAccount} {kind : Kind}
      (hnew : m.AddsUser c (userRow m.users.nextId account kind m.clock))
      (hrows : (handle c m).2.users.rows = m.users.rows ∨
        (handle c m).2.users = m.users.insert (userRow m.users.nextId account kind m.clock)) :
      m.UserAfter c u := by
    obtain hrows | hrows := hrows
    · rw [hrows] at hu
      exact .old hu
    · rw [hrows] at hu
      obtain hu | hu := List.mem_append.1 hu
      · exact .old hu
      · obtain rfl := List.mem_singleton.1 hu
        exact .added hnew
  by_cases hc : c.table = .users
  · cases c with
    | users c =>
      cases c with
      | insert new =>
        refine insert (.insert new) ?_
        simp only [handle, userCall, insertUser]
        split
        · exact .inl rfl
        · exact .inr rfl
      | insertCustomer account =>
        refine insert (.customer account) ?_
        simp only [handle, userCall, insertCustomer, insertUser]
        cases checkAccount m.users.rows account.email account.phone with
        | error e => exact .inl rfl
        | ok _ => exact .inr rfl
      | update w =>
        simp only [handle, userCall, updateUser] at hu
        split at hu
        · exact .old hu
        split at hu
        · exact .old hu
        split at hu
        · exact .old hu
        · rename_i row rows hrows
          obtain hu | ⟨v, hv, hid, heq⟩ := of_mem_modifyFirst? hrows hu
          · exact .old hu
          · exact .updated hv rfl (by simpa using hid) heq
      | updatePassword id hash =>
        simp only [handle, userCall] at hu
        split at hu
        · exact .old hu
        · rename_i row rows hrows
          obtain hu | ⟨v, hv, hid, heq⟩ := of_mem_modifyFirst? hrows hu
          · exact .old hu
          · obtain rfl : v.id = id := by simpa using hid
            exact .rehashed hv rfl heq
      | delete id =>
        simp only [handle, userCall] at hu
        split at hu
        · exact .old hu
        · rename_i rows hrows
          rw [withoutId_eq_some hrows] at hu
          exact .old (List.mem_of_mem_filter hu)
      | many ids =>
        simp only [handle, userCall, fetch] at hu
        split at hu <;> exact .old hu
      | _ => exact .old hu
    | _ => cases hc
  · by_cases hr : ∀ new owner, c ≠ .organizations (.register new owner)
    · rw [(handle_frame c).users hc hr] at hu
      exact .old hu
    · push Not at hr
      obtain ⟨new, owner, rfl⟩ := hr
      refine insert (.register new owner) ?_
      simp only [handle, organizationCall, register]
      cases checkAccount m.users.rows owner.email owner.phone with
      | error e => exact .inl rfl
      | ok _ => exact .inr rfl

/-- Where an organization after a call comes from. -/
inductive OrganizationAfter (m : Memory) (c : Call) (o : Organization) : Prop
  | old (h : o ∈ m.organizations.rows)
  | added (h : m.AddsOrganization c o)
  | updated (hc : c = .organizations (.update o))

theorem organization_after {c : Call} {o : Organization}
    (ho : o ∈ (handle c m).2.organizations.rows) : m.OrganizationAfter c o := by
  by_cases hc : c.table = .organizations
  swap
  · rw [(handle_frame c).organizations hc] at ho
    exact .old ho
  cases c with
  | organizations c =>
    cases c with
    | register new owner =>
      simp only [handle, organizationCall, register] at ho
      split at ho
      · exact .old ho
      · obtain ho | ho := List.mem_append.1 ho
        · exact .old ho
        · obtain rfl := List.mem_singleton.1 ho
          exact .added (.register new owner)
    | update w =>
      simp only [handle, organizationCall] at ho
      split at ho
      · exact .old ho
      · rename_i row rows hrows
        obtain ho | ⟨v, -, -, rfl⟩ := of_mem_modifyFirst? hrows ho
        · exact .old ho
        · exact .updated rfl
    | delete id =>
      simp only [handle, organizationCall] at ho
      split at ho
      · exact .old ho
      · rename_i rows hrows
        rw [withoutId_eq_some hrows] at ho
        exact .old (List.mem_of_mem_filter ho)
    | many ids =>
      simp only [handle, organizationCall, fetch] at ho
      split at ho <;> exact .old ho
    | _ => exact .old ho
  | _ => cases hc

/-- Where a role after a call comes from. -/
inductive RoleAfter (m : Memory) (c : Call) (r : Role) : Prop
  | old (h : r ∈ m.roles.rows)
  | added (h : m.AddsRole c r)
  | updated {v w : Role} (hv : v ∈ m.roles.rows) (hc : c = .roles (.update w)) (hid : v.id = w.id)
    (hr : r = { v with name := w.name, permissions := w.permissions, isArchived := w.isArchived })

theorem role_after {c : Call} {r : Role} (hr : r ∈ (handle c m).2.roles.rows) :
    m.RoleAfter c r := by
  by_cases hc : c.table = .roles
  · cases c with
    | roles c =>
      cases c with
      | insert new =>
        obtain hr | hr := List.mem_append.1 hr
        · exact .old hr
        · obtain rfl := List.mem_singleton.1 hr
          exact .added (.insert new)
      | update w =>
        simp only [handle, roleCall] at hr
        split at hr
        · exact .old hr
        · rename_i row rows hrows
          obtain hr | ⟨v, hv, hid, heq⟩ := of_mem_modifyFirst? hrows hr
          · exact .old hr
          · exact .updated hv rfl (by simpa using hid) heq
      | delete id =>
        simp only [handle, roleCall] at hr
        split at hr
        · exact .old hr
        · rename_i rows hrows
          rw [withoutId_eq_some hrows] at hr
          exact .old (List.mem_of_mem_filter hr)
      | many ids =>
        simp only [handle, roleCall, fetch] at hr
        split at hr <;> exact .old hr
      | _ => exact .old hr
    | _ => cases hc
  · by_cases hregister : ∀ new owner, c ≠ .organizations (.register new owner)
    · rw [(handle_frame c).roles hc hregister] at hr
      exact .old hr
    · push Not at hregister
      obtain ⟨new, owner, rfl⟩ := hregister
      simp only [handle, organizationCall, register] at hr
      split at hr
      · exact .old hr
      · obtain hr | hr := List.mem_append.1 hr
        · exact .old hr
        · obtain rfl := List.mem_singleton.1 hr
          exact .added (.register new owner)

theorem register_role {new : NewOrganization} {owner : NewAccount} {u : User}
    (hu : u ∈ (handle (.organizations (.register new owner)) m).2.users.rows) :
    u ∈ m.users.rows ∨
      ∃ r ∈ (handle (.organizations (.register new owner)) m).2.roles.rows,
        u.roleId = some r.id ∧ u.organizationId = some r.organizationId := by
  simp only [handle, organizationCall, register] at hu ⊢
  cases hcheck : checkAccount m.users.rows owner.email owner.phone with
  | error e =>
    simp only [hcheck] at hu
    exact .inl hu
  | ok _ =>
    simp only [hcheck] at hu
    obtain hu | hu := List.mem_append.1 hu
    · exact .inl hu
    · obtain rfl := List.mem_singleton.1 hu
      exact .inr ⟨_, List.mem_append_right _ List.mem_cons_self, rfl, rfl⟩

end Memory

end Depot.Store
