import Depot.Proofs.Effects

namespace Depot.Operation

open Store

/-- What becomes of a table. -/
inductive Footprint where
  | kept
  | added
  | removed (id : Id)
  | changed (id : Id)

/-- The rows of one kind before and after; what is added is one of the rows answered. -/
def Footprint.Done (answer : List Row) (type : RowType) (rows rows' : List Row) : Footprint → Prop
  | .kept => rows' = rows
  | .added => ∃ row ∈ answer, rows' = rows ++ [row]
  | .removed id => ∃ before row after, row.key = (type, id) ∧ rows = before ++ row :: after ∧
      rows' = before ++ after
  | .changed id => ∃ before row row' after, row.key = (type, id) ∧ row'.key = (type, id) ∧
      rows = before ++ row :: after ∧ rows' = before ++ row' :: after

namespace Footprint.Done

variable {α : Type} {answer : List Row} {type : RowType} {rows rows' : List α} {a : α} {id : Id}

theorem rest {rows : List Row} : kept.Done answer type rows rows := rfl

theorem insert {f : α → Row} (h : f a ∈ answer) :
    added.Done answer type (rows.map f) ((rows ++ [a]).map f) :=
  ⟨f a, h, by simp⟩

theorem modify {f : α → Row} {key : α → Id} {g : α → α}
    (h : modifyFirst? (key · == id) g rows = some (a, rows')) (hf : ∀ x, (f x).key = (type, key x))
    (hg : ∀ x, key x = id → key (g x) = id) :
    (changed id).Done answer type (rows.map f) (rows'.map f) := by
  obtain ⟨before, x, after, rfl, hx, -, -, rfl⟩ := modifyFirst?_eq_some h
  have hid : key x = id := by simpa using hx
  refine ⟨before.map f, f x, f (g x), after.map f, ?_, ?_, by simp, by simp⟩
  · rw [hf, hid]
  · rw [hf, hg x hid]

theorem without {f : α → Row} {key : α → Id} (hnodup : (rows.map key).Nodup)
    (h : Memory.withoutId rows key id = some rows') (hf : ∀ x, (f x).key = (type, key x)) :
    (removed id).Done answer type (rows.map f) (rows'.map f) := by
  obtain ⟨before, x, after, rfl, rfl, rfl⟩ := withoutId_split h hnodup
  exact ⟨before.map f, f x, after.map f, hf x, by simp, by simp⟩

end Footprint.Done

end Depot.Operation

namespace Depot.Store

open Operation

def Memory.rowsOf (m : Memory) : RowType → List Row
  | .organization => m.organizations.rows.map .organization
  | .role => m.roles.rows.map .role
  | .user => m.users.rows.map .user
  | .profile => m.profiles.map .profile
  | .container => m.containers.rows.map .container
  | .pallet => m.pallets.rows.map .pallet

def Call.footprint : Call → RowType → Footprint
  | .organizations (.register _ _), .organization | .organizations (.register _ _), .role
  | .organizations (.register _ _), .user => .added
  | .organizations (.update o), .organization => .changed o.id
  | .organizations (.delete id), .organization => .removed id
  | .roles (.insert _), .role => .added
  | .roles (.update r), .role => .changed r.id
  | .roles (.delete id), .role => .removed id
  | .users (.insert _), .user => .added
  | .users (.insertCustomer _), .user | .users (.insertCustomer _), .profile => .added
  | .users (.update u), .user => .changed u.id
  | .users (.updatePassword id _), .user => .changed id
  | .users (.delete id), .user => .removed id
  | .containers (.insert _), .container => .added
  | .containers (.update c), .container => .changed c.id
  | .containers (.delete id), .container => .removed id
  | .pallets (.insert _), .pallet => .added
  | .pallets (.update x), .pallet => .changed x.id
  | .pallets (.delete id), .pallet => .removed id
  | _, _ => .kept

namespace Memory

variable {m : Memory} {type : RowType}

theorem organizationCall_footprint (hs : m.Sound) {c : OrganizationCall}
    (hc : ¬ (Call.organizations c).IsRead) {x : c.Answer} (hx : (m.organizationCall c).1 = .ok x) :
    ((Call.organizations c).footprint type).Done ((Call.organizations c).rows x) type
      (m.rowsOf type) ((m.organizationCall c).2.rowsOf type) := by
  cases c with
  | register new owner =>
    simp only [organizationCall, register] at hx ⊢
    cases hcheck : checkAccount m.users.rows owner.email owner.phone with
    | error e =>
      rw [hcheck] at hx
      cases hx
    | ok _ =>
      rw [hcheck] at hx
      cases hx
      cases type with
      | organization | role | user => exact .insert (by simp [Call.rows])
      | profile | container | pallet => exact .rest
  | update o =>
    simp only [organizationCall] at hx ⊢
    split at hx
    · cases hx
    · rename_i row rows hrows
      cases type with
      | organization => exact .modify hrows (fun _ => rfl) fun _ _ => rfl
      | _ => exact .rest
  | delete id =>
    simp only [organizationCall] at hx ⊢
    split at hx
    · cases hx
    · rename_i rows hrows
      cases type with
      | organization => exact .without hs.organizations.nodup hrows fun _ => rfl
      | _ => exact .rest
  | _ => exact absurd trivial hc

theorem roleCall_footprint (hs : m.Sound) {c : RoleCall} (hc : ¬ (Call.roles c).IsRead)
    {x : c.Answer} (hx : (m.roleCall c).1 = .ok x) :
    ((Call.roles c).footprint type).Done ((Call.roles c).rows x) type (m.rowsOf type)
      ((m.roleCall c).2.rowsOf type) := by
  cases c with
  | insert new =>
    cases hx
    cases type with
    | role => exact .insert (by simp [Call.rows])
    | _ => exact .rest
  | update r =>
    simp only [roleCall] at hx ⊢
    split at hx
    · cases hx
    · rename_i row rows hrows
      cases type with
      | role => exact .modify hrows (fun _ => rfl) fun _ h => h
      | _ => exact .rest
  | delete id =>
    simp only [roleCall] at hx ⊢
    split at hx
    · cases hx
    · rename_i rows hrows
      cases type with
      | role => exact .without hs.roles.nodup hrows fun _ => rfl
      | _ => exact .rest
  | _ => exact absurd trivial hc

theorem userCall_footprint (hs : m.Sound) {c : UserCall} (hc : ¬ (Call.users c).IsRead)
    {x : c.Answer} (hx : (m.userCall c).1 = .ok x) :
    ((Call.users c).footprint type).Done ((Call.users c).rows x) type (m.rowsOf type)
      ((m.userCall c).2.rowsOf type) := by
  cases c with
  | insert new =>
    simp only [userCall, insertUser] at hx ⊢
    cases hcheck : checkAccount m.users.rows new.account.email new.account.phone with
    | error e =>
      rw [hcheck] at hx
      cases hx
    | ok _ =>
      rw [hcheck] at hx
      cases hx
      cases type with
      | user => exact .insert (by simp [Call.rows])
      | _ => exact .rest
  | insertCustomer account =>
    simp only [userCall, insertCustomer, insertUser] at hx ⊢
    cases hcheck : checkAccount m.users.rows account.email account.phone with
    | error e =>
      rw [hcheck] at hx
      cases hx
    | ok _ =>
      rw [hcheck] at hx
      cases hx
      cases type with
      | user => exact .insert (by simp [Call.rows])
      | profile => exact .insert (by simp [Call.rows])
      | _ => exact .rest
  | update u =>
    simp only [userCall, updateUser] at hx ⊢
    split at hx
    · cases hx
    split at hx
    · cases hx
    split at hx
    · cases hx
    · rename_i hemail hphone _ row rows hrows
      rw [if_neg hemail, if_neg hphone]
      cases type with
      | user => exact .modify hrows (fun _ => rfl) fun _ h => h
      | _ => exact .rest
  | updatePassword id hash =>
    simp only [userCall] at hx ⊢
    split at hx
    · cases hx
    · rename_i row rows hrows
      cases type with
      | user => exact .modify hrows (fun _ => rfl) fun _ h => h
      | _ => exact .rest
  | delete id =>
    simp only [userCall] at hx ⊢
    split at hx
    · cases hx
    · rename_i rows hrows
      cases type with
      | user => exact .without hs.users.nodup hrows fun _ => rfl
      | _ => exact .rest
  | _ => exact absurd trivial hc

theorem containerCall_footprint (hs : m.Sound) {c : ContainerCall}
    (hc : ¬ (Call.containers c).IsRead) {x : c.Answer} (hx : (m.containerCall c).1 = .ok x) :
    ((Call.containers c).footprint type).Done ((Call.containers c).rows x) type (m.rowsOf type)
      ((m.containerCall c).2.rowsOf type) := by
  cases c with
  | insert new =>
    cases hx
    cases type with
    | container => exact .insert (by simp [Call.rows])
    | _ => exact .rest
  | update row =>
    simp only [containerCall] at hx ⊢
    split at hx
    · cases hx
    · rename_i row rows hrows
      cases type with
      | container => exact .modify hrows (fun _ => rfl) fun _ h => h
      | _ => exact .rest
  | delete id =>
    simp only [containerCall] at hx ⊢
    split at hx
    · cases hx
    · rename_i rows hrows
      cases type with
      | container => exact .without hs.containers.nodup hrows fun _ => rfl
      | _ => exact .rest
  | _ => exact absurd trivial hc

theorem palletCall_footprint (hs : m.Sound) {c : PalletCall} (hc : ¬ (Call.pallets c).IsRead)
    {x : c.Answer} (hx : (m.palletCall c).1 = .ok x) :
    ((Call.pallets c).footprint type).Done ((Call.pallets c).rows x) type (m.rowsOf type)
      ((m.palletCall c).2.rowsOf type) := by
  cases c with
  | insert new =>
    cases hx
    cases type with
    | pallet => exact .insert (by simp [Call.rows])
    | _ => exact .rest
  | update x =>
    simp only [palletCall] at hx ⊢
    split at hx
    · cases hx
    · rename_i row rows hrows
      cases type with
      | pallet => exact .modify hrows (fun _ => rfl) fun _ h => h
      | _ => exact .rest
  | delete id =>
    simp only [palletCall] at hx ⊢
    split at hx
    · cases hx
    · rename_i rows hrows
      cases type with
      | pallet => exact .without hs.pallets.nodup hrows fun _ => rfl
      | _ => exact .rest
  | _ => exact absurd trivial hc

theorem handle_footprint (hs : m.Sound) {c : Call} (hc : ¬ c.IsRead) {x : c.Answer}
    (hx : (handle c m).1 = .ok x) (type : RowType) :
    (c.footprint type).Done (c.rows x) type (m.rowsOf type) ((handle c m).2.rowsOf type) := by
  cases c with
  | organizations c => exact organizationCall_footprint hs hc hx
  | roles c => exact roleCall_footprint hs hc hx
  | users c => exact userCall_footprint hs hc hx
  | profiles c => exact absurd trivial hc
  | containers c => exact containerCall_footprint hs hc hx
  | pallets c => exact palletCall_footprint hs hc hx

theorem userId_of_insertCustomer {account : NewAccount} {u : User} {q : Profile}
    (h : (m.insertCustomer account).1 = .ok (u, q)) : q.userId = u.id := by
  unfold insertCustomer at h
  split at h
  · cases h
  · cases h
    rfl

theorem eq_updatePassword_of_hash_ne {c : Call} (hs : m.Sound) {u u' : User}
    (hu : u ∈ m.users.rows) (hu' : u' ∈ (handle c m).2.users.rows) (hid : u.id = u'.id)
    (hne : u'.passwordHash ≠ u.passwordHash) :
    ∃ id hash, c = .users (.updatePassword id hash) ∧ id = u.id := by
  have same {v : User} (hv : v ∈ m.users.rows) (hvid : v.id = u'.id) : v = u :=
    hs.users.eq_of_key hv hu (hvid.trans hid.symm)
  cases user_after hu' with
  | old h => exact absurd (congrArg User.passwordHash (same h rfl)) hne
  | added h =>
    have hkey := (addsUser_born h).1
    have hbound := (hs.users.bounds u hu).2
    have hkey' : Record.key u = Record.key u' := hid
    omega
  | updated hv hc _ heq =>
    subst heq
    exact absurd (congrArg User.passwordHash (same hv rfl)) hne
  | rehashed hv hc heq =>
    subst heq
    obtain rfl := same hv rfl
    exact ⟨_, _, hc, rfl⟩

/-- Rows of one id in two states are one row: these fields of it never change. -/
structure Keeps (m n : Memory) : Prop where
  organization : ∀ o ∈ m.organizations.rows, ∀ o' ∈ n.organizations.rows, o.id = o'.id →
    o.code = o'.code
  role : ∀ r ∈ m.roles.rows, ∀ r' ∈ n.roles.rows, r.id = r'.id →
    r.code = r'.code ∧ r.organizationId = r'.organizationId ∧ r.isOrgAdmin = r'.isOrgAdmin
  user : ∀ u ∈ m.users.rows, ∀ u' ∈ n.users.rows, u.id = u'.id →
    u.isAdmin = u'.isAdmin ∧ u.isMember = u'.isMember ∧ u.isCustomer = u'.isCustomer ∧
      u.organizationId = u'.organizationId ∧ u.roleId = u'.roleId
  container : ∀ c ∈ m.containers.rows, ∀ c' ∈ n.containers.rows, c.id = c'.id →
    c.uid = c'.uid ∧ c.code = c'.code ∧ c.organizationId = c'.organizationId ∧
      c.createdById = c'.createdById
  pallet : ∀ x ∈ m.pallets.rows, ∀ x' ∈ n.pallets.rows, x.id = x'.id →
    x.uid = x'.uid ∧ x.code = x'.code ∧ x.organizationId = x'.organizationId ∧
      x.createdById = x'.createdById

theorem Later.keeps {n : Memory} (h : m.Later n) (hs : m.Sound) : m.Keeps n where
  organization o ho o' ho' hid := by
    have heq := h.organizations.agrees hs.organizations o' ho' o ho hid.symm
    exact (congrArg Organization.code heq).symm
  role r hr r' hr' hid := by
    have heq := h.roles.agrees hs.roles r' hr' r hr hid.symm
    exact ⟨(congrArg Role.code heq).symm, (role_owner heq).symm, (role_isOrgAdmin heq).symm⟩
  user u hu u' hu' hid := by
    have heq := h.users.agrees hs.users u' hu' u hu hid.symm
    exact ⟨(congrArg User.isAdmin heq).symm, (user_isMember heq).symm,
      (congrArg User.isCustomer heq).symm, (user_owner heq).symm, (user_role heq).symm⟩
  container c hc c' hc' hid := by
    have heq := h.containers.agrees hs.containers c' hc' c hc hid.symm
    exact ⟨(congrArg Container.uid heq).symm, (congrArg Container.code heq).symm,
      (container_owner heq).symm, (congrArg Container.createdById heq).symm⟩
  pallet x hx x' hx' hid := by
    have heq := h.pallets.agrees hs.pallets x' hx' x hx hid.symm
    exact ⟨(congrArg Pallet.uid heq).symm, (congrArg Pallet.code heq).symm, (pallet_owner heq).symm,
      (congrArg Pallet.createdById heq).symm⟩

end Memory

end Depot.Store

namespace Depot.Operation

open Store

/-- What an operation of a principal leaves: whoever changes the password changes the own account. -/
def Job.footprint (p : Principal) : Job → RowType → Footprint
  | .organizationUpdate id _ _, .organization | .organizationArchive id _, .organization =>
    .changed id
  | .organizationDelete id, .organization => .removed id
  | .roleCreate _, .role => .added
  | .roleUpdate c, .role => .changed c.id
  | .roleDelete id, .role => .removed id
  | .userUpdate id _, .user => .changed id
  | .userDelete id, .user => .removed id
  | .changePassword _ _, .user => .changed p.id
  | .containerCreate _, .container => .added
  | .containerUpdate id _, .container | .containerArchive id _, .container => .changed id
  | .containerDelete id, .container => .removed id
  | .palletCreate _, .pallet => .added
  | .palletUpdate c, .pallet => .changed c.id
  | .palletArchive id _, .pallet => .changed id
  | .palletDelete id, .pallet => .removed id
  | _, _ => .kept

/-- What an act leaves that goes well. The seed answers no row if the administrator is there already. -/
def Act.footprint (reply : Reply) : Act → RowType → Footprint
  | .seedAdmin .., .user => if reply.rows = [] then .kept else .added
  | .registerAdmin _, .user | .registerMember _ _, .user => .added
  | .registerCustomer _, .user | .registerCustomer _, .profile => .added
  | .registerOrganization _, .organization | .registerOrganization _, .role
  | .registerOrganization _, .user => .added
  | .job p j, type => j.footprint p type
  | _, _ => .kept

variable {s : Accounts.Settings} {seen : List Memory} {p : Principal} {a : Act} {c : Call}
variable {reply : Reply} {m n : Memory}

theorem Job.Licensed.footprint {j : Job} (hj : j.Licensed s seen p c) (type : RowType) :
    j.footprint p type = c.footprint type := by
  cases hj with
  | roleUpdate _ _ _ hid | palletUpdate _ hid _ =>
    cases type <;> simp [Job.footprint, Call.footprint, hid]
  | changePassword _ hid =>
    cases type <;> simp [Job.footprint, Call.footprint, hid]
  | _ => cases type <;> rfl

theorem Act.Licensed.footprint (ha : a.Licensed s seen c) (hc : ¬ c.IsRead) {x : c.Answer}
    (hreply : reply.rows = c.rows x) (type : RowType) :
    a.footprint reply type = c.footprint type := by
  cases ha with
  | read hread => exact absurd hread hc
  | seedAdmin _ =>
    have hrows : reply.rows ≠ [] := by simp [hreply, Call.rows]
    cases type <;> simp [Act.footprint, Call.footprint, hrows]
  | job hj => exact hj.footprint type
  | _ => cases type <;> rfl

theorem Act.MayRest.footprint (h : a.MayRest reply) (type : RowType) :
    a.footprint reply type = .kept := by
  cases a with
  | login => rfl
  | seedAdmin =>
    have hrows : reply.rows = [] := h
    cases type <;> simp [Act.footprint, hrows]
  | job p j =>
    cases j
    all_goals first
      | exact h.elim
      | rfl
  | _ => exact h.elim

theorem Act.Licensed.isAdmin_of_removed (ha : a.Licensed s seen c) (hc : ¬ c.IsRead)
    {type : RowType} {id : Id} (h : c.footprint type = .removed id) :
    ∃ p, a.caller? = some p ∧ p.isAdmin := by
  cases ha with
  | read hread => exact absurd hread hc
  | job hj =>
    cases hj with
    | organizationDelete hp | roleDelete hp | userDelete hp | containerDelete hp | palletDelete hp =>
      exact ⟨_, rfl, hp⟩
    | _ => cases type <;> cases h
  | _ => cases type <;> cases h

/-- What an act that goes well does to the store. -/
structure Act.Leaves (a : Act) (reply : Reply) (m n : Memory) : Prop where
  tables : ∀ type,
    (a.footprint reply type).Done reply.rows type (m.rowsOf type) (n.rowsOf type)
  removal : ∀ type id, a.footprint reply type = .removed id → ∃ p, a.caller? = some p ∧ p.isAdmin
  customer : ∀ r, a = .registerCustomer r →
    ∃ u q, reply.rows = [.user u, .profile q] ∧ q.userId = u.id
  fields : m.Keeps n
  password : ∀ u ∈ m.users.rows, ∀ u' ∈ n.users.rows, u.id = u'.id →
    u'.passwordHash ≠ u.passwordHash →
      ∃ p old new, a = .job p (.changePassword old new) ∧ p.id = u.id

theorem Act.MayRest.leaves (hs : m.Sound) (h : a.MayRest reply) : a.Leaves reply m m where
  tables type := by
    rw [h.footprint]
    exact .rest
  removal type id hremoved := by
    rw [h.footprint] at hremoved
    cases hremoved
  customer r ha := by
    subst ha
    exact h.elim
  fields := Memory.Later.refl.keeps hs
  password u hu u' hu' hid hne := by
    have heq : u = u' := hs.users.eq_of_key hu hu' hid
    exact absurd (congrArg User.passwordHash heq.symm) hne

theorem Act.Licensed.leaves (ha : a.Licensed s seen c) (hc : ¬ c.IsRead) (hs : m.Sound)
    (hfaithful : m.Faithful c) {x : c.Answer} (hx : (Memory.handle c m).1 = .ok x)
    (hreply : reply.rows = c.rows x) : a.Leaves reply m (Memory.handle c m).2 where
  tables type := by
    rw [ha.footprint hc hreply, hreply]
    exact Memory.handle_footprint hs hc hx type
  removal type id hremoved := by
    rw [ha.footprint hc hreply] at hremoved
    exact ha.isAdmin_of_removed hc hremoved
  customer r hr := by
    subst hr
    cases ha with
    | read hread => exact absurd hread hc
    | registerCustomer _ => exact ⟨x.1, x.2, hreply, Memory.userId_of_insertCustomer hx⟩
  fields := (Memory.handle_step c hfaithful).later.keeps hs
  password u hu u' hu' hid hne := by
    obtain ⟨id, hash, rfl, hid'⟩ := Memory.eq_updatePassword_of_hash_ne hs hu hu' hid hne
    cases ha with
    | read hread => exact absurd hread hc
    | job hj =>
      cases hj with
      | changePassword _ hcaller => exact ⟨_, _, _, rfl, hcaller.symm.trans hid'⟩

variable {es : List Event}

/-- Whatever goes well in whatever state: what is added goes to the end of its table, what is taken out
is the row that the act names, what is written is the row that the act names, and all other rows stay
where and what they are. -/
theorem acts_leave_their_footprint (h : Run s es m) {a : Act} {reply : Reply}
    (hreply : (a.event s m).outcome = .ok reply) : a.Leaves reply m (a.event s m).after := by
  obtain ⟨hrest, hafter⟩ | ⟨c, seen, hseen, hread, hc, x, hx, hrows, hafter⟩ :=
    Act.event_of_ok s hreply
  · rw [hafter]
    exact hrest.leaves h.sound
  · rw [hafter]
    exact hc.leaves hread h.sound (h.faithful hseen hc) hx hrows

/-- The first of two containers is deleted by an administrator: the second one stays as it is. -/
theorem deletion_takes_one_container :
    ∃ (s : Accounts.Settings) (es : List Event) (m : Memory) (a : Act) (reply : Reply),
      Run s es m ∧ (a.event s m).outcome = .ok reply ∧
        a.footprint reply .container = .removed 1 ∧
        (m.containers.rows.map fun c => (c.id, c.description)) = [(1, some "tea"), (2, none)] ∧
        ((a.event s m).after.containers.rows.map fun c => (c.id, c.description)) = [(2, none)] ∧
        a.Leaves reply m (a.event s m).after := by
  let s : Accounts.Settings := ⟨"k", 60, 4⟩
  let p : Principal := ⟨1, .member 1 1⟩
  let founding : Act :=
    .registerOrganization ⟨"Acme", none, ⟨"Ada", "A", "ada@x.org", "1", "secret"⟩⟩
  let a : Act := .job ⟨9, .admin⟩ (.containerDelete 1)
  have hrun := (((Run.start (s := s) ⟨0⟩).act founding).act
    (.job p (.containerCreate ⟨some "tea", none⟩))).act (.job p (.containerCreate ⟨none, none⟩))
  refine ⟨s, _, _, a, ⟨[], none⟩, hrun, ?_, rfl, ?_, ?_, acts_leave_their_footprint hrun ?_⟩
  all_goals decide +kernel

end Depot.Operation
