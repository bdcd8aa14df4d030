import Depot.Proofs.Noninterference
import Depot.Proofs.Registrations

namespace Depot

open Operation Program Store

instance (p : Principal) (row : Row) : Decidable (p.Owns row) :=
  match p, row with
  | ⟨_, .admin⟩, _ => .isTrue trivial
  | ⟨_, .member own _⟩, .organization o => inferInstanceAs (Decidable (o.id = own))
  | ⟨_, .member own _⟩, .role r => inferInstanceAs (Decidable (r.organizationId = own))
  | ⟨_, .member own _⟩, .user u =>
    inferInstanceAs (Decidable (u.isMember ∧ u.organizationId = some own))
  | ⟨_, .member own _⟩, .container c => inferInstanceAs (Decidable (c.organizationId = some own))
  | ⟨_, .member own _⟩, .pallet x => inferInstanceAs (Decidable (x.organizationId = some own))
  | ⟨_, .member ..⟩, .profile _ => .isFalse id
  | ⟨id, .customer⟩, .user u => inferInstanceAs (Decidable (u.id = id))
  | ⟨id, .customer⟩, .profile q => inferInstanceAs (Decidable (q.userId = id))
  | ⟨_, .customer⟩, .organization _ => .isFalse id
  | ⟨_, .customer⟩, .role _ => .isFalse id
  | ⟨_, .customer⟩, .container _ => .isFalse id
  | ⟨_, .customer⟩, .pallet _ => .isFalse id

namespace Principal

section Selection

variable {α : Type} {p : Principal} {row : α → Row} {rows : List α}

def select (p : Principal) (row : α → Row) (rows : List α) : List α :=
  rows.filter fun a => p.Owns (row a)

theorem mem_select {a : α} : a ∈ p.select row rows ↔ a ∈ rows ∧ p.Owns (row a) := by
  simp [select]

theorem select_sublist : (p.select row rows).Sublist rows := List.filter_sublist

theorem filter_eq_select {own : α → Bool} (h : ∀ a, own a = true ↔ p.Owns (row a)) :
    rows.filter own = p.select row rows :=
  List.filter_congr fun a _ => Bool.eq_iff_iff.2 ((h a).trans decide_eq_true_iff.symm)

theorem select_admin (id : Id) : select ⟨id, .admin⟩ row rows = rows :=
  List.filter_eq_self.2 fun a _ => decide_eq_true (owns_of_isAdmin rfl (row a))

theorem select_of_none (h : ∀ a, ¬ p.Owns (row a)) : p.select row rows = [] :=
  List.filter_eq_nil_iff.2 fun a _ hown => h a (of_decide_eq_true hown)

theorem select_of_key {key : α → Id} {own : Id} (hrows : (rows.map key).Nodup)
    (h : ∀ a, key a = own ↔ p.Owns (row a)) {a : α} (ha : a ∈ rows) (hkey : key a = own) :
    p.select row rows = [a] := by
  have hnodup : (p.select row rows).Nodup := hrows.of_map.filter _
  refine List.perm_singleton.1 ((List.perm_ext_iff_of_nodup hnodup (List.nodup_singleton a)).2 ?_)
  intro b
  rw [mem_select, List.mem_singleton, ← h b]
  constructor
  · rintro ⟨hb, hown⟩
    exact List.inj_on_of_nodup_map hrows hb ha (hown.trans hkey.symm)
  · rintro rfl
    exact ⟨ha, hkey⟩

end Selection

theorem not_owns_role {p : Principal} (hp : p.isCustomer) (r : Role) : ¬ p.Owns (.role r) := by
  obtain ⟨id, kind⟩ := p
  cases kind with
  | customer => exact not_false
  | admin | member => cases hp

theorem owns_user_iff {p : Principal} (hp : p.isCustomer) {u : User} :
    p.Owns (.user u) ↔ u.id = p.id := by
  obtain ⟨id, kind⟩ := p
  cases kind with
  | customer => exact .rfl
  | admin | member => cases hp

theorem owns_content_iff {p : Principal} {x : Pallet} {c : Container}
    (h : x.organizationId = c.organizationId) : p.Owns (.pallet x) ↔ p.Owns (.container c) := by
  obtain ⟨id, kind⟩ := p
  cases kind with
  | admin | customer => exact .rfl
  | member own role =>
    change x.organizationId = some own ↔ c.organizationId = some own
    rw [h]

end Principal

namespace Operation

def Given {α : Type} (m : Memory) (q : Program α) : Prop := ∃ a, (q.run Memory.handle m).1 = .ok a

/-- A list of rows of a table: in the order of the table, each row once, and just those rows that every
lookup gives when it is asked for them. -/
structure Mirrors {α : Type} (m : Memory) (rows : List α) (lookups : List (α → Program α))
    (xs : List α) : Prop where
  order : xs.Sublist rows
  nodup : xs.Nodup
  found : ∀ lookUp ∈ lookups, ∀ x, x ∈ xs ↔ ((lookUp x).run Memory.handle m).1 = .ok x

def Agree {α : Type} (m : Memory) (rows : List α) (list : Program (List α))
    (lookups : List (α → Program α)) : Prop :=
  ∀ xs, (list.run Memory.handle m).1 = .ok xs → Mirrors m rows lookups xs

def Organizations.lookups (p : Principal) : List (Organization → Program Organization) :=
  [fun o => get p o.id, fun o => getByCode p o.code]

def Roles.lookups (p : Principal) : List (Role → Program Role) :=
  [fun r => get p r.id, fun r => getByCode p r.code]

def Users.lookups (p : Principal) : List (User → Program User) :=
  [fun u => get p u.id, fun u => getByEmail p u.email, fun u => getByPhone p u.phone]

def Containers.lookups (p : Principal) : List (Container → Program Container) :=
  [fun c => get p c.id, fun c => getByUid p c.uid, fun c => getByCode p c.code]

def Pallets.lookups (p : Principal) : List (Pallet → Program Pallet) :=
  [fun x => get p x.id, fun x => getByUid p x.uid, fun x => getByCode p x.code]

def Users.everyone : UserFilter := ⟨false, false, false⟩

variable {m : Memory} {p : Principal}

section Generic

variable {α κ : Type} [BEq κ] [LawfulBEq κ] {rows : List α} {row : α → Row}

theorem run_guarded_eq_ok {q : Program α} {visible : α → Except Error α} {x : α}
    (hv : ∀ a b, visible a = .ok b ↔ b = a ∧ p.Owns (row a)) :
    ((q.bind fun a => Program.ofExcept (visible a)).run Memory.handle m).1 = .ok x ↔
      (q.run Memory.handle m).1 = .ok x ∧ p.Owns (row x) := by
  rw [run_guarded]
  cases (q.run Memory.handle m).1 with
  | error e => exact ⟨nofun, nofun⟩
  | ok a =>
    refine (hv a x).trans ⟨?_, ?_⟩
    · rintro ⟨rfl, hown⟩
      exact ⟨rfl, hown⟩
    · rintro ⟨hx, hown⟩
      cases hx
      exact ⟨rfl, hown⟩

theorem guarded_lookup_eq_ok {q : Program α} {visible : α → Except Error α} {key : α → κ} {k : κ}
    {missing : Error} {x : α}
    (hq : (q.run Memory.handle m).1 = Memory.find rows (key · == k) missing)
    (hv : ∀ a b, visible a = .ok b ↔ b = a ∧ p.Owns (row a)) (hrows : (rows.map key).Nodup)
    (hk : x ∈ rows → k = key x) :
    ((q.bind fun a => Program.ofExcept (visible a)).run Memory.handle m).1 = .ok x ↔
      x ∈ rows ∧ p.Owns (row x) := by
  rw [run_guarded_eq_ok hv, hq]
  refine and_congr_left fun _ => ⟨fun h => (find_eq_ok h).1, fun hx => ?_⟩
  rw [hk hx]
  exact find_own hrows hx missing

theorem given_iff_of_unless {q : Program α} {c : Bool} {e : Error} {a : α}
    (h : (q.run Memory.handle m).1 = if c then .error e else .ok a) : Given m q ↔ c = false := by
  rw [Given, h]
  cases c with
  | true => exact iff_of_false nofun nofun
  | false => exact iff_of_true ⟨a, rfl⟩ rfl

theorem eq_of_unless {q : Program α} {c : Bool} {e : Error} {a x : α}
    (h : (q.run Memory.handle m).1 = if c then .error e else .ok a)
    (hx : (q.run Memory.handle m).1 = .ok x) : x = a := by
  rw [h] at hx
  cases c with
  | true => cases hx
  | false =>
    cases hx
    rfl

theorem Agree.of_select {list : Program (List α)} {lookups : List (α → Program α)}
    (hrows : rows.Nodup)
    (hlist : ∀ xs, (list.run Memory.handle m).1 = .ok xs → xs = p.select row rows)
    (hlookups : ∀ lookUp ∈ lookups, ∀ x,
      ((lookUp x).run Memory.handle m).1 = .ok x ↔ x ∈ rows ∧ p.Owns (row x)) :
    Agree m rows list lookups := by
  intro xs hxs
  obtain rfl := hlist xs hxs
  refine ⟨Principal.select_sublist, hrows.filter _, fun lookUp hl x => ?_⟩
  rw [hlookups lookUp hl x, Principal.mem_select]

end Generic

section Lookups

variable (p)

theorem Organizations.lookups_give (hm : Orderly m) : ∀ lookUp ∈ lookups p, ∀ o,
    ((lookUp o).run Memory.handle m).1 = .ok o ↔
      o ∈ m.organizations.rows ∧ p.Owns (.organization o) := by
  have hs := hm.sound.organizations
  simp only [lookups, List.forall_mem_cons]
  refine ⟨fun o => ?_, fun o => ?_, List.forall_mem_nil _⟩
  · exact guarded_lookup_eq_ok (call_answer (.organizations (.byId o.id)))
      (fun _ _ => visible_eq_ok) hs.nodup fun _ => rfl
  · exact guarded_lookup_eq_ok (call_answer (.organizations (.byCode o.code)))
      (fun _ _ => visible_eq_ok) (hs.codes fun o ho => hs.born o ho) fun _ => rfl

theorem Roles.lookups_give (hm : Orderly m) : ∀ lookUp ∈ lookups p, ∀ r,
    ((lookUp r).run Memory.handle m).1 = .ok r ↔ r ∈ m.roles.rows ∧ p.Owns (.role r) := by
  have hs := hm.sound.roles
  simp only [lookups, List.forall_mem_cons]
  refine ⟨fun r => ?_, fun r => ?_, List.forall_mem_nil _⟩
  · exact guarded_lookup_eq_ok (call_answer (.roles (.byId r.id))) (fun _ _ => visible_eq_ok)
      hs.nodup fun _ => rfl
  · exact guarded_lookup_eq_ok (call_answer (.roles (.byCode r.code))) (fun _ _ => visible_eq_ok)
      (hs.codes fun r hr => hs.born r hr) fun _ => rfl

theorem Users.lookups_give (hm : Orderly m)
    (hcanonical : ∀ u ∈ m.users.rows, Canonical u.email u.phone) : ∀ lookUp ∈ lookups p, ∀ u,
    ((lookUp u).run Memory.handle m).1 = .ok u ↔ u ∈ m.users.rows ∧ p.Owns (.user u) := by
  simp only [lookups, List.forall_mem_cons]
  refine ⟨fun u => ?_, fun u => ?_, fun u => ?_, List.forall_mem_nil _⟩
  · exact guarded_lookup_eq_ok (call_answer (.users (.byId u.id))) (fun _ _ => visible_eq_ok)
      hm.sound.users.nodup fun _ => rfl
  · exact guarded_lookup_eq_ok (call_answer (.users (.byEmail (normalizeEmail u.email))))
      (fun _ _ => visible_eq_ok) hm.accounts.1 fun hu => (hcanonical u hu).1
  · exact guarded_lookup_eq_ok (call_answer (.users (.byPhone u.phone))) (fun _ _ => visible_eq_ok)
      hm.accounts.2 fun _ => rfl

theorem Containers.lookups_give (hm : Orderly m) : ∀ lookUp ∈ lookups p, ∀ c,
    ((lookUp c).run Memory.handle m).1 = .ok c ↔
      c ∈ m.containers.rows ∧ p.Owns (.container c) := by
  have hs := hm.sound.containers
  simp only [lookups, List.forall_mem_cons]
  refine ⟨fun c => ?_, fun c => ?_, fun c => ?_, List.forall_mem_nil _⟩
  · exact guarded_lookup_eq_ok (call_answer (.containers (.byId c.id))) (fun _ _ => visible_eq_ok)
      hs.nodup fun _ => rfl
  · exact guarded_lookup_eq_ok (call_answer (.containers (.byUid c.uid)))
      (fun _ _ => visible_eq_ok) hm.containers fun _ => rfl
  · exact guarded_lookup_eq_ok (call_answer (.containers (.byCode c.code)))
      (fun _ _ => visible_eq_ok) (hs.codes fun c hc => (hs.born c hc).1) fun _ => rfl

theorem Pallets.lookups_give (hm : Orderly m) : ∀ lookUp ∈ lookups p, ∀ x,
    ((lookUp x).run Memory.handle m).1 = .ok x ↔ x ∈ m.pallets.rows ∧ p.Owns (.pallet x) := by
  have hs := hm.sound.pallets
  simp only [lookups, List.forall_mem_cons]
  refine ⟨fun x => ?_, fun x => ?_, fun x => ?_, List.forall_mem_nil _⟩
  · exact guarded_lookup_eq_ok (call_answer (.pallets (.byId x.id))) (fun _ _ => visible_eq_ok)
      hs.nodup fun _ => rfl
  · exact guarded_lookup_eq_ok (call_answer (.pallets (.byUid x.uid))) (fun _ _ => visible_eq_ok)
      hm.pallets fun _ => rfl
  · exact guarded_lookup_eq_ok (call_answer (.pallets (.byCode x.code))) (fun _ _ => visible_eq_ok)
      (hs.codes fun x hx => (hs.born x hx).1) fun _ => rfl

end Lookups

section Lists

variable (m p)

theorem Containers.run_list :
    ((list p).run Memory.handle m).1 = .ok (p.select .container m.containers.rows) := by
  obtain ⟨id, kind⟩ := p
  cases kind with
  | admin => exact congrArg Except.ok (Principal.select_admin id).symm
  | member own role =>
    exact congrArg Except.ok (Principal.filter_eq_select fun _ => beq_iff_eq)
  | customer =>
    have hnone : ∀ c, ¬ Principal.Owns ⟨id, .customer⟩ (.container c) := fun _ => not_false
    exact congrArg Except.ok (Principal.select_of_none hnone).symm

theorem Pallets.run_list :
    ((list p none).run Memory.handle m).1 = .ok (p.select .pallet m.pallets.rows) := by
  obtain ⟨id, kind⟩ := p
  cases kind with
  | admin => exact congrArg Except.ok (Principal.select_admin id).symm
  | member own role =>
    exact congrArg Except.ok (Principal.filter_eq_select fun _ => beq_iff_eq)
  | customer =>
    have hnone : ∀ x, ¬ Principal.Owns ⟨id, .customer⟩ (.pallet x) := fun _ => not_false
    exact congrArg Except.ok (Principal.select_of_none hnone).symm

theorem Roles.run_list :
    ((list p none).run Memory.handle m).1 =
      if p.isCustomer then .error .notPermitted else .ok (p.select .role m.roles.rows) := by
  obtain ⟨id, kind⟩ := p
  cases kind with
  | admin => exact congrArg Except.ok (Principal.select_admin id).symm
  | member own role =>
    exact congrArg Except.ok (Principal.filter_eq_select fun _ => beq_iff_eq)
  | customer => rfl

theorem Users.run_list :
    ((list p everyone none).run Memory.handle m).1 =
      if p.isCustomer then .error .notPermitted else .ok (p.select .user m.users.rows) := by
  obtain ⟨id, kind⟩ := p
  cases kind with
  | admin =>
    refine congrArg Except.ok (Eq.trans ?_ (Principal.select_admin id).symm)
    exact List.filter_eq_self.2 fun _ _ => rfl
  | member own role =>
    refine congrArg Except.ok (Principal.filter_eq_select fun u => ?_)
    exact sees_iff (p := ⟨id, .member own role⟩) u
  | customer => rfl

theorem Organizations.list_eq_select (hm : Orderly m) {xs : List Organization}
    (h : ((list p).run Memory.handle m).1 = .ok xs) :
    xs = p.select .organization m.organizations.rows := by
  obtain ⟨id, kind⟩ := p
  cases kind with
  | admin =>
    cases h
    exact (Principal.select_admin id).symm
  | member own role =>
    obtain ⟨o, ho, rfl⟩ := run_map_eq_ok h
    rw [call_answer] at ho
    obtain ⟨hmem, hid⟩ := find_eq_ok ho
    exact (Principal.select_of_key hm.sound.organizations.nodup (fun _ => .rfl) hmem
      (beq_iff_eq.1 hid)).symm
  | customer =>
    have hnone : ∀ o, ¬ Principal.Owns ⟨id, .customer⟩ (.organization o) := fun _ => not_false
    cases h
    exact (Principal.select_of_none hnone).symm

variable {m p}

theorem Pallets.list_of_container (p : Principal) (id : Id) :
    list p (some id) =
      (Containers.get p id).bind fun c => call (.pallets (.ofContainer c.id)) := by
  have hguard : ∀ c : Container,
      ((ofExcept (p.ensureSameTenant c.organizationId .noContainer)).bind fun _ =>
          call (.pallets (.ofContainer c.id))) =
        (ofExcept (Containers.visible p c)).bind fun c => call (.pallets (.ofContainer c.id)) := by
    intro c
    unfold Containers.visible
    cases p.ensureSameTenant c.organizationId .noContainer <;> rfl
  unfold list Containers.get
  simp only [bind_eq, lift_eq, call, ask_bind]
  congr 1
  funext r
  cases r with
  | ok c => exact hguard c
  | error e => rfl

theorem Pallets.run_list_of_container (p : Principal) (id : Id) :
    ((list p (some id)).run Memory.handle m).1 =
      ((Containers.get p id).run Memory.handle m).1.map fun c =>
        m.pallets.rows.filter (·.containerId == some c.id) := by
  have hget : (Containers.get p id).run Memory.handle m = (_, m) :=
    run_guarded_of_eq (Containers.visible p) (run_call (.containers (.byId id)) m)
  rw [list_of_container, run_bind, hget]
  cases (Memory.find m.containers.rows (·.id == id) Error.noContainer).bind (Containers.visible p) <;>
    rfl

theorem Pallets.content_eq_select (hm : Orderly m) {c : Container} (hc : c ∈ m.containers.rows)
    (hown : p.Owns (.container c)) :
    m.pallets.rows.filter (·.containerId == some c.id) =
      (p.select .pallet m.pallets.rows).filter (·.containerId == some c.id) := by
  rw [Principal.select, List.filter_filter]
  refine List.filter_congr fun x hx => ?_
  by_cases hplace : x.containerId = some c.id
  · have horganization := hm.content x hx c hc hplace
    simp [hplace, (Principal.owns_content_iff horganization).2 hown]
  · simp [hplace]

theorem Pallets.content_of_list (hm : Orderly m) {id : Id} {xs : List Pallet}
    (h : ((list p (some id)).run Memory.handle m).1 = .ok xs) :
    xs = (p.select .pallet m.pallets.rows).filter (·.containerId == some id) := by
  rw [run_list_of_container] at h
  cases hget : ((Containers.get p id).run Memory.handle m).1 with
  | error e =>
    rw [hget] at h
    cases h
  | ok c =>
    rw [hget] at h
    cases h
    obtain ⟨hfind, hown⟩ := (run_guarded_eq_ok fun _ _ => Containers.visible_eq_ok).1 hget
    rw [call_answer] at hfind
    obtain ⟨hc, hid⟩ := find_eq_ok hfind
    obtain rfl := beq_iff_eq.1 hid
    exact content_eq_select hm hc hown

end Lists

/-- Whoever lists rows is given, in the order of the table, just those that every lookup gives. Customers
are refused the lists of roles and of users; of these they look up no role and nobody but themselves. The
pallets in a container are listed to those who can look the container up, and are the listed pallets that
stand in it. -/
theorem lists_show_what_lookups_give (h : Reachable m) (p : Principal) :
    Agree m m.containers.rows (Containers.list p) (Containers.lookups p) ∧
    Agree m m.pallets.rows (Pallets.list p none) (Pallets.lookups p) ∧
    Agree m m.roles.rows (Roles.list p none) (Roles.lookups p) ∧
    Agree m m.users.rows (Users.list p Users.everyone none) (Users.lookups p) ∧
    Agree m m.organizations.rows (Organizations.list p) (Organizations.lookups p) ∧
    (Given m (Containers.list p) ∧ Given m (Pallets.list p none) ∧
      (Given m (Roles.list p none) ↔ p.isCustomer = false) ∧
      (Given m (Users.list p Users.everyone none) ↔ p.isCustomer = false)) ∧
    (p.isCustomer →
      (∀ lookUp ∈ Roles.lookups p, ∀ r, ((lookUp r).run Memory.handle m).1 ≠ .ok r) ∧
      ∀ lookUp ∈ Users.lookups p, ∀ u,
        ((lookUp u).run Memory.handle m).1 = .ok u ↔ u ∈ m.users.rows ∧ u.id = p.id) ∧
    ∀ id, (Given m (Pallets.list p (some id)) ↔ Given m (Containers.get p id)) ∧
      ∀ xs, ((Pallets.list p (some id)).run Memory.handle m).1 = .ok xs →
        ∃ all, ((Pallets.list p none).run Memory.handle m).1 = .ok all ∧
          xs = all.filter (·.containerId == some id) := by
  have hm := h.orderly
  obtain ⟨s, es, hrun⟩ := h
  have hcontainers := Containers.run_list m p
  have hpallets := Pallets.run_list m p
  have hroles := Roles.run_list m p
  have husers := Users.run_list m p
  refine ⟨?_, ?_, ?_, ?_, ?_, ⟨⟨_, hcontainers⟩, ⟨_, hpallets⟩, given_iff_of_unless hroles,
    given_iff_of_unless husers⟩, fun hp => ⟨fun lookUp hl r hr => ?_, fun lookUp hl u => ?_⟩,
    fun id => ⟨?_, fun xs hxs => ⟨_, hpallets, ?_⟩⟩⟩
  · exact .of_select hm.sound.containers.nodup.of_map
      (fun xs hxs => (Except.ok.inj (hcontainers.symm.trans hxs)).symm) (Containers.lookups_give p hm)
  · exact .of_select hm.sound.pallets.nodup.of_map
      (fun xs hxs => (Except.ok.inj (hpallets.symm.trans hxs)).symm) (Pallets.lookups_give p hm)
  · exact .of_select hm.sound.roles.nodup.of_map (fun xs => eq_of_unless hroles)
      (Roles.lookups_give p hm)
  · exact .of_select hm.sound.users.nodup.of_map (fun xs => eq_of_unless husers)
      (Users.lookups_give p hm hrun.orderly.canonical)
  · exact .of_select hm.sound.organizations.nodup.of_map
      (fun xs => Organizations.list_eq_select m p hm) (Organizations.lookups_give p hm)
  · exact Principal.not_owns_role hp r ((Roles.lookups_give p hm lookUp hl r).1 hr).2
  · rw [Users.lookups_give p hm hrun.orderly.canonical lookUp hl, Principal.owns_user_iff hp]
  · rw [Given, Given, Pallets.run_list_of_container]
    cases ((Containers.get p id).run Memory.handle m).1 with
    | ok c => exact iff_of_true ⟨_, rfl⟩ ⟨_, rfl⟩
    | error e => exact iff_of_false nofun nofun
  · exact Pallets.content_of_list hm hxs

/-- The owner of the first organization lists one container of two, looks the same one up, and finds one of
two pallets in it. -/
theorem first_owner_lists_one_container :
    ∃ (m : Memory) (p : Principal) (c : Container) (inside outside : Pallet),
      Reachable m ∧ p = ⟨1, .member 1 1⟩ ∧ m.containers.rows.map (·.id) = [1, 2] ∧
        ((Containers.list p).run Memory.handle m).1 = .ok [c] ∧
        ((Containers.get p c.id).run Memory.handle m).1 = .ok c ∧
        ((Containers.getByUid p c.uid).run Memory.handle m).1 = .ok c ∧
        ((Containers.getByCode p c.code).run Memory.handle m).1 = .ok c ∧
        ((Pallets.list p none).run Memory.handle m).1 = .ok [outside, inside] ∧
        ((Pallets.list p (some c.id)).run Memory.handle m).1 = .ok [inside] := by
  let s : Accounts.Settings := ⟨"k", 60, 4⟩
  let p : Principal := ⟨1, .member 1 1⟩
  let q : Principal := ⟨2, .member 2 2⟩
  let c : Container := Memory.containerRow 1 (Uid.drawn 0) ⟨none, 1, 1⟩ ⟨0⟩
  let outside : Pallet := Memory.palletRow 1 (Uid.drawn 2) ⟨none, 1, none, 1⟩ ⟨0⟩
  let inside : Pallet := Memory.palletRow 2 (Uid.drawn 3) ⟨none, 1, some 1, 1⟩ ⟨0⟩
  obtain ⟨m, h, hids, hlist, hpallets⟩ : ∃ m, Reachable m ∧
      m.containers.rows.map (·.id) = [1, 2] ∧
      ((Containers.list p).run Memory.handle m).1 = .ok [c] ∧
      ((Pallets.list p none).run Memory.handle m).1 = .ok [outside, inside] := by
    let e₁ := Act.event s
      (.registerOrganization ⟨"A", none, ⟨"A", "A", "a", "1", "secret"⟩⟩) (Memory.empty ⟨0⟩)
    let e₂ := Act.event s (.registerOrganization ⟨"B", none, ⟨"B", "B", "b", "2", "secret"⟩⟩) e₁.after
    let e₃ := Act.event s (.job p (.containerCreate ⟨none, none⟩)) e₂.after
    let e₄ := Act.event s (.job q (.containerCreate ⟨none, none⟩)) e₃.after
    let e₅ := Act.event s (.job p (.palletCreate ⟨none, none, none⟩)) e₄.after
    let e₆ := Act.event s (.job p (.palletCreate ⟨none, none, some 1⟩)) e₅.after
    have hrun : Run s [e₆, e₅, e₄, e₃, e₂, e₁] e₆.after :=
      (((((Run.start ⟨0⟩).act _).act _).act _).act _).act _ |>.act _
    refine ⟨e₆.after, ⟨s, _, hrun⟩, ?_, ?_, ?_⟩
    all_goals decide +kernel
  obtain ⟨hagree, -, -, -, -, -, -, hcontent⟩ := lists_show_what_lookups_give h p
  have found {lookUp : Container → Program Container} (hl : lookUp ∈ Containers.lookups p) :
      ((lookUp c).run Memory.handle m).1 = .ok c :=
    ((hagree _ hlist).found lookUp hl c).1 List.mem_cons_self
  have hget : ((Containers.get p c.id).run Memory.handle m).1 = .ok c := found List.mem_cons_self
  obtain ⟨hgiven, hfilter⟩ := hcontent c.id
  obtain ⟨xs, hxs⟩ := hgiven.2 ⟨c, hget⟩
  obtain ⟨all, hall, rfl⟩ := hfilter xs hxs
  obtain rfl := Except.ok.inj (hpallets.symm.trans hall)
  refine ⟨m, p, c, inside, outside, h, rfl, hids, hlist, hget, ?_, ?_, hpallets, hxs⟩
  · exact found (List.mem_cons_of_mem _ List.mem_cons_self)
  · exact found (List.mem_cons_of_mem _ (List.mem_cons_of_mem _ List.mem_cons_self))

end Operation

end Depot
