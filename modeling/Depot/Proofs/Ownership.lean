import Depot.Operation.Job
import Depot.Proofs.Memory

namespace Depot

open Operation Store

namespace Operation

deriving instance DecidableEq for Row

/-- What a row is known by: its kind and its id; a profile has the id of its user. -/
def Row.key : Row → RowType × Id
  | .organization o => (.organization, o.id)
  | .role r => (.role, r.id)
  | .user u => (.user, u.id)
  | .profile q => (.profile, q.userId)
  | .container c => (.container, c.id)
  | .pallet x => (.pallet, x.id)

end Operation

namespace Store

def Memory.Holds (m : Memory) : Row → Prop
  | .organization o => o ∈ m.organizations.rows
  | .role r => r ∈ m.roles.rows
  | .user u => u ∈ m.users.rows
  | .profile q => q ∈ m.profiles
  | .container c => c ∈ m.containers.rows
  | .pallet x => x ∈ m.pallets.rows

def Stored (seen : List Memory) (row : Row) : Prop := ∃ m ∈ seen, m.Holds row

theorem Stored.mono {seen seen' : List Memory} {row : Row} (hs : seen ⊆ seen')
    (h : Stored seen row) : Stored seen' row := by
  obtain ⟨m, hm, hrow⟩ := h
  exact ⟨m, hs hm, hrow⟩

theorem Stored.before {m m' : Memory} {seen : List Memory} {row : Row} (h : m.Holds row) :
    Stored (m' :: m :: seen) row := ⟨m, by simp, h⟩

end Store

namespace Principal

/-- The rows that a principal may see: an administrator all of them, a member those of the own
organization except the profiles, a customer the own account and the own profile. -/
def Owns (p : Principal) (row : Row) : Prop :=
  match p.kind, row with
  | .admin, _ => True
  | .member own _, .organization o => o.id = own
  | .member own _, .role r => r.organizationId = own
  | .member own _, .user u => u.isMember ∧ u.organizationId = some own
  | .member own _, .container c => c.organizationId = some own
  | .member own _, .pallet x => x.organizationId = some own
  | .member .., .profile _ => False
  | .customer, .user u => u.id = p.id
  | .customer, .profile q => q.userId = p.id
  | .customer, _ => False

variable {p : Principal} {missing : Error}

theorem owns_of_isAdmin (h : p.isAdmin) (row : Row) : p.Owns row := by
  obtain ⟨id, kind⟩ := p
  cases kind with
  | admin => trivial
  | member | customer => cases h

theorem ensureSameTenant_eq_ok {owner : Option Id} {row : Row} {x : Unit}
    (hmember : ∀ id own role, Owns ⟨id, .member own role⟩ row ↔ owner = some own)
    (hcustomer : ∀ id, ¬ Owns ⟨id, .customer⟩ row) :
    p.ensureSameTenant owner missing = .ok x ↔ p.Owns row := by
  obtain ⟨id, kind⟩ := p
  cases kind with
  | admin => exact ⟨fun _ => trivial, fun _ => rfl⟩
  | customer => exact ⟨nofun, fun h => absurd h (hcustomer id)⟩
  | member own role =>
    rw [hmember]
    cases owner with
    | none => exact ⟨nofun, nofun⟩
    | some owner =>
      have hguard : ensureSameTenant ⟨id, .member own role⟩ (some owner) missing =
        if own = owner then .ok () else .error missing := rfl
      rw [hguard]
      by_cases hown : own = owner
      · simp [hown]
      · simp [hown, Ne.symm hown]

theorem owningTenant_eq_ok {requested : Option Id} {o : Id} (h : p.owningTenant requested = .ok o) :
    p.isAdmin ∨ ∃ role, p.kind = .member o role := by
  obtain ⟨id, kind⟩ := p
  cases kind with
  | admin => exact .inl rfl
  | member own role =>
    obtain rfl : own = o := by simpa [owningTenant] using h
    exact .inr ⟨role, rfl⟩
  | customer => cases h

theorem owns_of_owningTenant {requested : Option Id} {own : Id} {row : Row}
    (h : p.owningTenant requested = .ok own)
    (hrow : ∀ role, p.kind = .member own role → p.Owns row) : p.Owns row := by
  obtain hadmin | ⟨role, hkind⟩ := owningTenant_eq_ok h
  · exact owns_of_isAdmin hadmin row
  · exact hrow role hkind

theorem organization?_of_owningTenant {requested : Option Id} {own : Id} (hp : p.isAdmin = false)
    (h : p.owningTenant requested = .ok own) : p.organization? = some own := by
  obtain hadmin | ⟨role, hkind⟩ := owningTenant_eq_ok h
  · exact absurd hadmin (by simp [hp])
  · simp [organization?, hkind, Kind.organization?]

theorem isAdmin_of_requireAdmin {x : Unit} (h : p.requireAdmin = .ok x) : p.isAdmin := by
  unfold requireAdmin at h
  split at h
  · assumption
  · cases h

end Principal

namespace Operation

variable {p : Principal}

theorem guarded_eq_ok {α : Type} {guard : Except Error Unit} {a b : α} :
    (do guard; pure a) = .ok b ↔ b = a ∧ guard = .ok () := by
  cases guard with
  | error e => exact ⟨nofun, nofun⟩
  | ok _ => exact ⟨fun h => ⟨(Except.ok.inj h).symm, rfl⟩, fun h => congrArg Except.ok h.1.symm⟩

theorem Organizations.visible_eq_ok {o o' : Organization} :
    visible p o = .ok o' ↔ o' = o ∧ p.Owns (.organization o) :=
  guarded_eq_ok.trans <| and_congr_right' <|
    Principal.ensureSameTenant_eq_ok (fun _ _ _ => ⟨congrArg some, Option.some.inj⟩) fun _ => id

theorem Roles.visible_eq_ok {r r' : Role} :
    visible p r = .ok r' ↔ r' = r ∧ p.Owns (.role r) :=
  guarded_eq_ok.trans <| and_congr_right' <|
    Principal.ensureSameTenant_eq_ok (fun _ _ _ => ⟨congrArg some, Option.some.inj⟩) fun _ => id

theorem Containers.guard_eq_ok {c : Container} {x : Unit} :
    p.ensureSameTenant c.organizationId .noContainer = .ok x ↔ p.Owns (.container c) :=
  Principal.ensureSameTenant_eq_ok (fun _ _ _ => .rfl) fun _ => id

theorem Containers.visible_eq_ok {c c' : Container} :
    visible p c = .ok c' ↔ c' = c ∧ p.Owns (.container c) :=
  guarded_eq_ok.trans (and_congr_right' guard_eq_ok)

theorem Pallets.visible_eq_ok {x x' : Pallet} :
    visible p x = .ok x' ↔ x' = x ∧ p.Owns (.pallet x) :=
  guarded_eq_ok.trans <| and_congr_right' <|
    Principal.ensureSameTenant_eq_ok (fun _ _ _ => .rfl) fun _ => id

theorem Users.sees_iff (u : User) : sees p u = true ↔ p.Owns (.user u) := by
  obtain ⟨id, kind⟩ := p
  cases kind <;> simp [sees, Principal.Owns]

theorem Users.visible_eq_ok {u u' : User} :
    visible p u = .ok u' ↔ u' = u ∧ p.Owns (.user u) := by
  rw [← sees_iff, visible]
  split
  · rename_i hsees
    exact ⟨fun h => ⟨(Except.ok.inj h).symm, hsees⟩, fun h => congrArg Except.ok h.1.symm⟩
  · rename_i hsees
    exact ⟨nofun, fun h => absurd h.2 hsees⟩

end Operation

def Principal.Granted (p : Principal) (seen : List Memory) (row : Row) : Prop :=
  ∃ m ∈ seen, m.Holds row ∧ p.Owns row

theorem Principal.Granted.stored {p : Principal} {seen : List Memory} {row : Row}
    (h : p.Granted seen row) : Stored seen row := by
  obtain ⟨m, hm, hrow, -⟩ := h
  exact ⟨m, hm, hrow⟩

theorem Principal.Granted.before {p : Principal} {m m' : Memory} {seen : List Memory} {row : Row}
    (h : m.Holds row) (hown : p.Owns row) : p.Granted (m' :: m :: seen) row := ⟨m, by simp, h, hown⟩

theorem Principal.Granted.mono {p : Principal} {seen seen' : List Memory} {row : Row}
    (hs : seen ⊆ seen') (h : p.Granted seen row) : p.Granted seen' row := by
  obtain ⟨m, hm, hrow⟩ := h
  exact ⟨m, hs hm, hrow⟩

/-- Whether a principal may hand out the administration of an organization, told by the roles that
were seen. -/
def Principal.Administers (p : Principal) (seen : List Memory) : Prop :=
  match p.kind with
  | .admin => True
  | .member _ role => ∃ r, Stored seen (.role r) ∧ r.id = role ∧ r.isOrgAdmin
  | .customer => False

/-- Why a row may be shown: it has the key of an own row, it is the account of the principal, or it
stands in an own container. -/
inductive Principal.Shown (p : Principal) (seen : List Memory) : Row → Prop
  | same {row own : Row} (h : Stored seen row) (hown : p.Granted seen own)
    (hkey : row.key = own.key) : Shown p seen row
  | self {u : User} (h : Stored seen (.user u)) (hid : u.id = p.id) : Shown p seen (.user u)
  | content {x : Pallet} {c : Container} (h : Stored seen (.pallet x))
    (hc : p.Granted seen (.container c)) (hx : x.containerId = some c.id) : Shown p seen (.pallet x)

theorem Principal.Shown.own {p : Principal} {seen : List Memory} {row : Row}
    (h : p.Granted seen row) : p.Shown seen row :=
  .same h.stored h rfl

end Depot
