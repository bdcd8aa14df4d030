import Depot.Proofs.Run
import Depot.Proofs.Uniqueness
import Mathlib.Logic.Equiv.Basic

namespace Depot.Operation

open Program Store

/-- The rows of one tenant, in the order of the tables. -/
structure Holding where
  organizations : List Organization
  roles : List Role
  users : List User
  containers : List Container
  pallets : List Pallet
  deriving DecidableEq

/-- The rows of the organization: itself, its roles, members, containers and pallets. -/
def holding (m : Memory) (own : Id) : Holding where
  organizations := m.organizations.rows.filter (·.id == own)
  roles := m.roles.rows.filter (·.organizationId == own)
  users := m.users.rows.filter fun u => u.isMember && u.organizationId == some own
  containers := m.containers.rows.filter (·.organizationId == some own)
  pallets := m.pallets.rows.filter (·.organizationId == some own)

def Job.ReadsTenant : Job → Prop
  | .organizations | .organization _ | .roles _ | .role _ | .users .. | .user _ | .containers
  | .container _ | .pallets _ | .pallet _ => True
  | _ => False

def Reachable (m : Memory) : Prop := ∃ s es, Run s es m

/-- What lookups rely on: whatever rows are looked up by tells them apart. How identifiers were drawn does
not matter. -/
structure Orderly (m : Memory) : Prop where
  sound : m.Sound
  accounts : Memory.Separate m.users.rows
  containers : (m.containers.rows.map (·.uid)).Nodup
  pallets : (m.pallets.rows.map (·.uid)).Nodup
  content : ∀ x ∈ m.pallets.rows, ∀ c ∈ m.containers.rows, x.containerId = some c.id →
    x.organizationId = c.organizationId

theorem Reachable.orderly {m : Memory} (h : Reachable m) : Orderly m := by
  obtain ⟨s, es, h⟩ := h
  obtain ⟨past, hist, -⟩ := h.history
  have hl := hist.lineage
  have hdistinct := hist.distinct m List.mem_cons_self
  refine ⟨hl.sound m List.mem_cons_self, hdistinct.accounts, hdistinct.containers.nodup,
    hdistinct.pallets.nodup, ?_⟩
  intro x hx c hc hplace
  exact (hl.owner_of_content ⟨m, List.mem_cons_self, hx⟩ ⟨m, List.mem_cons_self, hc⟩ hplace).symm

/-- The same state with other identifiers drawn. -/
def redrawn (m : Memory) (draw : Uid → Uid) : Memory :=
  { m with
    containers := ⟨m.containers.rows.map fun c => { c with uid := draw c.uid }, m.containers.sequence⟩
    pallets := ⟨m.pallets.rows.map fun x => { x with uid := draw x.uid }, m.pallets.sequence⟩ }

theorem Orderly.redrawn {m : Memory} (h : Orderly m) {draw : Uid → Uid}
    (hdraw : Function.Injective draw) : Orderly (redrawn m draw) where
  sound := ⟨h.sound.organizations, h.sound.roles, h.sound.users,
    h.sound.containers.map (fun _ => rfl) fun _ hc => hc,
    h.sound.pallets.map (fun _ => rfl) fun _ hx => hx⟩
  accounts := h.accounts
  containers := by
    have huids := h.containers.map hdraw
    rw [List.map_map] at huids
    rw [Operation.redrawn, List.map_map]
    exact huids
  pallets := by
    have huids := h.pallets.map hdraw
    rw [List.map_map] at huids
    rw [Operation.redrawn, List.map_map]
    exact huids
  content := by
    intro x' hx' c' hc' hplace
    obtain ⟨x, hx, rfl⟩ := List.mem_map.1 hx'
    obtain ⟨c, hc, rfl⟩ := List.mem_map.1 hc'
    exact h.content x hx c hc hplace

section Lookup

variable {α κ : Type} [BEq κ] [LawfulBEq κ]

/-- A lookup whose result is hidden unless it is an own row finds what it would find among the own
rows. It takes that no two rows have one key: else a foreign row might hide an own one. -/
theorem find_bind_guard {rows : List α} {key : α → κ} (h : (rows.map key).Nodup) (own : α → Bool)
    (k : κ) (missing : Error) :
    ((Memory.find rows (key · == k) missing).bind fun a => if own a then .ok a else .error missing) =
      Memory.find (rows.filter own) (key · == k) missing := by
  induction rows with
  | nil => rfl
  | cons x xs ih =>
    rw [List.map_cons, List.nodup_cons] at h
    by_cases hx : key x == k
    · have hrest : ∀ y ∈ xs, (key y == k) = false := by
        intro y hy
        refine beq_eq_false_iff_ne.2 fun hyk => h.1 ?_
        rw [eq_of_beq hx, ← hyk]
        exact List.mem_map_of_mem hy
      have hnone : (xs.filter own).find? (key · == k) = none := by
        refine List.find?_eq_none.2 fun y hy => ?_
        simp [hrest y (List.mem_of_mem_filter hy)]
      by_cases hown : own x
      · simp [Memory.find, Except.bind, hx, hown]
      · simp [Memory.find, Except.bind, hx, hown, hnone]
    · have ih := ih h.2
      by_cases hown : own x
      · simpa [Memory.find, hx, hown] using ih
      · simpa [Memory.find, hx, hown] using ih

end Lookup

section Views

variable (id own role : Id)

theorem ensureSameTenant_member (owner : Option Id) (missing : Error) :
    Principal.ensureSameTenant ⟨id, .member own role⟩ owner missing =
      if owner == some own then .ok () else .error missing := by
  cases owner with
  | none => rfl
  | some o =>
    by_cases h : own = o
    · simp [Principal.ensureSameTenant, Principal.isAdmin, Principal.organization?, Kind.isAdmin,
        Kind.organization?, h]
    · have h' : ¬ o = own := fun heq => h heq.symm
      simp [Principal.ensureSameTenant, Principal.isAdmin, Principal.organization?, Kind.isAdmin,
        Kind.organization?, h, h']

theorem guarded_member {α : Type} (owner : Option Id) (missing : Error) (a : α) :
    (do Principal.ensureSameTenant ⟨id, .member own role⟩ owner missing; pure a) =
      if owner == some own then Except.ok a else .error missing := by
  rw [ensureSameTenant_member]
  split <;> rfl

theorem Organizations.visible_member (o : Organization) :
    visible ⟨id, .member own role⟩ o = if o.id == own then .ok o else .error .noOrganization := by
  rw [visible, guarded_member]
  simp

theorem Roles.visible_member (r : Role) :
    visible ⟨id, .member own role⟩ r =
      if r.organizationId == own then .ok r else .error .noRole := by
  rw [visible, guarded_member]
  simp

theorem Users.visible_member (u : User) :
    visible ⟨id, .member own role⟩ u =
      if u.isMember && u.organizationId == some own then .ok u else .error .noUser := rfl

theorem Containers.visible_member (c : Container) :
    visible ⟨id, .member own role⟩ c =
      if c.organizationId == some own then .ok c else .error .noContainer :=
  guarded_member id own role _ _ _

theorem Pallets.visible_member (x : Pallet) :
    visible ⟨id, .member own role⟩ x =
      if x.organizationId == some own then .ok x else .error .noPallet :=
  guarded_member id own role _ _ _

end Views

namespace Holding

def organization (h : Holding) : Finder → Except Error Organization
  | .id id => Memory.find h.organizations (·.id == id) .noOrganization
  | .code code => Memory.find h.organizations (·.code == code) .noOrganization
  | _ => .error missingKey

def role (h : Holding) : Finder → Except Error Role
  | .id id => Memory.find h.roles (·.id == id) .noRole
  | .code code => Memory.find h.roles (·.code == code) .noRole
  | _ => .error missingKey

def user (h : Holding) : Finder → Except Error User
  | .id id => Memory.find h.users (·.id == id) .noUser
  | .email email => Memory.find h.users (·.email == normalizeEmail email) .noUser
  | .phone phone => Memory.find h.users (·.phone == phone) .noUser
  | _ => .error missingUserKey

def container (h : Holding) : Finder → Except Error Container
  | .id id => Memory.find h.containers (·.id == id) .noContainer
  | .uid uid => Memory.find h.containers (·.uid == uid) .noContainer
  | .code code => Memory.find h.containers (·.code == code) .noContainer
  | _ => .error missingUidKey

def pallet (h : Holding) : Finder → Except Error Pallet
  | .id id => Memory.find h.pallets (·.id == id) .noPallet
  | .uid uid => Memory.find h.pallets (·.uid == uid) .noPallet
  | .code code => Memory.find h.pallets (·.code == code) .noPallet
  | _ => .error missingUidKey

def palletsOf (h : Holding) : Option Id → Except Error (List Pallet)
  | some id => do
    let c ← h.container (.id id)
    pure (h.pallets.filter (·.containerId == some c.id))
  | none => .ok h.pallets

def answer (h : Holding) : Job → Except Error Value
  | .organizations =>
    (Memory.find h.organizations (fun _ => true) .noOrganization).map fun o =>
      .page .organization [.organization o]
  | .organization finder => (h.organization finder).map fun o => .row (.organization o)
  | .roles _ => .ok (.page .role (h.roles.map .role))
  | .role finder => (h.role finder).map fun r => .row (.role r)
  | .users .. => .ok (.page .user (h.users.map .user))
  | .user finder => (h.user finder).map fun u => .row (.user u)
  | .containers => .ok (.page .container (h.containers.map .container))
  | .container finder => (h.container finder).map fun c => .row (.container c)
  | .pallets c => (h.palletsOf c).map fun xs => .page .pallet (xs.map .pallet)
  | .pallet finder => (h.pallet finder).map fun x => .row (.pallet x)
  | _ => .ok .done

end Holding

section Answers

variable {m : Memory} (id own role : Id)

theorem lookup_answer {α κ : Type} [BEq κ] [LawfulBEq κ] {rows : List α} {key : α → κ}
    {mine : α → Bool} {k : κ} {missing : Error} {q : Program α} {visible : α → Except Error α}
    (hq : (q.run Memory.handle m).1 = Memory.find rows (key · == k) missing)
    (hv : ∀ a, visible a = if mine a then .ok a else .error missing) (h : (rows.map key).Nodup) :
    ((q.bind fun a => Program.ofExcept (visible a)).run Memory.handle m).1 =
      Memory.find (rows.filter mine) (key · == k) missing := by
  rw [run_guarded, hq, funext hv]
  exact find_bind_guard h mine k missing

theorem call_answer (c : Call) :
    ((Program.call c).run Memory.handle m).1 = (Memory.handle c m).1 := by
  rw [run_call]

theorem organization_answer (hm : Orderly m) (finder : Finder) :
    ((findOrganization ⟨id, .member own role⟩ finder).run Memory.handle m).1 =
      (holding m own).organization finder := by
  have hv := Organizations.visible_member id own role
  have hs := hm.sound.organizations
  cases finder with
  | id key => exact lookup_answer (call_answer (.organizations (.byId key))) hv hs.nodup
  | code code =>
    exact lookup_answer (call_answer (.organizations (.byCode code))) hv
      (hs.codes fun o ho => hs.born o ho)
  | _ => rfl

theorem role_answer (hm : Orderly m) (finder : Finder) :
    ((findRole ⟨id, .member own role⟩ finder).run Memory.handle m).1 =
      (holding m own).role finder := by
  have hv := Roles.visible_member id own role
  have hs := hm.sound.roles
  cases finder with
  | id key => exact lookup_answer (call_answer (.roles (.byId key))) hv hs.nodup
  | code code =>
    exact lookup_answer (call_answer (.roles (.byCode code))) hv (hs.codes fun r hr => hs.born r hr)
  | _ => rfl

theorem user_answer (hm : Orderly m) (finder : Finder) :
    ((findUser ⟨id, .member own role⟩ finder).run Memory.handle m).1 =
      (holding m own).user finder := by
  have hv := Users.visible_member id own role
  cases finder with
  | id key => exact lookup_answer (call_answer (.users (.byId key))) hv hm.sound.users.nodup
  | email email =>
    exact lookup_answer (call_answer (.users (.byEmail (normalizeEmail email)))) hv
      hm.accounts.1
  | phone phone =>
    exact lookup_answer (call_answer (.users (.byPhone phone))) hv hm.accounts.2
  | _ => rfl

theorem container_answer (hm : Orderly m) (finder : Finder) :
    ((findContainer ⟨id, .member own role⟩ finder).run Memory.handle m).1 =
      (holding m own).container finder := by
  have hv := Containers.visible_member id own role
  have hs := hm.sound.containers
  cases finder with
  | id key => exact lookup_answer (call_answer (.containers (.byId key))) hv hs.nodup
  | uid uid =>
    exact lookup_answer (call_answer (.containers (.byUid uid))) hv hm.containers
  | code code =>
    exact lookup_answer (call_answer (.containers (.byCode code))) hv
      (hs.codes fun c hc => (hs.born c hc).1)
  | _ => rfl

theorem pallet_answer (hm : Orderly m) (finder : Finder) :
    ((findPallet ⟨id, .member own role⟩ finder).run Memory.handle m).1 =
      (holding m own).pallet finder := by
  have hv := Pallets.visible_member id own role
  have hs := hm.sound.pallets
  cases finder with
  | id key => exact lookup_answer (call_answer (.pallets (.byId key))) hv hs.nodup
  | uid uid =>
    exact lookup_answer (call_answer (.pallets (.byUid uid))) hv hm.pallets
  | code code =>
    exact lookup_answer (call_answer (.pallets (.byCode code))) hv
      (hs.codes fun x hx => (hs.born x hx).1)
  | _ => rfl

/-- The pallets of an own container are own pallets, so nothing is lost by looking among these. -/
theorem content_eq (hm : Orderly m) {c : Container} (hc : c ∈ m.containers.rows)
    (hown : c.organizationId = some own) :
    m.pallets.rows.filter (·.containerId == some c.id) =
      (holding m own).pallets.filter (·.containerId == some c.id) := by
  rw [holding, List.filter_filter]
  refine List.filter_congr fun x hx => ?_
  by_cases hplace : x.containerId = some c.id
  · simp [hplace, hm.content x hx c hc hplace, hown]
  · simp [hplace]

theorem pallets_answer (hm : Orderly m) (container : Option Id) :
    ((Pallets.list ⟨id, .member own role⟩ container).run Memory.handle m).1 =
      (holding m own).palletsOf container := by
  cases container with
  | none => exact call_answer (.pallets (.ofOrganization own))
  | some key =>
    have hlookup : _ = (holding m own).container (.id key) :=
      find_bind_guard hm.sound.containers.nodup (·.organizationId == some own) key .noContainer
    have hcall : (Program.call (.containers (.byId key))).run Memory.handle m =
        (Memory.find m.containers.rows (·.id == key) .noContainer, m) := run_call _ m
    simp only [Pallets.list, Holding.palletsOf, bind_eq, lift_eq, run_bind, hcall, ← hlookup]
    cases hfind : Memory.find m.containers.rows (·.id == key) .noContainer with
    | error e => rfl
    | ok c =>
      simp only [run_ofExcept, ensureSameTenant_member, Except.bind]
      by_cases hown : c.organizationId == some own
      · have hc := (find_eq_ok hfind).1
        simp only [hown, if_true]
        exact congrArg Except.ok (content_eq own hm hc (by simpa using hown))
      · simp only [hown]
        rfl

theorem organizations_answer :
    ((Organizations.list ⟨id, .member own role⟩).run Memory.handle m).1 =
      (Memory.find (holding m own).organizations (fun _ => true) .noOrganization).map ([·]) := by
  have hfind : Memory.find m.organizations.rows (·.id == own) .noOrganization =
      Memory.find (holding m own).organizations (fun _ => true) .noOrganization := by
    rw [holding, Memory.find, Memory.find, List.find?_filter]
    congr 2
    funext o
    exact Bool.eq_iff_iff.2 (by simp)
  have hcall : (Program.call (.organizations (.byId own))).run Memory.handle m =
      (Memory.find m.organizations.rows (·.id == own) .noOrganization, m) := run_call _ m
  simp only [Organizations.list, bind_eq, run_bind, hcall, hfind]
  cases Memory.find (holding m own).organizations (fun _ => true) .noOrganization <;> rfl

theorem run_map {α β : Type} (q : Program α) (f : α → β) :
    ((q.bind fun a => .done (f a)).run Memory.handle m).1 = (q.run Memory.handle m).1.map f := by
  rw [run_bind]
  cases q.run Memory.handle m with
  | mk r m' => cases r <;> rfl

theorem read_answer (hm : Orderly m) (s : Accounts.Settings) {j : Job} (hj : j.ReadsTenant) :
    ((j.perform s ⟨id, .member own role⟩).run Memory.handle m).1 = (holding m own).answer j := by
  cases j with
  | organizations =>
    refine (run_map _ _).trans ?_
    rw [organizations_answer, Holding.answer]
    cases Memory.find (holding m own).organizations (fun _ => true) .noOrganization <;> rfl
  | organization finder =>
    exact (run_map _ _).trans (congrArg _ (organization_answer id own role hm finder))
  | roles o => exact (run_map _ _).trans (congrArg _ (call_answer (.roles (.ofOrganization own))))
  | role finder => exact (run_map _ _).trans (congrArg _ (role_answer id own role hm finder))
  | users filter o =>
    exact (run_map _ _).trans (congrArg _ (call_answer (.users (.ofOrganization own))))
  | user finder => exact (run_map _ _).trans (congrArg _ (user_answer id own role hm finder))
  | containers =>
    exact (run_map _ _).trans (congrArg _ (call_answer (.containers (.ofOrganization own))))
  | container finder =>
    exact (run_map _ _).trans (congrArg _ (container_answer id own role hm finder))
  | pallets c => exact (run_map _ _).trans (congrArg _ (pallets_answer id own role hm c))
  | pallet finder => exact (run_map _ _).trans (congrArg _ (pallet_answer id own role hm finder))
  | _ => exact hj.elim

end Answers

/-- Reads of a member are the same in any two states that agree on the rows of the member's
organization, the errors and their messages included. -/
theorem reads_do_not_interfere {m₁ m₂ : Memory} (h₁ : Orderly m₁) (h₂ : Orderly m₂) {own : Id}
    (h : holding m₁ own = holding m₂ own) (s : Accounts.Settings) (id role : Id) {j : Job}
    (hj : j.ReadsTenant) :
    ((j.perform s ⟨id, .member own role⟩).run Memory.handle m₁).1 =
      ((j.perform s ⟨id, .member own role⟩).run Memory.handle m₂).1 := by
  rw [read_answer id own role h₁ s hj, read_answer id own role h₂ s hj, h]

/-- In the second state another organization had two pallets before the container was made, so that its
identifier was the third one to be drawn. The member of the first organization looks for one of these
pallets. -/
theorem foreign_pallet_is_like_none :
    ∃ (m₁ m₂ : Memory) (draw : Uid → Uid) (j : Job), Reachable m₁ ∧ Reachable m₂ ∧
      Function.Injective draw ∧ holding m₁ 1 = holding (redrawn m₂ draw) 1 ∧
      (holding m₁ 1).containers.map (·.uid) = [Uid.drawn 0] ∧
      (holding m₂ 1).containers.map (·.uid) = [Uid.drawn 2] ∧
      m₁.pallets.rows = [] ∧ (redrawn m₂ draw).pallets.rows.map (·.uid) = [.drawn 2, .drawn 1] ∧
      j = .pallet (.uid (.drawn 1)) ∧ j.ReadsTenant ∧
      ((j.perform ⟨"k", 60, 4⟩ ⟨1, .member 1 1⟩).run Memory.handle m₁).1 =
        ((j.perform ⟨"k", 60, 4⟩ ⟨1, .member 1 1⟩).run Memory.handle (redrawn m₂ draw)).1 := by
  let s : Accounts.Settings := ⟨"k", 60, 4⟩
  let first : Act := .registerOrganization ⟨"A", none, ⟨"A", "A", "a", "1", "secret"⟩⟩
  let second : Act := .registerOrganization ⟨"B", none, ⟨"B", "B", "b", "2", "secret"⟩⟩
  let pallet : Act := .job ⟨2, .member 2 2⟩ (.palletCreate ⟨none, none, none⟩)
  let container : Act := .job ⟨1, .member 1 1⟩ (.containerCreate ⟨none, none⟩)
  let draw : Uid → Uid := Equiv.swap (Uid.drawn 0) (Uid.drawn 2)
  have hdraw : Function.Injective draw := Equiv.injective _
  let m := (first.event s (Memory.empty ⟨0⟩)).after
  let n := (second.event s m).after
  let n' := (pallet.event s (pallet.event s n).after).after
  let m₁ := (container.event s m).after
  let m₂ := (container.event s n').after
  have hm : Run s _ m := (Run.start ⟨0⟩).act first
  have h₁ : Reachable m₁ := ⟨s, _, hm.act container⟩
  have h₂ : Reachable m₂ := ⟨s, _, (((hm.act second).act pallet).act pallet).act container⟩
  have h : holding m₁ 1 = holding (redrawn m₂ draw) 1 := by decide +kernel
  refine ⟨m₁, m₂, draw, .pallet (.uid (.drawn 1)), h₁, h₂, hdraw, h, ?_, ?_, ?_, ?_, rfl, trivial,
    reads_do_not_interfere h₁.orderly (h₂.orderly.redrawn hdraw) h s 1 1 trivial⟩
  · decide +kernel
  · decide +kernel
  · decide +kernel
  · decide +kernel

end Depot.Operation
