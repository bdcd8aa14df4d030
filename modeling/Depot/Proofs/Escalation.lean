import Depot.Proofs.History
import Depot.Proofs.Lifetime
import Depot.Proofs.Requests
import Depot.Startup

namespace Depot

open Operation Store

namespace Store.Memory

def admins (m : Memory) : List Id := (m.users.rows.filter (·.isAdmin)).map (·.id)

def orgAdminRoles (m : Memory) : List Id := (m.roles.rows.filter (·.isOrgAdmin)).map (·.id)

def orgAdmins (m : Memory) : List Id :=
  (m.users.rows.filter fun u => u.roleId.any m.orgAdminRoles.contains).map (·.id)

variable {m : Memory} {id : Id}

theorem mem_admins : id ∈ m.admins ↔ ∃ u ∈ m.users.rows, u.isAdmin ∧ u.id = id := by
  simp [admins, and_assoc]

theorem mem_orgAdminRoles :
    id ∈ m.orgAdminRoles ↔ ∃ r ∈ m.roles.rows, r.isOrgAdmin ∧ r.id = id := by
  simp [orgAdminRoles, and_assoc]

theorem mem_orgAdmins : id ∈ m.orgAdmins ↔
    ∃ u ∈ m.users.rows, (∃ role ∈ m.orgAdminRoles, u.roleId = some role) ∧ u.id = id := by
  simp only [orgAdmins, List.mem_map, List.mem_filter, Option.any_eq_true, List.contains_iff_mem,
    and_assoc]
  refine exists_congr fun u => and_congr_right fun _ => and_congr_left fun _ => ?_
  exact exists_congr fun role => and_comm

end Store.Memory

def Principal.IsOrgAdmin (p : Principal) (m : Memory) : Prop :=
  ∃ r ∈ m.roles.rows, p.role? = some r.id ∧ r.isOrgAdmin

namespace Http

/-- What a request may have made of a state, by whoever may appoint administrators of the own
organization. -/
structure Confined (p : Principal) (r : Request) (m m' : Memory) : Prop where
  admins : m'.admins ⊆ m.admins
  roles : Endpoint.ofPath? r.route ≠ some .registerOrganization → ∀ role ∈ m'.roles.rows,
    role.isOrgAdmin → role.id ∈ m.orgAdminRoles ∨
      p.IsOrgAdmin m ∧ p.organization? = some role.organizationId
  holders : Endpoint.ofPath? r.route ≠ some .registerOrganization → ∀ u ∈ m'.users.rows,
    ∀ role ∈ m'.roles.rows, role.isOrgAdmin → u.roleId = some role.id →
      u.id ∈ m.orgAdmins ∨ p.IsOrgAdmin m ∧ p.organization? = u.organizationId

namespace Confined

variable {s : Accounts.Settings} {p : Principal} {r : Request} {m : Memory}

theorem refl : Confined p r m m where
  admins := List.Subset.refl _
  roles _ role hrole hadmin := .inl (Memory.mem_orgAdminRoles.2 ⟨role, hrole, hadmin, rfl⟩)
  holders _ u hu role hrole hadmin hid :=
    .inl (Memory.mem_orgAdmins.2 ⟨u, hu, ⟨role.id,
      Memory.mem_orgAdminRoles.2 ⟨role, hrole, hadmin, rfl⟩, hid⟩, rfl⟩)

/-- Who administers an organization by a role that was seen on the way did so from the start. -/
theorem isOrgAdmin {seen : List Memory} (h : ∀ n ∈ seen, Confined p r m n)
    (hroute : Endpoint.ofPath? r.route ≠ some .registerOrganization) (hp : p.isAdmin = false)
    (hadministers : p.Administers seen) : p.IsOrgAdmin m := by
  obtain ⟨id, kind⟩ := p
  cases kind with
  | admin => cases hp
  | customer => exact hadministers.elim
  | member own id =>
    obtain ⟨role, ⟨n, hn, hrole⟩, rfl, hadmin⟩ := hadministers
    obtain hold | ⟨hleads, -⟩ := (h n hn).roles hroute role hrole hadmin
    · obtain ⟨old, hold, hadmin', hid⟩ := Memory.mem_orgAdminRoles.1 hold
      exact ⟨old, hold, congrArg some hid.symm, hadmin'⟩
    · exact hleads

variable {x : Memory} {past l seen : List Memory} {c : Call}

theorem admins_call (hist : History s (x :: past)) (hseen : seen ⊆ x :: past)
    (hx : Confined p r m x) (hc : Permits s (some p) r seen c) (hp : p.isAdmin = false) :
    (Memory.handle c x).2.admins ⊆ m.admins := by
  obtain ⟨a, ha, hc⟩ := hc
  intro id hid
  obtain ⟨u, hu, hadmin, rfl⟩ := Memory.mem_admins.1 hid
  obtain ⟨old, hold, heq⟩ | hnew :=
    (Memory.handle_step c (hist.lineage.faithful hseen hc)).users.exists hu
  · have hflags : old.flags = u.flags := user_flags heq
    refine hx.admins (Memory.mem_admins.2 ⟨old, hold, ?_, congrArg Flags.id hflags⟩)
    exact (congrArg Flags.isAdmin hflags).trans hadmin
  · cases hnew with
    | customer | register => cases hadmin
    | insert new =>
      cases hc with
      | read hc => exact hc.elim
      | seedAdmin _ => cases ha
      | registerAdmin _ =>
        cases ha with
        | registerAdmin hp' => exact absurd hp' (by simp [hp])
      | registerMember => cases hadmin
      | job hj => cases hj

theorem route_of_register {new : NewOrganization} {owner : NewAccount}
    (hc : Permits s (some p) r seen (.organizations (.register new owner))) :
    Endpoint.ofPath? r.route = some .registerOrganization := by
  obtain ⟨a, ha, hc⟩ := hc
  cases hc with
  | read hc => exact hc.elim
  | registerOrganization _ =>
    cases ha with
    | registerOrganization hr => exact hr
  | job hj => cases hj

theorem role_added (hp : p.isAdmin = false)
    (hroute : Endpoint.ofPath? r.route ≠ some .registerOrganization)
    (h : ∀ n ∈ seen, Confined p r m n) (hc : Permits s (some p) r seen c) {role : Role}
    (hnew : x.AddsRole c role) (hadmin : role.isOrgAdmin) :
    p.IsOrgAdmin m ∧ p.organization? = some role.organizationId := by
  cases hnew with
  | register new owner => exact absurd (route_of_register hc) hroute
  | insert new =>
    obtain ⟨a, ha, hc⟩ := hc
    cases hc with
    | read hc => exact hc.elim
    | job hj =>
      cases ha
      cases hj with
      | roleCreate _ _ howner _ hadministers =>
        exact ⟨isOrgAdmin h hroute hp (hadministers hadmin),
          Principal.organization?_of_owningTenant hp howner⟩

/-- A new user holds a role that administers an organization only by the will of one who does. -/
theorem holder_added (hp : p.isAdmin = false)
    (hroute : Endpoint.ofPath? r.route ≠ some .registerOrganization)
    (h : ∀ n ∈ seen, Confined p r m n) (hc : Permits s (some p) r seen c) {u : User}
    (hnew : x.AddsUser c u) {id : Id} (hid : u.roleId = some id)
    (hadmin : ∀ role, Stored seen (.role role) → role.id = id → role.isOrgAdmin) :
    p.IsOrgAdmin m ∧ p.organization? = u.organizationId := by
  cases hnew with
  | customer account => cases hid
  | register new owner => exact absurd (route_of_register hc) hroute
  | insert new =>
    obtain ⟨a, ha, hc⟩ := hc
    cases hc with
    | read hc => exact hc.elim
    | seedAdmin _ | registerAdmin _ => cases hid
    | job hj => cases hj
    | registerMember howner _ hrole _ _ hadministers _ =>
      cases ha
      have hleads := hadministers (hadmin _ hrole (Option.some.inj hid))
      exact ⟨isOrgAdmin h hroute hp hleads, Principal.organization?_of_owningTenant hp howner⟩

/-- One call of a request keeps to the bounds that all states since its start have kept to. -/
theorem call (hist : History s (x :: past)) (hseen : seen ⊆ x :: past)
    (h : ∀ n ∈ x :: seen, Confined p r m n) (hc : Permits s (some p) r seen c)
    (hp : p.isAdmin = false) : Confined p r m (Memory.handle c x).2 := by
  have hx : Confined p r m x := h x List.mem_cons_self
  have hbefore : ∀ n ∈ seen, Confined p r m n := fun n hn => h n (List.mem_cons_of_mem _ hn)
  have hstep : x.Step c (Memory.handle c x).2 :=
    Memory.handle_step c (hist.lineage.faithful hseen hc.choose_spec.2)
  have hl : Lineage ((Memory.handle c x).2 :: x :: past) :=
    (hist.call hseen hc.choose_spec.2).lineage
  refine ⟨admins_call hist hseen hx hc hp, fun hroute role hrole hadmin => ?_,
    fun hroute u hu role hrole hadmin hid => ?_⟩
  · obtain ⟨old, hold, heq⟩ | hnew := hstep.roles.exists hrole
    · have hkey : old.id = role.id := key_eq heq
      rw [← hkey, ← role_owner heq]
      exact hx.roles hroute old hold ((role_isOrgAdmin heq).trans hadmin)
    · exact .inr (role_added hp hroute hbefore hc hnew hadmin)
  · have hrole' : Stored ((Memory.handle c x).2 :: x :: past) (.role role) :=
      ⟨_, List.mem_cons_self, hrole⟩
    obtain ⟨oldUser, holdUser, huser⟩ | hnew := hstep.users.exists hu
    · obtain ⟨old, hold, heq⟩ | hnew := hstep.roles.exists hrole
      · have hkey : old.id = role.id := key_eq heq
        have hkey' : oldUser.id = u.id := key_eq huser
        rw [← hkey', ← user_owner huser]
        refine hx.holders hroute oldUser holdUser old hold ((role_isOrgAdmin heq).trans hadmin) ?_
        rw [hkey, ← hid]
        exact user_role huser
      · -- the number is new, so nobody holds the role but by the organization's own doing
        obtain ⟨old, hold, hkey, howner⟩ := hl.role u ⟨_, List.mem_cons_self, hu⟩ role.id hid
        obtain ⟨hleads, horganization⟩ := role_added hp hroute hbefore hc hnew hadmin
        refine .inr ⟨hleads, horganization.trans ?_⟩
        rw [howner, role_owner (hl.role_origin hold hrole' hkey)]
    · refine .inr (holder_added hp hroute hbefore hc hnew hid fun old hold hkey => ?_)
      have hpast : seen ⊆ (Memory.handle c x).2 :: x :: past :=
        List.Subset.trans hseen (List.subset_cons_self _ _)
      exact (role_isOrgAdmin (hl.role_origin (hold.mono hpast) hrole' hkey)).trans hadmin

end Confined

/-- The states that a service comes to, from the empty store, by requests of anybody, also such as are
given up before their end, and by setting up its administrator. -/
inductive Serving (settings : Accounts.Settings) : Memory → Prop
  | start (clock : Timestamp) : Serving settings (Memory.empty clock)
  | tick {m : Memory} (h : Serving settings m) (now : Timestamp) :
    Serving settings { m with clock := now }
  | seed {m : Memory} (h : Serving settings m) (c : Config) :
    Serving settings (Startup.seed Memory.handle settings c m).2
  | receive {m : Memory} (h : Serving settings m) (loader : Loader.Config) (now : Int)
    (seconds : Nat) (waits : List Program.Wait) (r : Request) :
    Serving settings
      (((⟨⟨settings, loader, now⟩, seconds⟩ : Server).receive waits r).run Memory.handle m).2

theorem Serving.request {settings : Accounts.Settings} {m : Memory} (h : Serving settings m)
    (loader : Loader.Config) (now : Int) (r : Request) :
    Serving settings (((⟨settings, loader, now⟩ : Service).respond r).run Memory.handle m).2 := by
  let s : Server := ⟨⟨settings, loader, now⟩, 0⟩
  by_cases hr : r.method = "OPTIONS"
  · rwa [Service.run_respond_options s.service hr]
  · have hreceive := h.receive loader now 0 [] r
    rwa [Server.run_receive s hr (Nat.zero_le _)] at hreceive

theorem history_run {s : Accounts.Settings} {α : Type} {q : Program α} {m : Memory}
    {past : List Memory} (h : History s (m :: past))
    (hq : Program.Conforms Memory.handle (fun seen c => ∃ a, Act.Licensed s seen a c)
      (fun _ _ => True) [] q) : ∃ past, History s ((q.run Memory.handle m).2 :: past) := by
  obtain ⟨past', h', -⟩ := hq.run (H := History s)
    (fun _ _ _ _ hseen hc h => h.call hseen hc.choose_spec) (List.nil_subset _) h
  exact ⟨past', h'⟩

theorem Serving.history {s : Accounts.Settings} {m : Memory} (h : Serving s m) :
    ∃ past, History s (m :: past) := by
  induction h with
  | start clock => exact ⟨[], .start clock⟩
  | tick _ now ih =>
    obtain ⟨past, ih⟩ := ih
    exact ⟨_, .tick ih now⟩
  | seed _ c ih =>
    obtain ⟨past, ih⟩ := ih
    unfold Startup.seed
    split
    · exact ⟨past, ih⟩
    · rename_i email phone password _
      refine history_run ih ?_
      have hact : Program.Conforms _ _ _ [] (Act.perform s (.seedAdmin email phone password)) :=
        Act.perform_conforms s _
      exact hact.of_bind.mono (fun _ _ hc => ⟨_, hc⟩) fun _ _ _ _ => trivial
  | receive _ loader now seconds waits r ih =>
    obtain ⟨past, ih⟩ := ih
    exact history_run ih (Server.receive_licensed ⟨⟨s, loader, now⟩, seconds⟩ waits r)

theorem confined_of_respond {s : Service} {m : Memory} (h : Serving s.settings m) {r : Request}
    {p : Principal} (hcaller : s.caller r = .ok (some p)) (hp : p.isAdmin = false) :
    Confined p r m ((s.respond r).run Memory.handle m).2 ∧
      ((s.respond r).run Memory.handle m).2.Sound := by
  obtain ⟨past, hist⟩ := h.history
  let bounded (l : List Memory) := (∀ n ∈ l, Confined p r m n) ∧ History s.settings (l ++ past)
  have hstart : bounded [m] := by
    refine ⟨fun n hn => ?_, hist⟩
    obtain rfl := List.mem_singleton.1 hn
    exact .refl
  have hstep (seen : List Memory) (c : Call) (x : Memory) (l : List Memory) (hseen : seen ⊆ x :: l)
      (hc : Permits s.settings (some p) r seen c) (hx : bounded (x :: l)) :
      bounded ((Memory.handle c x).2 :: x :: l) := by
    have hpast : seen ⊆ x :: (l ++ past) := fun n hn => List.mem_append_left past (hseen hn)
    have hbounds : ∀ n ∈ x :: seen, Confined p r m n := fun n hn =>
      hx.1 n (List.cons_subset.2 ⟨List.mem_cons_self, hseen⟩ hn)
    refine ⟨List.forall_mem_cons.2 ⟨?_, hx.1⟩, hx.2.call hpast hc.choose_spec.2⟩
    exact Confined.call hx.2 hpast hbounds hc hp
  have hconforms : Program.Conforms _ _ _ [] (s.respond r) := Service.respond_conforms hcaller
  obtain ⟨l, ⟨hl, hist'⟩, -⟩ := hconforms.run hstep (List.nil_subset _) hstart
  exact ⟨hl _ List.mem_cons_self, hist'.lineage.sound _ List.mem_cons_self⟩

/-- A request of a principal who does not run the platform makes no administrators of it. Unless it
registers an organization, it makes no administrators of organizations either if the principal is
not one, and none but of the principal's own if it is. -/
theorem privileges_do_not_escalate {s : Service} {m : Memory} (h : Serving s.settings m)
    {r : Request} {p : Principal} (hcaller : s.caller r = .ok (some p))
    (hp : p.isAdmin = false) {m' : Memory}
    (hm' : ((s.respond r).run Memory.handle m).2 = m') :
    m'.admins ⊆ m.admins ∧
    (Endpoint.ofPath? r.route ≠ some .registerOrganization →
      (¬ p.IsOrgAdmin m → m'.orgAdminRoles ⊆ m.orgAdminRoles ∧ m'.orgAdmins ⊆ m.orgAdmins) ∧
      ∀ own role, p.kind = .member own role →
        (∀ x ∈ m'.roles.rows, x.id ∈ m'.orgAdminRoles → x.id ∉ m.orgAdminRoles →
          x.organizationId = own) ∧
        (∀ u ∈ m'.users.rows, u.id ∈ m'.orgAdmins → u.id ∉ m.orgAdmins →
          u.organizationId = some own)) := by
  obtain ⟨hm, hsound⟩ := confined_of_respond h hcaller hp
  rw [hm'] at hm hsound
  have hroles (hroute : Endpoint.ofPath? r.route ≠ some .registerOrganization) (x : Role)
      (hx : x ∈ m'.roles.rows) (hid : x.id ∈ m'.orgAdminRoles) :
      x.id ∈ m.orgAdminRoles ∨ p.IsOrgAdmin m ∧ p.organization? = some x.organizationId := by
    obtain ⟨y, hy, hadmin, hkey⟩ := Memory.mem_orgAdminRoles.1 hid
    obtain rfl := hsound.roles.eq_of_key hx hy hkey.symm
    exact hm.roles hroute x hx hadmin
  have hholders (hroute : Endpoint.ofPath? r.route ≠ some .registerOrganization) (u : User)
      (hu : u ∈ m'.users.rows) (hid : u.id ∈ m'.orgAdmins) :
      u.id ∈ m.orgAdmins ∨ p.IsOrgAdmin m ∧ p.organization? = u.organizationId := by
    obtain ⟨v, hv, ⟨role, hrole, hheld⟩, hkey⟩ := Memory.mem_orgAdmins.1 hid
    obtain rfl := hsound.users.eq_of_key hu hv hkey.symm
    obtain ⟨x, hx, hadmin, rfl⟩ := Memory.mem_orgAdminRoles.1 hrole
    exact hm.holders hroute u hu x hx hadmin hheld
  refine ⟨hm.admins, fun hroute => ⟨fun hno => ⟨fun id hid => ?_, fun id hid => ?_⟩,
    fun own role hkind => ⟨fun x hx hid hnew => ?_, fun u hu hid hnew => ?_⟩⟩⟩
  · obtain ⟨x, hx, -, rfl⟩ := Memory.mem_orgAdminRoles.1 hid
    exact (hroles hroute x hx hid).resolve_right fun h => hno h.1
  · obtain ⟨u, hu, -, rfl⟩ := Memory.mem_orgAdmins.1 hid
    exact (hholders hroute u hu hid).resolve_right fun h => hno h.1
  · have horganization := ((hroles hroute x hx hid).resolve_left hnew).2
    simpa [Principal.organization?, hkind, Kind.organization?, eq_comm] using horganization
  · have horganization := ((hholders hroute u hu hid).resolve_left hnew).2
    simpa [Principal.organization?, hkind, Kind.organization?, eq_comm] using horganization

/-- The owner of the first of two organizations makes another role that administers it. -/
theorem owner_adds_administration_at_home :
    ∃ (s : Service) (m m' : Memory) (r : Request) (p : Principal), Serving s.settings m ∧
      s.caller r = .ok (some p) ∧ p.isAdmin = false ∧ ((s.respond r).run Memory.handle m).2 = m' ∧
      m.orgAdminRoles = [1, 2] ∧ m'.orgAdminRoles = [1, 2, 3] ∧ m'.admins ⊆ m.admins ∧
      ∀ x ∈ m'.roles.rows, x.id = 3 → x.organizationId = 1 := by
  let s : Service := ⟨⟨"k", 60, 4⟩, ⟨0, 1⟩, 0⟩
  let opening (name : String) : Request :=
    ⟨"POST", "/api/auth/organization/register", [("content-type", "application/json")],
      "\x7b\"orgName\":\"A\",\"firstName\":\"A\",\"lastName\":\"A\",\"email\":\"" ++ name ++
        "@b.co\",\"phone\":\"" ++ name ++ "\",\"password\":\"secret\"\x7d"⟩
  let claims : Token.Claims := ⟨1, false, true, false, some 1, some 1, 60, 0⟩
  let r : Request :=
    ⟨"POST", "/api/gql/query", [("authorization", "Bearer " ++ Token.sign "k" claims)],
      "\x7b\"query\":\"mutation \x7b roleCreate(input: \x7bname: \\\"B\\\", permissions: [], " ++
        "isOrgAdmin: true\x7d) \x7b id \x7d \x7d\"\x7d"⟩
  let p : Principal := ⟨1, .member 1 1⟩
  let m₁ := ((s.respond (opening "1")).run Memory.handle (Memory.empty ⟨0⟩)).2
  let m := ((s.respond (opening "2")).run Memory.handle m₁).2
  have hm : Serving s.settings m := ((Serving.start ⟨0⟩).request ⟨0, 1⟩ 0 _).request ⟨0, 1⟩ 0 _
  have hwords : claims.InWords := ⟨by decide, by decide, by decide, by decide, by decide⟩
  have hcaller : s.caller r = .ok (some p) := Service.caller_of_bearer rfl hwords (by decide) rfl
  have hroute : Endpoint.ofPath? r.route ≠ some .registerOrganization := by decide +kernel
  have hbefore : m.orgAdminRoles = [1, 2] := by decide +kernel
  have hafter : ((s.dispatch (some p) r).run Memory.handle m).2.orgAdminRoles = [1, 2, 3] := by
    decide +kernel
  obtain ⟨m', hm'⟩ : ∃ m', ((s.respond r).run Memory.handle m).2 = m' := ⟨_, rfl⟩
  rw [← Service.run_respond hcaller rfl m, hm'] at hafter
  obtain ⟨hadmins, hrest⟩ := privileges_do_not_escalate hm hcaller rfl hm'
  refine ⟨s, m, m', r, p, hm, hcaller, rfl, hm', hbefore, hafter, hadmins, fun x hx hid => ?_⟩
  refine ((hrest hroute).2 1 1 rfl).1 x hx ?_ ?_
  · rw [hid, hafter]
    decide
  · rw [hid, hbefore]
    decide

end Http

end Depot
