import Depot.Proofs.Lifetime
import Depot.Proofs.Requests

namespace Depot.GraphQL

open Loader Operation Program Store

/-- The fields that demand a permission, and whether members and customers may hold it. Of the other
fields only the catalog of permissions may be asked for without credentials. -/
def fieldDemands : List (String × Demand) :=
  [("organizations", ⟨.readOrganization, true, false⟩),
    ("organization", ⟨.readOrganization, true, false⟩),
    ("organizationUpdate", ⟨.updateOrganization, true, false⟩),
    ("organizationArchive", ⟨.updateOrganization, true, false⟩),
    ("organizationUnarchive", ⟨.updateOrganization, true, false⟩),
    ("organizationDelete", ⟨.deleteOrganization, true, false⟩),
    ("roles", ⟨.readRole, true, false⟩),
    ("role", ⟨.readRole, true, false⟩),
    ("roleCreate", ⟨.createRole, true, false⟩),
    ("roleUpdate", ⟨.updateRole, true, false⟩),
    ("roleDelete", ⟨.deleteRole, true, false⟩),
    ("users", ⟨.readUser, true, false⟩),
    ("user", ⟨.readUser, true, true⟩),
    ("userUpdate", ⟨.updateUser, true, false⟩),
    ("userDelete", ⟨.deleteUser, true, false⟩),
    ("containers", ⟨.readContainer, true, false⟩),
    ("container", ⟨.readContainer, true, false⟩),
    ("containerCreate", ⟨.createContainer, true, false⟩),
    ("containerUpdate", ⟨.updateContainer, true, false⟩),
    ("containerArchive", ⟨.updateContainer, true, false⟩),
    ("containerUnarchive", ⟨.updateContainer, true, false⟩),
    ("containerDelete", ⟨.deleteContainer, true, false⟩),
    ("pallets", ⟨.readPallet, true, false⟩),
    ("pallet", ⟨.readPallet, true, false⟩),
    ("palletCreate", ⟨.createPallet, true, false⟩),
    ("palletUpdate", ⟨.updatePallet, true, false⟩),
    ("palletArchive", ⟨.updatePallet, true, false⟩),
    ("palletUnarchive", ⟨.updatePallet, true, false⟩),
    ("palletDelete", ⟨.deletePallet, true, false⟩)]

def fieldDemand (name : String) : Option Demand :=
  (fieldDemands.find? (·.1 == name)).map (·.2)

theorem exists_of_map_eq_ok {ε α β : Type} {r : Except ε α} {f : α → β} {b : β}
    (h : r.map f = .ok b) : ∃ a, f a = b := by
  cases r with
  | ok a => exact ⟨a, Except.ok.inj h⟩
  | error e => cases h

theorem demand_of_queryJob {spec : RootSpec Job} (h : spec ∈ queryJobs) {a : Args} {j : Job}
    (hj : spec.build a = .ok j) : demand j = fieldDemand spec.name := by
  simp only [queryJobs, List.mem_cons, List.not_mem_nil, or_false] at h
  rcases h with rfl | rfl | rfl | rfl | rfl | rfl | rfl | rfl | rfl | rfl | rfl | rfl
  -- an identifier may be unreadable, so the two fields that take one build in two steps
  case inr.inr.inr.inr.inr.inr.inr.inr.inr.inl | inr.inr.inr.inr.inr.inr.inr.inr.inr.inr.inr =>
    obtain ⟨finder, rfl⟩ := exists_of_map_eq_ok hj
    rfl
  all_goals
    cases hj
    rfl

theorem demand_of_mutationJob {spec : RootSpec Job} (h : spec ∈ mutationJobs) {a : Args} {j : Job}
    (hj : spec.build a = .ok j) : demand j = fieldDemand spec.name := by
  simp only [mutationJobs, List.mem_cons, List.not_mem_nil, or_false] at h
  rcases h with rfl | rfl | rfl | rfl | rfl | rfl | rfl | rfl | rfl | rfl | rfl | rfl | rfl | rfl |
    rfl | rfl | rfl | rfl | rfl | rfl
  all_goals
    cases hj
    rfl

theorem build_of_map {specs : List (RootSpec Job)} {spec : RootSpec RootField} {a : Args} {j : Job}
    (h : spec ∈ specs.map (·.map .job)) (hj : spec.build a = .ok (.job j)) :
    ∃ spec' ∈ specs, spec'.name = spec.name ∧ spec'.build a = .ok j := by
  obtain ⟨spec', hspec, rfl⟩ := List.mem_map.1 h
  refine ⟨spec', hspec, rfl, ?_⟩
  simp only [RootSpec.map] at hj
  cases hb : spec'.build a with
  | ok j' =>
    rw [hb] at hj
    cases hj
    rfl
  | error e =>
    rw [hb] at hj
    cases hj

theorem build_of_rootField {t : RootType} {sel : Selection} {f : RootField}
    (h : rootField? t sel = .ok f) :
    ∃ spec ∈ t.fields, spec.name = sel.name ∧ ∃ a, spec.build a = .ok f := by
  unfold rootField? at h
  cases hspec : t.field? sel.name with
  | none => simp [hspec] at h
  | some spec =>
    have hname : spec.name = sel.name := by simpa using List.find?_some hspec
    refine ⟨spec, List.mem_of_find?_eq_some hspec, hname, ?_⟩
    cases hargs : spec.args.read? sel.args with
    | none => simp [hspec, hargs] at h
    | some a =>
      simp only [hspec, hargs] at h
      exact ⟨a, h⟩

theorem demand_of_rootField {t : RootType} {sel : Selection} {j : Job}
    (h : rootField? t sel = .ok (.job j)) : demand j = fieldDemand sel.name := by
  obtain ⟨spec, hmem, hname, a, hbuild⟩ := build_of_rootField h
  rw [← hname]
  cases t with
  | query =>
    obtain rfl | hmem := List.mem_cons.1 hmem
    · cases hbuild
    · obtain ⟨spec', hspec', hname', hb⟩ := build_of_map hmem hbuild
      rw [← hname']
      exact demand_of_queryJob hspec' hb
  | mutation =>
    obtain ⟨spec', hspec', hname', hb⟩ := build_of_map hmem hbuild
    rw [← hname']
    exact demand_of_mutationJob hspec' hb

theorem job_of_rootField {t : RootType} {sel : Selection} {f : RootField}
    (h : rootField? t sel = .ok f) (hname : sel.name ≠ "permissions") : ∃ j, f = .job j := by
  obtain ⟨spec, hmem, hspec, a, hbuild⟩ := build_of_rootField h
  cases f with
  | job j => exact ⟨j, rfl⟩
  | permissions =>
    have hspecs : ∀ specs : List (RootSpec Job), spec ∉ specs.map (·.map .job) := by
      intro specs hmem
      obtain ⟨spec', -, rfl⟩ := List.mem_map.1 hmem
      obtain ⟨j, hj⟩ := exists_of_map_eq_ok hbuild
      cases hj
    cases t with
    | query =>
      obtain rfl | hmem := List.mem_cons.1 hmem
      · exact absurd hspec.symm hname
      · exact absurd hmem (hspecs _)
    | mutation => exact absurd hmem (hspecs _)

theorem fieldDemand_eq_none_iff {t : RootType} {spec : RootSpec RootField} (h : spec ∈ t.fields) :
    fieldDemand spec.name = none ↔
      spec.name ∈ ["permissions", "me", "profile", "changePassword"] := by
  have hall : ∀ name ∈ t.fields.map (·.name), fieldDemand name = none ↔
      name ∈ ["permissions", "me", "profile", "changePassword"] := by
    cases t <;> decide
  exact hall _ (List.mem_map_of_mem h)

theorem demands_nothing_iff {t : RootType} {sel : Selection} {f : RootField}
    (h : rootField? t sel = .ok f) (hname : sel.name ≠ "permissions") :
    fieldDemand sel.name = none ↔ sel.name ∈ ["me", "profile", "changePassword"] := by
  obtain ⟨spec, hmem, hspec, -⟩ := build_of_rootField h
  rw [← hspec, fieldDemand_eq_none_iff hmem, hspec, List.mem_cons, or_iff_right hname]

theorem name_ne_typeField {t : RootType} {sel : Selection} {j : Job}
    (h : rootField? t sel = .ok (.job j)) : sel.name ≠ typeField := by
  intro hname
  have hnone : t.field? typeField = none := by cases t <;> rfl
  simp [rootField?, hname, hnone] at h

def rolesOf (σ : Site) (id : Id) : Except Error Role :=
  if σ.down.contains .roles then .error (.database .unavailable)
  else Memory.find σ.memory.roles.rows (·.id == id) .noRole

/-- Two stores with the same roles, or neither of which can tell its roles. -/
structure SameRoles (σ σ' : Site) : Prop where
  rows : σ.memory.roles = σ'.memory.roles
  down : σ.down.contains .roles = σ'.down.contains .roles

/-- An administrator, a member whose role administers the organization or lists exactly the
permission, or a customer where customers may. -/
def Entitled (roles : Id → Except Error Role) (p : Principal) (d : Demand) : Prop :=
  p.kind = .admin ∨
    (d.memberView ∧ ∃ own role r, p.kind = .member own role ∧ roles role = .ok r ∧
      (r.isOrgAdmin ∨ d.permission.name ∈ r.permissions)) ∨
    (d.customerView ∧ p.kind = .customer)

/-- Why a call is refused, with the error that the caller gets. -/
inductive Refused (roles : Id → Except Error Role) :
    Option Principal → Option Demand → Error → Prop
  | anonymous {d : Option Demand} : Refused roles none d (.unauthorized "no credentials provided")
  | lookup {p : Principal} {d : Demand} {own role : Id} {e : Error}
    (hp : p.kind = .member own role) (hd : d.memberView) (he : roles role = .error e) :
    Refused roles (some p) (some d) e
  | denied {p : Principal} {d : Demand} (hp : ¬ Entitled roles p d)
    (hroles : ∀ own role, p.kind = .member own role → d.memberView → ∃ r, roles role = .ok r) :
    Refused roles (some p) (some d) (.unauthorized "user not authorized")

theorem SameRoles.rolesOf_eq {σ σ' : Site} (h : SameRoles σ σ') : rolesOf σ = rolesOf σ' := by
  funext id
  rw [rolesOf, rolesOf, h.rows, h.down]

variable {σ : Site} {p : Principal} {e : Error}

theorem run_role (σ : Site) (id : Id) :
    (call (.roles (.byId id)) : Program Role).run Site.handle σ = (rolesOf σ id, σ) := by
  refine (run_call _ σ).trans ?_
  by_cases h : σ.down.contains .roles
  · simp only [rolesOf, Site.handle, Call.table, h, if_true]
  · simp only [rolesOf, Site.handle, Call.table, h]
    rfl

theorem run_check_member {d : Demand} {id own role : Id} (hd : d.memberView) :
    (Demand.check ⟨id, .member own role⟩ (some d)).run Site.handle σ =
      match rolesOf σ role with
      | .ok r => (if r.grants d.permission then .ok () else .error .notAuthorized, σ)
      | .error e => (.error e, σ) := by
  have hcall : (Program.call (.roles (.byId role))).run Site.handle σ = (rolesOf σ role, σ) :=
    run_role σ role
  simp only [Demand.check, Authorization.grant, Authorization.evaluate, hd, if_true, bind_eq,
    run_bind, hcall]
  cases rolesOf σ role with
  | error e => rfl
  | ok r => by_cases hr : r.grants d.permission <;> simp [hr]

theorem grants_iff (r : Role) (q : Permission) :
    r.grants q = true ↔ r.isOrgAdmin ∨ q.name ∈ r.permissions := by
  simp [Role.grants]

theorem check_refused {d : Demand} (h : Refused (rolesOf σ) (some p) (some d) e) :
    (Demand.check p (some d)).run Site.handle σ = (.error e, σ) := by
  obtain ⟨id, kind⟩ := p
  cases h with
  | lookup hp hd he =>
    obtain rfl := hp
    rw [run_check_member hd, he]
  | denied hp hroles =>
    cases kind with
    | admin => exact absurd (.inl rfl) hp
    | member own role =>
      by_cases hd : d.memberView
      · obtain ⟨r, hr⟩ := hroles own role rfl hd
        have hgrants : r.grants d.permission = false := by
          refine Bool.eq_false_iff.2 fun hg => hp (.inr (.inl ⟨hd, own, role, r, rfl, hr, ?_⟩))
          exact (grants_iff r d.permission).1 hg
        rw [run_check_member hd, hr]
        simp [hgrants, Error.notAuthorized]
      · simp [Demand.check, Authorization.grant, Authorization.evaluate, hd, Error.notAuthorized]
    | customer =>
      have hd : d.customerView = false :=
        Bool.eq_false_iff.2 fun hd => hp (.inr (.inr ⟨hd, rfl⟩))
      simp [Demand.check, Authorization.grant, Authorization.evaluate, hd, Error.notAuthorized]

theorem check_entitled {d : Demand} (h : Entitled (rolesOf σ) p d) :
    (Demand.check p (some d)).run Site.handle σ = (.ok (), σ) := by
  obtain ⟨id, kind⟩ := p
  obtain h | ⟨hd, own, role, r, h, hr, hgrants⟩ | ⟨hd, h⟩ := h <;> obtain rfl := h
  · rfl
  · rw [run_check_member hd, hr]
    simp [(grants_iff r d.permission).2 hgrants]
  · simp [Demand.check, Authorization.grant, Authorization.evaluate, hd]

theorem refused_or_entitled (roles : Id → Except Error Role) (p : Principal) (d : Demand) :
    (∃ e, Refused roles (some p) (some d) e) ∨ Entitled roles p d := by
  by_cases hp : Entitled roles p d
  · exact .inr hp
  by_cases hlookup : ∃ own role e, p.kind = .member own role ∧ d.memberView ∧ roles role = .error e
  · obtain ⟨own, role, e, hkind, hd, he⟩ := hlookup
    exact .inl ⟨e, .lookup hkind hd he⟩
  · refine .inl ⟨_, .denied hp fun own role hkind hd => ?_⟩
    cases hr : roles role with
    | ok r => exact ⟨r, rfl⟩
    | error e => exact absurd ⟨own, role, e, hkind, hd, hr⟩ hlookup

def Admitted (roles : Id → Except Error Role) (caller : Option Principal) (d : Option Demand)
    (p : Principal) : Prop :=
  caller = some p ∧ ∀ demanded, d = some demanded → Entitled roles p demanded

theorem refused_or_admitted (roles : Id → Except Error Role) (caller : Option Principal)
    (d : Option Demand) : (∃ e, Refused roles caller d e) ∨ ∃ p, Admitted roles caller d p := by
  cases caller with
  | none => exact .inl ⟨_, .anonymous⟩
  | some p =>
    cases d with
    | none => exact .inr ⟨p, rfl, fun _ h => nomatch h⟩
    | some d =>
      obtain hrefused | hentitled := refused_or_entitled roles p d
      · exact .inl hrefused
      · refine .inr ⟨p, rfl, fun demanded h => ?_⟩
        cases h
        exact hentitled

variable {settings : Accounts.Settings} {t : RootType} {sel : Selection} {j : Job}

def fieldAnswer (p : Principal) (sel : Selection) : Except Error Value → Fetch (String × Resolved)
  | .ok v => (resolveValue p [.key sel.key] sel.select v).map (sel.key, ·)
  | .error e => .done (sel.key, .ofError [.key sel.key] (some e))

theorem run_resolveRoot {τ : Type} {handle : Handler τ} {x : τ}
    (h : rootField? t sel = .ok (.job j)) :
    (resolveRoot settings (some p) t sel).run handle x =
      (.ok (fieldAnswer p sel ((execute settings p j).run handle x).1),
        ((execute settings p j).run handle x).2) := by
  have hname : (sel.name == typeField) = false := by simpa using name_ne_typeField h
  simp only [resolveRoot, hname, Bool.false_eq_true, if_false, h, resolveJob, bind_eq, run_bind,
    run_attempt, pure_eq]
  cases ((execute settings p j).run handle x).1 <;> rfl

theorem run_resolveRoot_anonymous (h : rootField? t sel = .ok (.job j)) :
    (resolveRoot settings none t sel).run Site.handle σ =
      (.ok (.done (sel.key, .ofError [.key sel.key] (some .noCredentials))), σ) := by
  have hname : (sel.name == typeField) = false := by simpa using name_ne_typeField h
  simp only [resolveRoot, hname, Bool.false_eq_true, if_false, h]
  rfl

theorem run_resolveRoot_refused {caller : Option Principal} (h : rootField? t sel = .ok (.job j))
    (hrefused : Refused (rolesOf σ) caller (fieldDemand sel.name) e) :
    (resolveRoot settings caller t sel).run Site.handle σ =
      (.ok (.done (sel.key, .ofError [.key sel.key] (some e))), σ) := by
  cases caller with
  | none =>
    cases hrefused
    exact run_resolveRoot_anonymous h
  | some p =>
    cases hd : fieldDemand sel.name with
    | none =>
      rw [hd] at hrefused
      cases hrefused
    | some d =>
      rw [hd] at hrefused
      have hexecute : (execute settings p j).run Site.handle σ = (.error e, σ) := by
        rw [execute, demand_of_rootField h, hd, bind_eq, run_bind, check_refused hrefused]
      rw [run_resolveRoot h, hexecute]
      rfl

theorem run_execute_admitted {caller : Option Principal} (h : rootField? t sel = .ok (.job j))
    (hp : Admitted (rolesOf σ) caller (fieldDemand sel.name) p) :
    (execute settings p j).run Site.handle σ = (j.perform settings p).run Site.handle σ := by
  have hcheck : (Demand.check p (demand j)).run Site.handle σ = (.ok (), σ) := by
    rw [demand_of_rootField h]
    cases hd : fieldDemand sel.name with
    | none => rfl
    | some d => exact check_entitled (hp.2 d hd)
  rw [execute, bind_eq, run_bind, hcheck]

end Depot.GraphQL

namespace Depot.Http.Service

open GraphQL Operation Program Store

variable {s : Service} {caller : Option Principal} {r : Request} {ep : Endpoint} {e : Error}
variable {p : Principal} {σ : Site}

theorem run_respond_route (hcaller : s.caller r = .ok caller) (hmethod : r.method = "POST")
    (hroute : Endpoint.ofPath? r.route = some ep) (hpost : ep.isPost) :
    (s.respond r).run Site.handle σ =
      match (s.serve caller r ep).run Site.handle σ with
      | (.ok answer, σ') => (.ok answer, σ')
      | (.error e, σ') => (.ok (.ofError e), σ') := by
  have hanswers : ep.answers r.method = true := by simp [Endpoint.answers, hpost, hmethod]
  rw [run_respond hcaller hmethod]
  simp only [dispatch, hroute, hanswers, if_true, run_tryCatch, pure_eq, run_done]
  generalize (s.serve caller r ep).run Site.handle σ = x
  obtain ⟨answer | e, σ'⟩ := x <;> rfl

theorem run_registerMember_refused
    (h : Refused (rolesOf σ) caller (some ⟨.createUser, true, false⟩) e) :
    (s.registerMember caller r).run Site.handle σ = (.error e, σ) := by
  cases caller with
  | none =>
    cases h
    rfl
  | some p =>
    have hcheck :
        (Authorization.grant p .createUser true false).run Site.handle σ = (.error e, σ) :=
      check_refused h
    simp only [registerMember, requireCaller, lift_eq, ofExcept_ok, bind_eq, done_bind, run_bind,
      hcheck]

/-- What a caller who is no administrator is told: what is wrong with the body, or that it takes an
administrator. -/
def adminRefusal (r : Request) : Response :=
  match readBody Registration.fields Registration.ofValues? r with
  | .error bad => bad
  | .ok _ => .ofError .notPermitted

theorem run_respond_registerAdmin (hcaller : s.caller r = .ok (some p))
    (hmethod : r.method = "POST") (hroute : Endpoint.ofPath? r.route = some .registerAdmin)
    (hp : p.isAdmin = false) :
    (s.respond r).run Site.handle σ = (.ok (adminRefusal r), σ) := by
  cases hbody : readBody Registration.fields Registration.ofValues? r with
  | error bad =>
    rw [adminRefusal, hbody]
    rw [run_respond_route hcaller hmethod hroute rfl]
    simp [serve, registerAdmin, requireCaller, withBody, hbody]
  | ok a =>
    rw [adminRefusal, hbody]
    rw [run_respond_route hcaller hmethod hroute rfl]
    simp [serve, registerAdmin, requireCaller, withBody, hbody, Principal.requireAdmin, hp]

/-- A field that is an operation, and the two guarded routes, do nothing for a caller who is
refused: the answer is the same error whatever is stored beside the roles, and nothing is changed. A
caller who is not refused gets what the operation gives. -/
theorem mediation_is_complete (s : Service) (σ : Site) (caller : Option Principal) :
    (∀ t sel f, rootField? t sel = .ok f → sel.name ≠ "permissions" → ∃ j, f = .job j ∧
      (fieldDemand sel.name = none ↔ sel.name ∈ ["me", "profile", "changePassword"]) ∧
      (∀ e, Refused (rolesOf σ) caller (fieldDemand sel.name) e → ∀ σ', SameRoles σ σ' →
        (resolveRoot s.settings caller t sel).run Site.handle σ' =
          (.ok (.done (sel.key, .ofError [.key sel.key] (some e))), σ')) ∧
      (∀ p, Admitted (rolesOf σ) caller (fieldDemand sel.name) p →
        (resolveRoot s.settings caller t sel).run Site.handle σ =
          (.ok (fieldAnswer p sel ((j.perform s.settings p).run Site.handle σ).1),
            ((j.perform s.settings p).run Site.handle σ).2)) ∧
      ((∃ e, Refused (rolesOf σ) caller (fieldDemand sel.name) e) ∨
        ∃ p, Admitted (rolesOf σ) caller (fieldDemand sel.name) p)) ∧
    (∀ r, s.caller r = .ok caller → r.method = "POST" →
      (Endpoint.ofPath? r.route = some .registerMember → ∀ e,
        Refused (rolesOf σ) caller (some ⟨.createUser, true, false⟩) e → ∀ σ', SameRoles σ σ' →
          (s.respond r).run Site.handle σ' = (.ok (.ofError e), σ')) ∧
      (Endpoint.ofPath? r.route = some .registerAdmin →
        (caller = none → ∀ σ',
          (s.respond r).run Site.handle σ' = (.ok (.ofError .noCredentials), σ')) ∧
        (∀ p, caller = some p → p.isAdmin = false → ∀ σ',
          (s.respond r).run Site.handle σ' = (.ok (adminRefusal r), σ')))) := by
  refine ⟨fun t sel f hf hname => ?_, fun r hcaller hmethod => ⟨?_, ?_⟩⟩
  · obtain ⟨j, rfl⟩ := job_of_rootField hf hname
    refine ⟨j, rfl, demands_nothing_iff hf hname, fun e he σ' hσ => ?_, fun p hp => ?_,
      refused_or_admitted _ _ _⟩
    · rw [hσ.rolesOf_eq] at he
      exact run_resolveRoot_refused hf he
    · rw [hp.1, run_resolveRoot hf, run_execute_admitted hf hp]
  · intro hroute e he σ' hσ
    rw [hσ.rolesOf_eq] at he
    rw [run_respond_route hcaller hmethod hroute rfl]
    simp only [serve, run_registerMember_refused he]
  · refine fun hroute => ⟨fun hnone σ' => ?_, fun p hp hadmin σ' => ?_⟩
    · subst hnone
      rw [run_respond_route hcaller hmethod hroute rfl]
      rfl
    · subst hp
      exact run_respond_registerAdmin hcaller hmethod hroute hadmin

/-- A member whose role lets nothing be done but see roles sees them, deletes none and registers
nobody; without credentials not even the roles are seen. -/
theorem reader_of_roles_is_refused_the_rest :
    ∃ (s : Service) (σ : Site) (p : Principal) (roles deletion : Selection)
      (member admin : Request),
      rootField? .query roles = .ok (.job (.roles none)) ∧
      rootField? .mutation deletion = .ok (.job (.roleDelete 1)) ∧
      s.caller member = .ok (some p) ∧ s.caller admin = .ok (some p) ∧
      (resolveRoot s.settings (some p) .query roles).run Site.handle σ =
        (.ok (fieldAnswer p roles (((Job.roles none).perform s.settings p).run Site.handle σ).1),
          (((Job.roles none).perform s.settings p).run Site.handle σ).2) ∧
      (resolveRoot s.settings none .query roles).run Site.handle σ =
        (.ok (.done ("roles", .ofError [.key "roles"] (some .noCredentials))), σ) ∧
      (resolveRoot s.settings (some p) .mutation deletion).run Site.handle σ =
        (.ok (.done ("roleDelete", .ofError [.key "roleDelete"] (some .notAuthorized))), σ) ∧
      (s.respond member).run Site.handle σ = (.ok (.ofError .notAuthorized), σ) ∧
      (s.respond admin).run Site.handle σ = (.ok (adminRefusal admin), σ) := by
  let s : Service := ⟨⟨"k", 60, 4⟩, ⟨0, 1⟩, 0⟩
  let reader : Role := ⟨1, "ROLE00001", "Reader", ["Read Role"], false, false, 1, ⟨0⟩, ⟨0⟩⟩
  let σ : Site := ⟨{ Memory.empty ⟨0⟩ with roles := ⟨[reader], 1⟩ }, []⟩
  let p : Principal := ⟨1, .member 1 1⟩
  let claims : Token.Claims := ⟨1, false, true, false, some 1, some 1, 60, 0⟩
  let headers := [("authorization", "Bearer " ++ Token.sign "k" claims)]
  let roles : Selection := .field "roles" none [] []
  let deletion : Selection := .field "roleDelete" none [("id", .int 1)] []
  let member : Request := ⟨"POST", "/api/auth/member/register", headers, ""⟩
  let admin : Request := ⟨"POST", "/api/auth/admin/register", headers, ""⟩
  have hroles : rootField? .query roles = .ok (.job (.roles none)) := rfl
  have hdeletion : rootField? .mutation deletion = .ok (.job (.roleDelete 1)) := rfl
  have hwords : claims.InWords := ⟨by decide, by decide, by decide, by decide, by decide⟩
  have hmember : s.caller member = .ok (some p) := caller_of_bearer rfl hwords (by decide) rfl
  have hadmin : s.caller admin = .ok (some p) := caller_of_bearer rfl hwords (by decide) rfl
  have hroute : Endpoint.ofPath? member.route = some .registerMember := by decide +kernel
  have hroute' : Endpoint.ofPath? admin.route = some .registerAdmin := by decide +kernel
  have hrole : rolesOf σ 1 = .ok reader := rfl
  have hentitled : Admitted (rolesOf σ) (some p) (fieldDemand roles.name) p := by
    refine ⟨rfl, fun d hd => ?_⟩
    obtain rfl : ⟨.readRole, true, false⟩ = d := Option.some.inj hd
    exact .inr (.inl ⟨rfl, 1, 1, reader, rfl, hrole, .inr List.mem_cons_self⟩)
  have hdenied : ∀ d : Demand, d.permission.name ∉ reader.permissions → d.customerView = false →
      Refused (rolesOf σ) (some p) (some d) .notAuthorized := by
    intro d hd hcustomer
    refine .denied ?_ fun own role hkind _ => ?_
    · rintro (hkind | ⟨-, own, role, r, hkind, hr, hgrants⟩ | ⟨-, hkind⟩)
      · cases hkind
      · cases hkind
        cases hrole.symm.trans hr
        exact hgrants.elim (nomatch ·) hd
      · cases hkind
    · cases hkind
      exact ⟨reader, hrole⟩
  have hsame : SameRoles σ σ := ⟨rfl, rfl⟩
  have hfields := (mediation_is_complete s σ (some p)).1
  have hroutes := (mediation_is_complete s σ (some p)).2
  refine ⟨s, σ, p, roles, deletion, member, admin, hroles, hdeletion, hmember, hadmin, ?_⟩
  refine ⟨?_, ?_, ?_, ?_, ?_⟩
  · obtain ⟨j, hj, -, -, hadmitted, -⟩ := hfields .query roles _ hroles (by decide)
    cases hj
    exact hadmitted p hentitled
  · obtain ⟨j, -, -, hrefused, -⟩ :=
      (mediation_is_complete s σ none).1 .query roles _ hroles (by decide)
    exact hrefused _ .anonymous σ hsame
  · obtain ⟨j, -, -, hrefused, -⟩ := hfields .mutation deletion _ hdeletion (by decide)
    exact hrefused _ (hdenied _ (by decide) rfl) σ hsame
  · exact (hroutes member hmember rfl).1 hroute _ (hdenied _ (by decide) rfl) σ hsame
  · exact ((hroutes admin hadmin rfl).2 hroute').2 p rfl rfl σ

end Depot.Http.Service
