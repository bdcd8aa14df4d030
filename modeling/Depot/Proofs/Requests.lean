import Depot.Http.Server
import Depot.Proofs.Discipline

namespace Depot.Loader

open Operation Program Store

variable {allowed : List Memory → Call → Prop} {seen : List Memory}
variable (hread : ∀ seen c, c.IsRead → allowed seen c)

include hread

theorem fetchRows_conforms (name : BatchName) (keys : List Id) :
    Conforms Memory.handle allowed (fun _ _ => True) seen (fetchRows name keys) := by
  have hcall : ∀ c : Call, c.IsRead →
      Conforms Memory.handle allowed (fun _ _ => True) seen (.call c) :=
    fun c hc => .call (hread _ _ hc) fun _ _ _ => trivial
  cases name with
  | users => exact (hcall (.users (.many keys)) trivial).bind_any fun _ _ => .done trivial
  | profiles => exact (hcall (.profiles (.many keys)) trivial).bind_any fun _ _ => .done trivial
  | organizations =>
    exact (hcall (.organizations (.many keys)) trivial).bind_any fun _ _ => .done trivial
  | roles => exact (hcall (.roles (.many keys)) trivial).bind_any fun _ _ => .done trivial
  | containers => exact (hcall (.containers (.many keys)) trivial).bind_any fun _ _ => .done trivial
  | containerPallets =>
    exact (hcall (.pallets (.ofContainers keys)) trivial).bind_any fun _ _ => .done trivial

theorem Loaders.fetchAll_conforms (r : Loaders.Round) (batches : List (BatchName × Batch)) :
    Conforms Memory.handle allowed (fun _ _ => True) seen (r.fetchAll batches) := by
  induction batches generalizing r seen with
  | nil => exact .done trivial
  | cons x batches ih =>
    refine Conforms.bind_any ?_ fun seen' r' => ih r'
    exact (fetchRows_conforms hread x.1 x.2.keys).attempt.bind fun _ _ _ _ => .done trivial

theorem Loaders.loadAll_conforms (c : Config) (l : Loaders) (refs : List Ref) :
    Conforms Memory.handle allowed (fun _ _ => True) seen (l.loadAll c refs) :=
  (fetchAll_conforms hread _ _).bind_any fun _ _ => .done trivial

theorem fetch_conforms {α : Type} (c : Config) (l : Loaders) (f : GraphQL.Fetch α) :
    Conforms Memory.handle allowed (fun _ _ => True) seen (f.run c l) := by
  induction f generalizing l seen with
  | done a => exact .done trivial
  | load refs next ih =>
    exact (Loaders.loadAll_conforms hread c l refs).bind_any fun _ r => ih r.2 r.1

end Depot.Loader

namespace Depot.Authorization

open Operation Program Store

variable {allowed : List Memory → Call → Prop} {seen : List Memory}
variable (hread : ∀ seen c, c.IsRead → allowed seen c)

include hread

theorem evaluate_conforms (p : Principal) (permission : Permission)
    (memberView customerView : Bool) :
    Conforms Memory.handle allowed (fun _ _ => True) seen
      (evaluate p permission memberView customerView) := by
  obtain ⟨id, kind⟩ := p
  cases kind with
  | admin | customer => exact .done trivial
  | member own role =>
    refine Conforms.ite (fun _ => ?_) fun _ => .done trivial
    exact Conforms.bind_call (hread _ _ trivial) fun _ _ _ => .done trivial

theorem grant_conforms (p : Principal) (permission : Permission) (memberView customerView : Bool) :
    Conforms Memory.handle allowed (fun _ _ => True) seen
      (grant p permission memberView customerView) := by
  refine (evaluate_conforms hread p permission memberView customerView).bind_any fun _ access => ?_
  cases access with
  | allow => exact .done trivial
  | deny => exact .fail

end Depot.Authorization

namespace Depot.GraphQL

open Loader Operation Program Store

variable {allowed : List Memory → Call → Prop} {seen : List Memory} {s : Accounts.Settings}
variable {caller : Option Principal}

/-- What a request for fields may call: it may read, and do what its caller asks for by them. -/
structure Serves (allowed : List Memory → Call → Prop) (s : Accounts.Settings)
    (caller : Option Principal) (asked : Job → Prop) : Prop where
  read : ∀ seen c, c.IsRead → allowed seen c
  job : ∀ p, caller = some p → ∀ seen j c, asked j → Act.Licensed s seen (.job p j) c →
    allowed seen c

def Asked (t : RootType) (fields : List Selection) (j : Job) : Prop :=
  ∃ sel ∈ fields, rootField? t sel = .ok (.job j)

variable {asked : Job → Prop} {t : RootType}

theorem execute_conforms {p : Principal} (h : Serves allowed s (some p) asked) {j : Job}
    (hj : asked j) :
    Conforms Memory.handle allowed (fun _ _ => True) seen (execute s p j) := by
  have hcheck : Conforms Memory.handle allowed (fun _ _ => True) seen
      (Demand.check p (demand j)) := by
    cases demand j with
    | none => exact .done trivial
    | some d => exact Authorization.grant_conforms h.read _ _ _ _
  refine hcheck.bind_any fun seen' _ => ?_
  exact (Job.perform_conforms s j).mono (fun seen c => h.job p rfl seen j c hj) fun _ _ _ _ => trivial

theorem resolveRoot_conforms (h : Serves allowed s caller asked) {sel : Selection}
    (hsel : ∀ j, rootField? t sel = .ok (.job j) → asked j) :
    Conforms Memory.handle allowed (fun _ _ => True) seen (resolveRoot s caller t sel) := by
  unfold resolveRoot
  refine Conforms.ite (fun _ => .done trivial) fun _ => ?_
  split
  · exact .done trivial
  · exact .done trivial
  · exact .done trivial
  · rename_i hj
    refine Conforms.bind_any ?_ fun _ _ => .done trivial
    refine (execute_conforms h (hsel _ hj)).attempt.bind fun _ r _ _ => ?_
    cases r <;> exact .done trivial

theorem resolveQuery_conforms (h : Serves allowed s caller asked) {fields : List Selection}
    (hfields : ∀ j, Asked .query fields j → asked j) :
    Conforms Memory.handle allowed (fun _ _ => True) seen (resolveQuery s caller fields) := by
  induction fields generalizing seen with
  | nil => exact .done trivial
  | cons sel fields ih =>
    have hsel (j : Job) (hj : rootField? .query sel = .ok (.job j)) : asked j :=
      hfields j ⟨sel, List.mem_cons_self, hj⟩
    refine (resolveRoot_conforms h hsel).bind_any fun _ _ => ?_
    refine (ih fun j ⟨other, hother, hj⟩ => ?_).bind_any fun _ _ => .done trivial
    exact hfields j ⟨other, List.mem_cons_of_mem _ hother, hj⟩

theorem runMutation_conforms (h : Serves allowed s caller asked) (c : Loader.Config) (l : Loaders)
    {fields : List Selection} (hfields : ∀ j, Asked .mutation fields j → asked j) :
    Conforms Memory.handle allowed (fun _ _ => True) seen (runMutation c s caller l fields) := by
  induction fields generalizing l seen with
  | nil => exact .done trivial
  | cons sel fields ih =>
    have hsel (j : Job) (hj : rootField? .mutation sel = .ok (.job j)) : asked j :=
      hfields j ⟨sel, List.mem_cons_self, hj⟩
    refine (resolveRoot_conforms h hsel).bind_any fun _ f => ?_
    refine (fetch_conforms h.read c l f).bind_any fun _ r => ?_
    refine (ih r.1 fun j ⟨other, hother, hj⟩ => ?_).bind_any fun _ _ => .done trivial
    exact hfields j ⟨other, List.mem_cons_of_mem _ hother, hj⟩

theorem answer_conforms (c : Loader.Config) {r : Request}
    (h : Serves allowed s caller (Asked r.root r.fields)) :
    Conforms Memory.handle allowed (fun _ _ => True) seen (answer c s caller r) := by
  refine Conforms.ite (fun _ => .done trivial) fun _ => ?_
  refine Conforms.bind_any ?_ fun _ _ => .done trivial
  obtain ⟨root, fields⟩ := r
  cases root with
  | query =>
    refine (resolveQuery_conforms h fun _ => id).bind_any fun _ waiting => ?_
    exact (fetch_conforms h.read c .empty (Fetch.all waiting)).bind_any fun _ _ => .done trivial
  | mutation => exact runMutation_conforms h c .empty fun _ => id

end Depot.GraphQL

theorem Depot.Error.ofProblems_eq_ok {problems : List FieldProblem} :
    ofProblems problems = .ok () ↔ problems = [] := by
  cases problems with
  | nil => exact ⟨fun _ => rfl, fun _ => rfl⟩
  | cons x xs => exact ⟨nofun, nofun⟩

namespace Depot.Http

open Operation Program Store

/-- The acts that a request may ask for: accounts that anybody may open, each by its own route, and
what a principal asks for in the own name. -/
inductive Asks (r : Request) : Option Principal → Act → Prop
  | login {caller : Option Principal} {now : Int} {door : Accounts.Door} {c : Credentials} :
    Asks r caller (.login now door c)
  | registerAdmin {p : Principal} {a : Registration} (hp : p.isAdmin) :
    Asks r (some p) (.registerAdmin a)
  | registerMember {p : Principal} {a : MemberRegistration} : Asks r (some p) (.registerMember p a)
  | registerCustomer {caller : Option Principal} {a : Registration} :
    Asks r caller (.registerCustomer a)
  | registerOrganization {caller : Option Principal} {a : OrganizationRegistration}
    (hr : Endpoint.ofPath? r.route = some .registerOrganization) :
    Asks r caller (.registerOrganization a)
  | job {p : Principal} {j : Job} : Asks r (some p) (.job p j)

/-- The acts that a request asks for by what it holds: each route reads the body in its own way, and an
account is opened only if its fields keep the rules. -/
inductive Submits (r : Request) : Option Principal → Act → Prop
  | login {caller : Option Principal} {now : Int} {door : Accounts.Door} {c : Credentials}
    (hr : Endpoint.ofPath? r.route = some (.login door))
    (hbody : Service.readBody Credentials.fields Credentials.ofValues? r = .ok c) :
    Submits r caller (.login now door c)
  | registerAdmin {p : Principal} {a : Registration} (hp : p.isAdmin)
    (hr : Endpoint.ofPath? r.route = some .registerAdmin)
    (hbody : Service.readBody Registration.fields Registration.ofValues? r = .ok a)
    (hrules : a.problems = []) : Submits r (some p) (.registerAdmin a)
  | registerMember {p : Principal} {a : MemberRegistration}
    (hr : Endpoint.ofPath? r.route = some .registerMember)
    (hbody : Service.readBody MemberRegistration.fields MemberRegistration.ofValues? r = .ok a)
    (hrules : a.problems = []) : Submits r (some p) (.registerMember p a)
  | registerCustomer {caller : Option Principal} {a : Registration}
    (hr : Endpoint.ofPath? r.route = some .registerCustomer)
    (hbody : Service.readBody Registration.fields Registration.ofValues? r = .ok a)
    (hrules : a.problems = []) : Submits r caller (.registerCustomer a)
  | registerOrganization {caller : Option Principal} {a : OrganizationRegistration}
    (hr : Endpoint.ofPath? r.route = some .registerOrganization)
    (hbody : Service.readBody OrganizationRegistration.fields OrganizationRegistration.ofValues? r =
      .ok a)
    (hrules : a.problems = []) : Submits r caller (.registerOrganization a)
  | job {p : Principal} {j : Job} {q : GraphQL.Request}
    (hr : Endpoint.ofPath? r.route = some .query) (hbody : Service.readQuery r = .ok (some q))
    (hj : GraphQL.Asked q.root q.fields j) : Submits r (some p) (.job p j)

theorem Submits.asks {r : Request} {caller : Option Principal} {a : Act} (h : Submits r caller a) :
    Asks r caller a := by
  cases h with
  | login => exact .login
  | registerAdmin hp => exact .registerAdmin hp
  | registerMember => exact .registerMember
  | registerCustomer => exact .registerCustomer
  | registerOrganization hr => exact .registerOrganization hr
  | job => exact .job

/-- The calls of a request, told by the states that it has seen. -/
def Permits (s : Accounts.Settings) (caller : Option Principal) (r : Request) (seen : List Memory)
    (c : Call) : Prop :=
  ∃ a, Asks r caller a ∧ Act.Licensed s seen a c

/-- The calls of a request, told by what it holds as well. -/
def Needs (s : Accounts.Settings) (caller : Option Principal) (r : Request) (seen : List Memory)
    (c : Call) : Prop :=
  c.IsRead ∨ ∃ a, Submits r caller a ∧ Act.Licensed s seen a c

theorem Needs.permits {s : Accounts.Settings} {caller : Option Principal} {r : Request}
    {seen : List Memory} {c : Call} (h : Needs s caller r seen c) : Permits s caller r seen c := by
  obtain hread | ⟨a, ha, hc⟩ := h
  · exact ⟨.login 0 .admin default, .login, .read hread⟩
  · exact ⟨a, ha.asks, hc⟩

namespace Service

variable {s : Service} {caller : Option Principal} {r : Request} {seen : List Memory}

theorem act_conforms {α : Type} {a : Act} {q : Program α} {reply : α → Program Reply}
    (ha : Submits r caller a) (hq : a.perform s.settings = q.bind reply) :
    Conforms Memory.handle (Needs s.settings caller r) (fun _ _ => True) seen q := by
  have hact : Conforms Memory.handle _ _ seen (a.perform s.settings) :=
    Act.perform_conforms s.settings a
  rw [hq] at hact
  exact hact.of_bind.mono (fun seen c hc => .inr ⟨a, ha, hc⟩) fun _ _ _ _ => trivial

theorem withBody_conforms {α : Type} {body : Except Response α} {next : α → Program Response}
    (h : ∀ a, body = .ok a →
      Conforms Memory.handle (Needs s.settings caller r) (fun _ _ => True) seen (next a)) :
    Conforms Memory.handle (Needs s.settings caller r) (fun _ _ => True) seen
      (withBody body next) := by
  cases body with
  | ok a => exact h a rfl
  | error bad => exact .done trivial

theorem login_conforms {door : Accounts.Door} (hr : Endpoint.ofPath? r.route = some (.login door)) :
    Conforms Memory.handle (Needs s.settings caller r) (fun _ _ => True) seen (s.login door r) := by
  refine withBody_conforms fun c hbody => Conforms.bind_ofExcept fun _ _ => ?_
  have hc : Submits r caller (.login s.now door c) := .login hr hbody
  exact (act_conforms hc rfl).bind_any fun _ _ => .done trivial

theorem registerAdmin_conforms (hr : Endpoint.ofPath? r.route = some .registerAdmin) :
    Conforms Memory.handle (Needs s.settings caller r) (fun _ _ => True) seen
      (s.registerAdmin caller r) := by
  cases caller with
  | none => exact .fail
  | some p =>
    refine withBody_conforms fun a hbody => Conforms.bind_ofExcept fun _ hp => ?_
    refine Conforms.bind_ofExcept fun _ hrules => Conforms.bind_any ?_ fun _ _ => .done trivial
    have hadmin := Principal.isAdmin_of_requireAdmin hp
    exact act_conforms (.registerAdmin hadmin hr hbody (Error.ofProblems_eq_ok.1 hrules)) rfl

theorem registerMember_conforms (hr : Endpoint.ofPath? r.route = some .registerMember) :
    Conforms Memory.handle (Needs s.settings caller r) (fun _ _ => True) seen
      (s.registerMember caller r) := by
  cases caller with
  | none => exact .fail
  | some p =>
    refine (Authorization.grant_conforms (fun _ _ => .inl) _ _ _ _).bind_any fun _ _ => ?_
    refine withBody_conforms fun a hbody => Conforms.bind_ofExcept fun _ hrules => ?_
    refine Conforms.bind_any ?_ fun _ _ => .done trivial
    exact act_conforms (.registerMember hr hbody (Error.ofProblems_eq_ok.1 hrules)) rfl

theorem registerCustomer_conforms (hr : Endpoint.ofPath? r.route = some .registerCustomer) :
    Conforms Memory.handle (Needs s.settings caller r) (fun _ _ => True) seen
      (s.registerCustomer r) := by
  refine withBody_conforms fun a hbody => Conforms.bind_ofExcept fun _ hrules => ?_
  refine Conforms.bind_any ?_ fun _ _ => .done trivial
  exact act_conforms (.registerCustomer hr hbody (Error.ofProblems_eq_ok.1 hrules)) rfl

theorem registerOrganization_conforms
    (hr : Endpoint.ofPath? r.route = some .registerOrganization) :
    Conforms Memory.handle (Needs s.settings caller r) (fun _ _ => True) seen
      (s.registerOrganization r) := by
  refine withBody_conforms fun a hbody => Conforms.bind_ofExcept fun _ hrules => ?_
  refine Conforms.bind_any ?_ fun _ _ => .done trivial
  exact act_conforms (.registerOrganization hr hbody (Error.ofProblems_eq_ok.1 hrules)) rfl

theorem query_conforms (hr : Endpoint.ofPath? r.route = some .query) :
    Conforms Memory.handle (Needs s.settings caller r) (fun _ _ => True) seen
      (s.query caller r) := by
  refine withBody_conforms fun q hbody => ?_
  cases q with
  | none => exact .done trivial
  | some q =>
    have hserves : GraphQL.Serves (Needs s.settings caller r) s.settings caller
        (GraphQL.Asked q.root q.fields) := by
      refine ⟨fun _ _ => .inl, ?_⟩
      rintro p rfl seen j c hj hc
      exact .inr ⟨.job p j, .job hr hbody hj, hc⟩
    exact (GraphQL.answer_conforms s.loader hserves).bind_any fun _ _ => .done trivial

theorem serve_conforms {e : Endpoint} (hr : Endpoint.ofPath? r.route = some e) :
    Conforms Memory.handle (Needs s.settings caller r) (fun _ _ => True) seen
      (s.serve caller r e) := by
  cases e with
  | health | document | permissions | logout | console => exact .done trivial
  | login door => exact login_conforms hr
  | registerAdmin => exact registerAdmin_conforms hr
  | registerMember => exact registerMember_conforms hr
  | registerCustomer => exact registerCustomer_conforms hr
  | registerOrganization => exact registerOrganization_conforms hr
  | query => exact query_conforms hr

/-- Answering a request makes no calls but those that the acts it submits are licensed to make. -/
theorem respond_needs (hcaller : s.caller r = .ok caller) :
    Conforms Memory.handle (Needs s.settings caller r) (fun _ _ => True) seen (s.respond r) := by
  have hdispatch : Conforms Memory.handle (Needs s.settings caller r) (fun _ _ => True) seen
      (s.dispatch caller r) := by
    unfold dispatch
    split
    · exact .done trivial
    · rename_i e hr
      refine .ite (fun _ => ?_) fun _ => .done trivial
      exact (serve_conforms hr).tryCatch fun _ _ _ => .done trivial
  simp only [respond, hcaller]
  exact hdispatch.bind_any fun _ _ => .done trivial

/-- Answering a request makes no calls but those that the acts it may ask for are licensed to make.
-/
theorem respond_conforms (hcaller : s.caller r = .ok caller) :
    Conforms Memory.handle (Permits s.settings caller r) (fun _ _ => True) seen (s.respond r) :=
  (respond_needs hcaller).mono (fun _ _ => Needs.permits) fun _ _ _ _ => trivial

theorem run_respond {σ : Type} {handle : Handler σ} (hcaller : s.caller r = .ok caller)
    (hmethod : r.method = "POST") (x : σ) :
    (s.respond r).run handle x = (s.dispatch caller r).run handle x := by
  have hhead : (r.method == "HEAD") = false := by simp [hmethod]
  simp only [respond, hcaller, hhead, bind_eq, run_bind]
  split
  · rename_i hrun
    exact hrun.symm
  · rename_i hrun
    exact hrun.symm

theorem respond_licensed (s : Service) (r : Request) :
    Conforms Memory.handle (fun seen c => ∃ a, Act.Licensed s.settings seen a c)
      (fun _ _ => True) seen (s.respond r) := by
  cases hcaller : s.caller r with
  | ok caller =>
    refine (respond_conforms hcaller).mono (fun seen c hc => ?_) fun _ _ _ _ => trivial
    obtain ⟨a, -, hc⟩ := hc
    exact ⟨a, hc⟩
  | error e =>
    simp only [respond, hcaller]
    exact .done trivial

theorem run_respond_options (s : Service) (hr : r.method = "OPTIONS") (m : Memory) :
    ((s.respond r).run Memory.handle m).2 = m := by
  have hanswers (e : Endpoint) : e.answers r.method = false := by
    rw [hr, Endpoint.answers]
    split <;> rfl
  have hdispatch (caller : Option Principal) : ∃ answer, s.dispatch caller r = .done answer := by
    unfold dispatch
    split
    · exact ⟨_, rfl⟩
    · simp only [hanswers, Bool.false_eq_true, if_false]
      exact ⟨_, rfl⟩
  unfold respond
  cases s.caller r with
  | error e => rfl
  | ok caller =>
    obtain ⟨answer, hanswer⟩ := hdispatch caller
    simp only [hanswer]
    rfl

end Service

namespace Server

theorem receive_licensed (s : Server) (waits : List Wait) (r : Request) {seen : List Memory} :
    Conforms Memory.handle (fun seen c => ∃ a, Act.Licensed s.service.settings seen a c)
      (fun _ _ => True) seen (s.receive waits r) := by
  refine .ite (fun _ => .done trivial) fun _ => ?_
  have hrespond : Conforms Memory.handle _ _ seen (s.service.respond r) :=
    s.service.respond_licensed r
  exact hrespond.within.bind fun _ _ _ _ => .done trivial

theorem run_receive {σ : Type} {handle : Handler σ} (s : Server) {waits : List Wait} {r : Request}
    (hr : r.method ≠ "OPTIONS") (hwaits : Wait.total waits ≤ 1000 * s.seconds) (x : σ) :
    (s.receive waits r).run handle x =
      (((s.service.respond r).run handle x).1.map (⟨·, r.sharing⟩),
        ((s.service.respond r).run handle x).2) := by
  have hmethod : (r.method == "OPTIONS") = false := by simpa using hr
  simp only [receive, hmethod, Bool.false_eq_true, if_false, bind_eq]
  rw [run_bind, run_within x hwaits, run_bind]
  cases (s.service.respond r).run handle x with
  | mk answer y => cases answer <;> rfl

end Server

end Depot.Http
