import Depot.Proofs.Mediation
import Depot.Proofs.Outages

namespace Depot

open GraphQL

namespace Error

variable {e e' : Error}

theorem isInternal_iff : e.IsInternal ↔ e.status = 500 := by
  cases e <;> simp [IsInternal, status]

def report (e : Error) (path : List Step) : Json := (Failure.mk path (some e)).toJson

theorem report_eq (e : Error) (path : List Step) :
    e.report path = .obj (("message", .str e.publicText) ::
      (if path.isEmpty then [] else [("path", Json.ofList Step.toJson path)]) ++
        [("extensions", e.extensions)]) := rfl

theorem report_extensions (e : Error) (path : List Step) :
    (e.report path).member "extensions" = e.extensions := by
  rw [report_eq]
  split <;> rfl

theorem report_message (e : Error) (path : List Step) :
    (e.report path).member "message" = .str e.publicText := by
  rw [report_eq]
  split <;> rfl

theorem publicText_of_isInternal (h : e.IsInternal) : e.publicText = "internal server error" :=
  if_pos (isInternal_iff.1 h)

theorem code_of_isInternal (h : e.IsInternal) : e.code = "internal_server_error" := by
  rw [code, isInternal_iff.1 h]
  rfl

theorem body_of_isInternal (h : e.IsInternal) :
    e.body = .obj [("message", .str "internal server error"), ("error", .str "internal_server_error"),
      ("status", .int 500)] := by
  have hbody : e.body = .obj [("message", .str e.publicText), ("error", .str e.code),
      ("status", .int e.status)] := by
    cases e with
    | invalid => cases isInternal_iff.1 h
    | _ => rfl
  rw [hbody, publicText_of_isInternal h, code_of_isInternal h, isInternal_iff.1 h]
  rfl

theorem extensions_of_isInternal (h : e.IsInternal) :
    e.extensions = .obj [("status", .int 500), ("error", .str "internal_server_error")] := by
  rw [extensions, code_of_isInternal h, isInternal_iff.1 h]
  rfl

theorem report_of_isInternal (h : e.IsInternal) (h' : e'.IsInternal) (path : List Step) :
    e.report path = e'.report path := by
  rw [report_eq, report_eq, publicText_of_isInternal h, publicText_of_isInternal h',
    extensions_of_isInternal h, extensions_of_isInternal h']

theorem ofError_of_isInternal (h : e.IsInternal) (h' : e'.IsInternal) :
    Http.Response.ofError e = Http.Response.ofError e' := by
  rw [Http.Response.ofError, Http.Response.ofError, body_of_isInternal h, body_of_isInternal h',
    isInternal_iff.1 h, isInternal_iff.1 h']

end Error

end Depot

namespace Depot.Http

open GraphQL Operation Program Store

namespace Service

variable {s : Service} {caller : Option Principal} {r : Request}

theorem withBody_givesUp {α : Type} {body : Except Response α} {next : α → Program Response}
    (h : ∀ a, GivesUp (next a)) : GivesUp (withBody body next) := by
  cases body with
  | error r => exact .done r
  | ok a => exact h a

theorem serve_givesUp {endpoint : Endpoint} (h : endpoint ≠ .query) :
    GivesUp (s.serve caller r endpoint) := by
  cases endpoint with
  | query => exact absurd rfl h
  | login door =>
    exact withBody_givesUp fun c => .bind_ofExcept fun _ => .map (Accounts.login_givesUp _ _ door c) _
  | registerAdmin =>
    refine .bind_ofExcept fun p => withBody_givesUp fun a => .bind_ofExcept fun _ => ?_
    exact .bind_ofExcept fun _ => .map (Accounts.registerAdmin_givesUp _ a) _
  | registerMember =>
    refine .bind_ofExcept fun p => .bind (grant_givesUp _ _ _) fun _ => withBody_givesUp fun a => ?_
    exact .bind_ofExcept fun _ => .map (Accounts.registerMember_givesUp _ a) _
  | registerCustomer =>
    refine withBody_givesUp fun a => .bind_ofExcept fun _ => ?_
    exact .map (Accounts.registerCustomer_givesUp _ a) _
  | registerOrganization =>
    refine withBody_givesUp fun a => .bind_ofExcept fun _ => ?_
    exact .map (Accounts.registerOrganization_givesUp _ a) _
  | health | document | permissions | logout | console => exact .done _

theorem run_dispatch_of_error {σ : Type} {handle : Handler σ} {x : σ} {endpoint : Endpoint} {e : Error}
    (hr : Endpoint.ofPath? r.route = some endpoint) (hmethod : endpoint.answers r.method)
    (h : ((s.serve caller r endpoint).run handle x).1 = .error e) :
    ((s.dispatch caller r).run handle x).1 = .ok (Response.ofError e) := by
  simp only [dispatch, hr, hmethod, if_true, run_tryCatch]
  cases hserve : (s.serve caller r endpoint).run handle x with
  | mk outcome y =>
    rw [hserve] at h
    cases h
    rfl

end Service

/-- Both surfaces tell the same of an error. -/
structure ToldAlike (e : Error) : Prop where
  body : (Response.ofError e).body = e.body.text
  status : e.body.member "status" = .int (Response.ofError e).status ∧
    ∀ path, ((e.report path).member "extensions").member "status" = .int (Response.ofError e).status
  code : e.body.member "error" = .str (Error.codeOfStatus (Response.ofError e).status) ∧
    ∀ path, ((e.report path).member "extensions").member "error" =
      .str (Error.codeOfStatus (Response.ofError e).status)
  message : (∀ problems, e ≠ .invalid problems) → ∀ path,
    e.body.member "message" = (e.report path).member "message"

/-- Two errors that no client can tell from one another. -/
structure Indistinct (e e' : Error) : Prop where
  response : Response.ofError e = Response.ofError e'
  report : ∀ path, e.report path = e'.report path

/-- What becomes of the faults of the server on their way to the client. -/
structure Service.HidesFaults (s : Service) : Prop where
  faults : ∀ e e' : Error, 500 ≤ e.status → 500 ≤ e'.status → Indistinct e e'
  /-- A database that does not answer a command is a fault of the server, whatever the command was for. -/
  commands : ∀ {σ : Type} (db : Sql.Script.Database σ) (conn : Sql.Connection σ) (c : Call)
    (command : Sql.Command) (fault : DatabaseFault),
    (command, .error fault) ∈ (Sql.script conn.drawn c).talk db conn.state → command ≠ .rollback →
    fault.IsOutage →
    (Sql.handle db c conn).1 = .error (.database fault) ∧ 500 ≤ (Error.database fault).status
  /-- The fault that any call of an act is answered with is the answer of the act. -/
  acts : ∀ {σ : Type} (handle : Handler σ) (a : Act) (x : σ),
    ∀ e ∈ (a.perform s.settings).refusals handle x, 500 ≤ e.status →
      ((a.perform s.settings).run handle x).1 = .error e
  /-- Two acts that have nothing in common, over stores of any kind, are not told apart by the faults that
  they meet. -/
  apart : ∀ {σ τ : Type} (handle : Handler σ) (handle' : Handler τ) (a a' : Act) (x : σ) (y : τ),
    (∃ e ∈ (a.perform s.settings).refusals handle x, 500 ≤ e.status) →
    (∃ e ∈ (a'.perform s.settings).refusals handle' y, 500 ≤ e.status) →
    ∃ e e', ((a.perform s.settings).run handle x).1 = .error e ∧
      ((a'.perform s.settings).run handle' y).1 = .error e' ∧ Indistinct e e'
  routes : ∀ {σ : Type} (handle : Handler σ) (caller : Option Principal) (r : Request)
    (endpoint : Endpoint) (x : σ), Endpoint.ofPath? r.route = some endpoint →
    endpoint.answers r.method → endpoint ≠ .query →
    (∃ e ∈ (s.serve caller r endpoint).refusals handle x, 500 ≤ e.status) →
    ((s.dispatch caller r).run handle x).1 = .ok (Response.ofError (.internal ""))
  fields : ∀ {σ : Type} (handle : Handler σ) (p : Principal) (t : RootType) (sel : Selection) (j : Job)
    (x : σ), rootField? t sel = .ok (.job j) →
    (∃ e ∈ (execute s.settings p j).refusals handle x, 500 ≤ e.status) →
    ∃ e, ((resolveRoot s.settings (some p) t sel).run handle x).1 =
        .ok (.done (sel.key, .ofError [.key sel.key] (some e))) ∧ Indistinct e (.internal "")

theorem toldAlike (e : Error) : ToldAlike e where
  body := rfl
  status := by
    refine ⟨?_, fun path => ?_⟩
    · cases e <;> rfl
    · rw [Error.report_extensions]
      rfl
  code := by
    refine ⟨?_, fun path => ?_⟩
    · cases e <;> rfl
    · rw [Error.report_extensions]
      rfl
  message h path := by
    rw [Error.report_message]
    cases e with
    | invalid problems => exact absurd rfl (h problems)
    | _ => rfl

theorem indistinct_of_isInternal {e e' : Error} (h : e.IsInternal) (h' : e'.IsInternal) :
    Indistinct e e' where
  response := Error.ofError_of_isInternal h h'
  report := Error.report_of_isInternal h h'

/-- Whatever goes wrong, both surfaces tell the same of it, and they tell nothing of what goes wrong in the
server. -/
theorem errors_mean_the_same_on_both_surfaces (s : Service) : (∀ e, ToldAlike e) ∧ s.HidesFaults := by
  refine ⟨toldAlike, ?_⟩
  have hinternal : (Error.internal "").IsInternal := Nat.le_refl 500
  refine ⟨fun e e' => indistinct_of_isInternal, ?_, ?_, ?_, ?_, ?_⟩
  · exact fun db conn c command fault hx hc hfault =>
      ⟨(Sql.script_givesUp conn.drawn c).run hx hc hfault, Nat.le_refl 500⟩
  · exact fun handle a x e hmet he => (Act.perform_givesUp s.settings a).run hmet he
  · rintro σ τ handle handle' a a' x y ⟨e, hmet, he⟩ ⟨e', hmet', he'⟩
    exact ⟨e, e', (Act.perform_givesUp s.settings a).run hmet he,
      (Act.perform_givesUp s.settings a').run hmet' he', indistinct_of_isInternal he he'⟩
  · rintro σ handle caller r endpoint x hr hmethod hquery ⟨e, hmet, he⟩
    rw [Service.run_dispatch_of_error hr hmethod ((Service.serve_givesUp hquery).run hmet he),
      Error.ofError_of_isInternal he hinternal]
  · rintro σ handle p t sel j x ht ⟨e, hmet, he⟩
    refine ⟨e, ?_, indistinct_of_isInternal he hinternal⟩
    rw [run_resolveRoot ht, (execute_givesUp s.settings j).run hmet he]
    rfl

/-- A pallet is put into a container while containers cannot be looked up, and a first administrator is
made while users cannot. The same calls are made on a store that works: there the container is missing, and
so is the user, which is what the administrator waits for. -/
theorem outages_of_two_tables_look_the_same :
    ∃ (s : Service) (a a' : Act) (σ σ' : Site) (e e' : Error),
      s.HidesFaults ∧ σ.down = [.containers] ∧ σ'.down = [.users] ∧
        ((a.perform s.settings).run Memory.handle σ.memory).1 = .error Pallets.foreignContainer ∧
        ((a'.perform s.settings).run Memory.handle σ'.memory).1.toBool = true ∧
        ((a.perform s.settings).run Site.handle σ).1 = .error e ∧
        ((a'.perform s.settings).run Site.handle σ').1 = .error e' ∧ Indistinct e e' := by
  let s : Service := ⟨⟨"k", 60, 4⟩, ⟨1, 100⟩, 0⟩
  let a : Act := .job ⟨9, .admin⟩ (.palletCreate ⟨none, some 1, some 1⟩)
  let a' : Act := .seedAdmin "root@x.org" "1" "secret"
  let σ : Site := ⟨Memory.empty ⟨0⟩, [.containers]⟩
  let σ' : Site := ⟨Memory.empty ⟨0⟩, [.users]⟩
  have hs := (errors_mean_the_same_on_both_surfaces s).2
  have hmet : ∃ e ∈ (a.perform s.settings).refusals Site.handle σ, 500 ≤ e.status := by
    decide +kernel
  have hmet' : ∃ e ∈ (a'.perform s.settings).refusals Site.handle σ', 500 ≤ e.status := by
    decide +kernel
  obtain ⟨e, e', hrun, hrun', hsame⟩ := hs.apart Site.handle Site.handle a a' σ σ' hmet hmet'
  refine ⟨s, a, a', σ, σ', e, e', hs, rfl, rfl, ?_, ?_, hrun, hrun', hsame⟩
  · decide +kernel
  · decide +kernel

end Depot.Http
