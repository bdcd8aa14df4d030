import Depot.Proofs.Disclosure

namespace Depot.Http

open Operation Program Store

/-- A request that checks no password: it goes to another route than the login, and no field that it
asks for changes a password. Of a query whose text is not read nothing is said. -/
structure Request.LeavesPasswords (r : Request) : Prop where
  route : ∀ door, Endpoint.ofPath? r.route ≠ some (.login door)
  read : Endpoint.ofPath? r.route = some .query → Service.readQuery r ≠ .ok none
  fields : Endpoint.ofPath? r.route = some .query →
    ∀ q, Service.readQuery r = .ok (some q) → q.LeavesPasswords

namespace Service

variable {s : Service} {caller : Option Principal} {r : Request}

theorem withBody_plain {α : Type} {body : Except Response α} {next : α → Program Response}
    (h : ∀ a, body = .ok a → Plain (next a)) : Plain (withBody body next) := by
  cases body with
  | ok a => exact h a rfl
  | error bad => exact .done rfl

theorem envelope_plain {α : Type} {f : α → α} {q : Program α} (hq : Alike f q q) (status : Nat)
    (message : String) {toJson : α → Json} (hjson : ∀ a, toJson (f a) = toJson a) :
    Plain (q.bind fun a => .done (Response.envelope status message (toJson a))) := by
  refine hq.map fun a b hab => ?_
  rw [← hjson a, hab, hjson b]

theorem registerAdmin_plain : Plain (s.registerAdmin caller r) := by
  unfold registerAdmin
  refine .bind_ofExcept fun p => withBody_plain fun a _ => ?_
  refine .bind_ofExcept fun _ => .bind_ofExcept fun _ => ?_
  exact envelope_plain (Accounts.registerAdmin_alike s.settings a) _ _ User.toJson_concealed

theorem registerMember_plain : Plain (s.registerMember caller r) := by
  unfold registerMember
  refine .bind_ofExcept fun p => .bind_plain (Authorization.grant_plain p _ _ _) fun _ => ?_
  refine withBody_plain fun a _ => .bind_ofExcept fun _ => ?_
  exact envelope_plain (Accounts.registerMember_alike p s.settings a) _ _ User.toJson_concealed

theorem registerCustomer_plain : Plain (s.registerCustomer r) :=
  withBody_plain fun a _ => .bind_ofExcept fun _ =>
    envelope_plain (Accounts.registerCustomer_alike s.settings a) _ _ fun _ => rfl

theorem registerOrganization_plain : Plain (s.registerOrganization r) :=
  withBody_plain fun a _ => .bind_ofExcept fun _ =>
    envelope_plain (Accounts.registerOrganization_alike s.settings a) _ _ fun _ => rfl

theorem query_plain (hr : ∀ q, readQuery r = .ok (some q) → q.LeavesPasswords) :
    Plain (s.query caller r) := by
  refine withBody_plain fun q hq => ?_
  cases q with
  | none => exact .done rfl
  | some q => exact .bind_plain (GraphQL.answer_plain (hr q hq) s.loader) fun _ => .done rfl

theorem serve_plain (hr : r.LeavesPasswords) {e : Endpoint}
    (he : Endpoint.ofPath? r.route = some e) : Plain (s.serve caller r e) := by
  cases e with
  | health | document | permissions | logout | console => exact .done rfl
  | login door => exact absurd he (hr.route door)
  | registerAdmin => exact registerAdmin_plain
  | registerMember => exact registerMember_plain
  | registerCustomer => exact registerCustomer_plain
  | registerOrganization => exact registerOrganization_plain
  | query => exact query_plain (hr.fields he)

theorem dispatch_plain (hr : r.LeavesPasswords) : Plain (s.dispatch caller r) := by
  unfold dispatch
  split
  · exact .done rfl
  · rename_i e he
    exact .ite ((serve_plain hr he).tryCatch fun _ => .done rfl) (.done rfl)

theorem respond_plain (hr : r.LeavesPasswords) : Plain (s.respond r) := by
  simp only [respond, bind_eq]
  cases s.caller r with
  | error e => exact .bind_plain (.done rfl) fun _ => .done rfl
  | ok caller => exact .bind_plain (dispatch_plain hr) fun _ => .done rfl

end Service

/-- What is told by password hashes is told by the checks of passwords alone. In two states that differ
in nothing else, whatever checks no password has the same outcome, and leaves states that differ in
nothing else again. -/
theorem hashes_are_told_by_checks_alone {m m' : Memory} (h : m.concealed = m'.concealed) :
    (∀ (s : Accounts.Settings) (a : Act), a.LeavesPasswords →
      (((a.perform s).run Memory.handle m).1.map fun reply =>
          (reply.rows.map Row.toJson, reply.session)) =
        (((a.perform s).run Memory.handle m').1.map fun reply =>
          (reply.rows.map Row.toJson, reply.session)) ∧
      ((a.perform s).run Memory.handle m).2.concealed =
        ((a.perform s).run Memory.handle m').2.concealed) ∧
    (∀ (p : Principal) (permission : Permission) (memberView customerView : Bool),
      let q := Authorization.evaluate p permission memberView customerView
      (q.run Memory.handle m).1 = (q.run Memory.handle m').1 ∧
        (q.run Memory.handle m).2.concealed = (q.run Memory.handle m').2.concealed) ∧
    (∀ (c : Loader.Config) (s : Accounts.Settings) (caller : Option Principal) (r : GraphQL.Request),
      r.LeavesPasswords →
        let q := GraphQL.answer c s caller r
        (q.run Memory.handle m).1 = (q.run Memory.handle m').1 ∧
          (q.run Memory.handle m).2.concealed = (q.run Memory.handle m').2.concealed) ∧
    ∀ (s : Service) (r : Request), r.LeavesPasswords →
      ((s.respond r).run Memory.handle m).1 = ((s.respond r).run Memory.handle m').1 ∧
        ((s.respond r).run Memory.handle m).2.concealed =
          ((s.respond r).run Memory.handle m').2.concealed := by
  have hplain {α : Type} {q : Program α} (hq : Plain q) :
      (q.run Memory.handle m).1 = (q.run Memory.handle m').1 ∧
        (q.run Memory.handle m).2.concealed = (q.run Memory.handle m').2.concealed := by
    obtain ⟨hanswer, hafter⟩ := hq m m' h
    exact ⟨by simpa using hanswer, hafter⟩
  refine ⟨fun s a ha => ?_, fun p permission memberView customerView => ?_,
    fun c s caller r hr => ?_, fun s r hr => ?_⟩
  · obtain ⟨hanswer, hafter⟩ := Act.perform_alike s ha m m' h
    refine ⟨?_, hafter⟩
    have hshown (x : Except Error Reply) :
        (x.map fun reply => (reply.rows.map Row.toJson, reply.session)) =
          (x.map Reply.concealed).map fun reply => (reply.rows.map Row.toJson, reply.session) := by
      cases x <;> simp [Except.map, Reply.concealed]
    rw [hshown, hanswer, ← hshown]
  · exact hplain (Authorization.evaluate_plain p permission memberView customerView)
  · exact hplain (GraphQL.answer_plain hr c)
  · exact hplain (Service.respond_plain hr)

/-- A customer chose one password in one state and another one in the other: the account is shown alike
in both, and only the login tells them apart. -/
theorem passwords_are_told_by_the_login :
    ∃ (s : Service) (m m' : Memory) (q : GraphQL.Request) (opening login : Request),
      m.concealed = m'.concealed ∧ q.LeavesPasswords ∧ opening.LeavesPasswords ∧
      ((GraphQL.answer s.loader s.settings (some ⟨1, .customer⟩) q).run Memory.handle m).1 =
        ((GraphQL.answer s.loader s.settings (some ⟨1, .customer⟩) q).run Memory.handle m').1 ∧
      ((s.respond opening).run Memory.handle m).1 = ((s.respond opening).run Memory.handle m').1 ∧
      ((s.respond opening).run Memory.handle m).1.map (·.status) = .ok 201 ∧
      ((s.respond login).run Memory.handle m).1.map (·.status) = .ok 202 ∧
      ((s.respond login).run Memory.handle m').1.map (·.status) = .ok 400 := by
  let s : Service := ⟨⟨"k", 60, 4⟩, ⟨0, 1⟩, 0⟩
  let state (password : String) : Memory :=
    ((Memory.empty ⟨0⟩).insertUser
      ⟨"Ada", "A", "ada@x.org", "1", .digest 4 (Password.key password)⟩ .customer).2
  let me : GraphQL.Selection :=
    .field "me" none [] [.field "email" none [] [], .field "userType" none [] []]
  let opening : Request :=
    ⟨"POST", "/api/auth/customer/register", [("content-type", "application/json")],
      "\x7b\"firstName\":\"Bo\",\"lastName\":\"B\",\"email\":\"bo@x.org\",\"phone\":\"2\"," ++
        "\"password\":\"secret\"\x7d"⟩
  let login : Request :=
    ⟨"POST", "/api/auth/customer/login", [("content-type", "application/json")],
      "\x7b\"email\":\"ada@x.org\",\"password\":\"secret\"\x7d"⟩
  have halike : (state "secret").concealed = (state "hidden").concealed := rfl
  have hme : (⟨.query, [me]⟩ : GraphQL.Request).LeavesPasswords := by
    intro x hx j hj
    obtain rfl := List.mem_singleton.1 hx
    have hfield : GraphQL.rootField? .query me = .ok (.job .me) := rfl
    obtain rfl : Job.me = j := GraphQL.RootField.job.inj (Except.ok.inj (hfield.symm.trans hj))
    trivial
  have hroute : Endpoint.ofPath? opening.route = some .registerCustomer := by decide
  have hopening : opening.LeavesPasswords := by
    constructor
    · simp [hroute]
    · simp [hroute]
    · simp [hroute]
  obtain ⟨-, -, hanswer, hrespond⟩ := hashes_are_told_by_checks_alone halike
  refine ⟨s, state "secret", state "hidden", ⟨.query, [me]⟩, opening, login, halike, hme, hopening,
    (hanswer s.loader s.settings (some ⟨1, .customer⟩) _ hme).1, (hrespond s opening hopening).1,
    ?_, ?_, ?_⟩
  · decide +kernel
  · decide +kernel
  · decide +kernel

end Depot.Http
