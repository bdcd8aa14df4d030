import Depot.Proofs.Addresses
import Depot.Proofs.HostNames
import Depot.Proofs.Rendering
import Depot.Proofs.Served

namespace Depot

open Store

def Store.Memory.Mailable (m : Memory) : Prop := ∀ u ∈ m.users.rows, Text.isEmailAddress u.email

theorem Credentials.problems_of_email {email password : String} {phone : Option String}
    (h : password ≠ "") : (⟨some email, phone, password⟩ : Credentials).problems =
      FieldProblem.mailbox "email" email := by
  have hlength : 1 ≤ password.length := by
    rw [← String.length_toList]
    exact List.length_pos_iff.2 (mt String.toList_eq_nil_iff.1 h)
  rw [Credentials.problems, FieldProblem.atLeast_eq_nil_iff.2 hlength, List.append_nil]
  rfl

namespace Operation

open Program

/-- The act brings no address that the login would refuse in its canonical form. -/
structure Act.BringsAddresses (a : Act) : Prop where
  opening : ∀ door r, a.opening? = some (door, r) → Text.isEmailAddress (normalizeEmail r.email)
  change : ∀ p id c email, a = .job p (.userUpdate id c) → Text.nonBlank? c.email = some email →
    Text.isEmailAddress (normalizeEmail email)

variable {s : Accounts.Settings} {m : Memory} {seen : List Memory} {a : Act} {c : Call}

theorem Act.BringsAddresses.login {now : Int} {door : Accounts.Door} {c : Credentials} :
    (Act.login now door c).BringsAddresses where
  opening _ _ h := by cases h
  change _ _ _ _ h := by cases h

theorem Act.bringsAddresses_job {p : Principal} {j : Job}
    (h : ∀ id c, j = .userUpdate id c → Text.nonBlank? c.email = none) :
    (Act.job p j).BringsAddresses where
  opening _ _ h := by cases h
  change p' id c email heq hemail := by
    obtain ⟨-, hj⟩ := Act.job.inj heq
    rw [h id c hj] at hemail
    cases hemail

theorem Users.Change.isEmailAddress_apply {c : Users.Change} {u : User}
    (hu : Text.isEmailAddress u.email)
    (hc : ∀ email, Text.nonBlank? c.email = some email → Text.isEmailAddress (normalizeEmail email)) :
    Text.isEmailAddress (c.apply u).email := by
  simp only [Change.apply]
  split
  · rename_i email hemail
    exact hc email hemail
  · exact hu

theorem Act.BringsAddresses.mailable (ha : a.BringsAddresses) (hc : Act.Licensed s seen a c)
    (hseen : ∀ n ∈ seen, n.Mailable) (hm : m.Mailable) : (Memory.handle c m).2.Mailable := by
  intro u hu
  obtain ⟨old, hold, hemail, -⟩ | hnew | ⟨v, rfl, hemail, -⟩ := Memory.user_contact hu
  · rw [hemail]
    exact hm old hold
  · obtain ⟨account, haccount, kind, rfl⟩ := hnew.exists_account
    obtain ⟨door, r, hr⟩ := hc.opening_of_account haccount
    obtain ⟨account', haccount', hr', -⟩ := hc.opening (Call.not_isRead_of_account? haccount) hr
    obtain rfl : account' = account := Option.some.inj (haccount'.symm.trans haccount)
    obtain ⟨hash, -, rfl⟩ := Accounts.account_eq_ok hr'
    exact ha.opening door r hr
  · rw [hemail]
    cases hc with
    | read hread => exact hread.elim
    | job hj =>
      cases hj with
      | userUpdate hold =>
        -- the row that is written back was read in a state that was seen
        obtain ⟨n, hn, hrow⟩ := hold.stored
        exact Users.Change.isEmailAddress_apply (hseen n hn _ hrow) fun email =>
          ha.change _ _ _ email rfl

end Operation

namespace Http

open Operation Program

def keptRules {α : Type} (problems : α → List FieldProblem) (body : Except Response α) : Option α :=
  body.toOption.filter fun a => (problems a).isEmpty

/-- The account that a request is to open, if it keeps the rules. -/
def Request.registration? (r : Request) : Option Registration :=
  match Endpoint.ofPath? r.route with
  | some .registerAdmin | some .registerCustomer =>
    keptRules Registration.problems (Service.readBody Registration.fields Registration.ofValues? r)
  | some .registerMember =>
    (keptRules MemberRegistration.problems
      (Service.readBody MemberRegistration.fields MemberRegistration.ofValues? r)).map (·.account)
  | some .registerOrganization =>
    (keptRules OrganizationRegistration.problems
      (Service.readBody OrganizationRegistration.fields OrganizationRegistration.ofValues? r)).map
        (·.owner)
  | _ => none

theorem keptRules_eq_some {α : Type} {problems : α → List FieldProblem} {body : Except Response α}
    {a : α} : keptRules problems body = some a ↔ body = .ok a ∧ problems a = [] := by
  cases body with
  | error bad => exact iff_of_false nofun fun h => by cases h.1
  | ok b =>
    simp only [keptRules, Except.toOption, Option.filter_eq_some_iff, Option.some.injEq,
      List.isEmpty_iff, Except.ok.injEq]

theorem Submits.registration? {r : Request} {caller : Option Principal} {a : Act}
    {door : Accounts.Door} {reg : Registration} (h : Submits r caller a)
    (ha : a.opening? = some (door, reg)) : r.registration? = some reg := by
  cases h with
  | login | job => cases ha
  | registerAdmin _ hr hbody hrules | registerCustomer hr hbody hrules =>
    cases ha
    rw [Request.registration?, hr]
    exact keptRules_eq_some.2 ⟨hbody, hrules⟩
  | registerMember hr hbody hrules | registerOrganization hr hbody hrules =>
    cases ha
    rw [Request.registration?, hr]
    exact Option.map_eq_some_iff.2 ⟨_, keptRules_eq_some.2 ⟨hbody, hrules⟩, rfl⟩

theorem Submits.bringsAddresses {r : Request} {caller : Option Principal} {a : Act}
    (h : Submits r caller a) (hroute : Endpoint.ofPath? r.route ≠ some .query)
    (hr : ∀ reg ∈ r.registration?, Text.isEmailAddress (normalizeEmail reg.email)) :
    a.BringsAddresses := by
  refine ⟨fun door reg hreg => hr reg (h.registration? hreg), ?_⟩
  rintro p id c email rfl -
  cases h with
  | job hquery => exact absurd hquery hroute

theorem Request.isEmailAddress_of_registration? {r : Request} {a : Registration}
    (h : r.registration? = some a) : Text.isEmailAddress a.email := by
  have hproblems : a.problems = [] := by
    unfold registration? at h
    split at h
    · exact (keptRules_eq_some.1 h).2
    · exact (keptRules_eq_some.1 h).2
    · obtain ⟨b, hb, rfl⟩ := Option.map_eq_some_iff.1 h
      exact (List.append_eq_nil_iff.1 (keptRules_eq_some.1 hb).2).1
    · obtain ⟨b, hb, rfl⟩ := Option.map_eq_some_iff.1 h
      exact (List.append_eq_nil_iff.1 (keptRules_eq_some.1 hb).2).2
    · cases h
  simp only [Registration.problems, List.append_eq_nil_iff] at hproblems
  obtain ⟨⟨⟨-, hemail⟩, -⟩, -⟩ := hproblems
  unfold FieldProblem.mailbox at hemail
  split at hemail
  · assumption
  · cases hemail

theorem Request.isEmailAddress_of_names {r : Request} {reg : Registration}
    (hreg : r.registration? = some reg)
    (hname : (Text.splitAddress? reg.email.toList).any fun x => Text.isDomainName x.2) :
    Text.isEmailAddress (normalizeEmail reg.email) := by
  have hhost : Text.hasHostName reg.email := by
    rw [Text.hasHostName, r.isEmailAddress_of_registration? hreg, hname]
    rfl
  exact Text.isEmailAddress_of_hasHostName (Text.hasHostName_normalizeEmail hhost)

variable {settings : Accounts.Settings} {s : Service} {m n : Memory} {r : Request}

theorem Served.mailable (h : Served settings Act.BringsAddresses m n) (hm : m.Mailable) :
    n.Mailable :=
  h.preserves hm (fun _ _ hn => hn) .login fun _ _ _ _ ha hc hseen hn => ha.mailable hc hseen hn

/-- The request is a login by an address. -/
structure Request.LogsIn (r : Request) (s : Service) (door : Accounts.Door)
    (email password : String) : Prop where
  method : r.method = "POST"
  route : Endpoint.ofPath? r.route = some (.login door)
  caller : ∃ caller, s.caller r = .ok caller
  body : ∃ phone, Service.readBody Credentials.fields Credentials.ofValues? r =
    .ok ⟨some email, phone, password⟩

def loginRequest (door : Accounts.Door) (email password : String) : Request :=
  ⟨"POST", (Endpoint.login door).path, [("content-type", "application/json")],
    (Json.obj [("email", .str email), ("password", .str password)]).text⟩

theorem loginRequest_logsIn (s : Service) {door : Accounts.Door} {email password : String}
    (hlimit : (loginRequest door email password).body.utf8ByteSize ≤ Service.bodyLimit) :
    (loginRequest door email password).LogsIn s door email password := by
  have hplain : (Json.obj [("email", .str email), ("password", .str password)]).Plain :=
    .obj fun x hx => by
      obtain rfl | rfl := List.mem_pair.1 hx
      · exact .str email
      · exact .str password
  have htext : Json.decodeText Credentials.fields (loginRequest door email password).body =
      .ok [.str email, .null, .str password] := by
    simp only [Json.decodeText, loginRequest, Json.text, String.toList_ofList,
      Json.Draft.read_render hplain]
    rfl
  have hjson : (loginRequest door email password).carriesJson = true := rfl
  refine ⟨rfl, ?_, ⟨none, rfl⟩, ⟨none, ?_⟩⟩
  · simp only [loginRequest, Request.route]
    cases door <;> decide
  · simp only [Service.readBody, hjson, htext, Nat.not_lt.2 hlimit, if_false]
    rfl

def welcome (t : Accounts.Session) : Response :=
  { Response.envelope 202 "login successful" t.toJson with
    cookies := [Service.sessionCookie t.token] }

def noAddress : Response := .ofError (.invalid [⟨"email", "email", some "Email is invalid"⟩])

theorem run_respond_login {door : Accounts.Door} {email password : String} {c : Credentials}
    (hr : r.LogsIn s door email password)
    (hbody : Service.readBody Credentials.fields Credentials.ofValues? r = .ok c) :
    (s.respond r).run Memory.handle m =
      (((ofExcept (Error.ofProblems c.problems)).bind fun _ =>
        (Accounts.login s.settings s.now door c).bind fun t => done (welcome t)).tryCatch fun e =>
          done (Response.ofError e)).run Memory.handle m := by
  obtain ⟨caller, hcaller⟩ := hr.caller
  have hanswers : (Endpoint.login door).answers r.method = true := by rw [hr.method]; rfl
  rw [Service.run_respond hcaller hr.method]
  simp only [Service.dispatch, hr.route, hanswers, if_true, Service.serve, Service.login, hbody,
    Service.withBody]
  rfl

theorem run_respond_of_refused {door : Accounts.Door} {email password : String}
    (hr : r.LogsIn s door email password) (hne : password ≠ "")
    (haddress : ¬ Text.isEmailAddress email) :
    (s.respond r).run Memory.handle m = (.ok noAddress, m) := by
  obtain ⟨phone, hbody⟩ := hr.body
  rw [run_respond_login hr hbody, run_tryCatch, Credentials.problems_of_email hne]
  simp [FieldProblem.mailbox, haddress, Error.ofProblems, noAddress]

theorem run_respond_of_stored (hm : m.Orderly) {u : User} (hu : u ∈ m.users.rows)
    (haddress : Text.isEmailAddress u.email) {door : Accounts.Door} {password : String}
    (hr : r.LogsIn s door u.email password) (hdoor : door.admits u)
    (hpassword : Password.verify password u.passwordHash = .ok true) (hne : password ≠ "")
    {p : Principal} (hp : u.principal = .ok p) {token : String}
    (hsession : Accounts.session s.settings s.now p = .ok ⟨p, token⟩) :
    (s.respond r).run Memory.handle m = (.ok (welcome ⟨p, token⟩), m) := by
  obtain ⟨phone, hbody⟩ := hr.body
  have hcanonical := (hm.canonical u hu).1
  have hblank : ¬ Text.isBlankText u.email := by
    rw [← normalizeEmail_eq_empty_iff, hcanonical]
    intro hempty
    rw [hempty] at haddress
    exact absurd haddress (by decide)
  have hlogin : (Accounts.login s.settings s.now door ⟨some u.email, phone, password⟩).run
      Memory.handle m = (.ok ⟨p, token⟩, m) := by
    rw [run_login (run_findUser_email hblank phone password), hcanonical,
      find_own hm.separate.1 hu .noUser]
    exact congrArg (·, m) ((Accounts.admitted_eq hdoor hpassword hp).trans hsession)
  rw [run_respond_login hr hbody, run_tryCatch, Credentials.problems_of_email hne]
  simp [FieldProblem.mailbox, haddress, Error.ofProblems, run_bind, hlogin]

/-- By the stored address and the right password the user is welcome at the doors of the own kind, as
long as tokens expire within the calendar. There is a request for it unless it would be too long. -/
def LogsInByAddress (settings : Accounts.Settings) (m : Memory) (u : User) : Prop :=
  ∀ (loader : Loader.Config) (now : Int) (door : Accounts.Door) (password : String),
    door.admits u → Password.verify password u.passwordHash = .ok true → password ≠ "" →
    Token.firstSecond ≤ now + settings.ttl → now + settings.ttl ≤ Token.lastSecond →
    ((loginRequest door u.email password).body.utf8ByteSize ≤ Service.bodyLimit →
      ∃ r : Request, r.LogsIn ⟨settings, loader, now⟩ door u.email password) ∧
    ∃ p token, u.principal = .ok p ∧ Token.issue settings.secret settings.ttl now p = .ok token ∧
      ∀ r : Request, r.LogsIn ⟨settings, loader, now⟩ door u.email password →
        ((⟨settings, loader, now⟩ : Service).respond r).run Memory.handle m =
          (.ok (welcome ⟨p, token⟩), m)

def openingRequest (email : String) : Request :=
  ⟨"POST", "/api/auth/organization/register", [("content-type", "application/json")],
    "\x7b\"orgName\":\"Acme\",\"firstName\":\"Ada\",\"lastName\":\"A\",\"email\":\"" ++ email ++
      "\",\"phone\":\"1\",\"password\":\"secret\"\x7d"⟩

def ownerClaims : Token.Claims := ⟨1, false, true, false, some 1, some 1, 60, 0⟩

def changeRequest (email : String) : Request :=
  ⟨"POST", "/api/gql/query", [("authorization", "Bearer " ++ Token.sign "k" ownerClaims)],
    "\x7b\"query\":\"mutation \x7b userUpdate(input: \x7bid: 1, email: \\\"" ++ email ++
      "\\\"\x7d) \x7b id \x7d \x7d\"\x7d"⟩

theorem caller_changeRequest (email : String) :
    Service.caller ⟨⟨"k", 60, 4⟩, ⟨0, 1⟩, 0⟩ (changeRequest email) = .ok (some ⟨1, .member 1 1⟩) := by
  have hwords : ownerClaims.InWords := ⟨by decide, by decide, by decide, by decide, by decide⟩
  exact Service.caller_of_bearer rfl hwords (by decide) rfl

def changeQuery (email : String) : GraphQL.Request :=
  ⟨.mutation, [.field "userUpdate" none [("input", .obj [("id", .int 1), ("email", .str email)])]
    [.field "id" none [] []]]⟩

/-- As long as no act brings an address that the login refuses in its canonical form, every user logs in
by the address that is stored, if this was so in the beginning. Registrations bring no such address if
the domains are names as they stand, and of the other acts only a change of a user brings any. Whoever
has one is refused for it, whatever the password. -/
theorem stored_addresses_log_in {m₀ : Memory} (h₀ : Serving settings m₀) (hm₀ : m₀.Mailable)
    (h : Served settings Act.BringsAddresses m₀ m) :
    (∀ u ∈ m.users.rows, Text.isEmailAddress u.email ∧ LogsInByAddress settings m u) ∧
    (∀ r : Request, Endpoint.ofPath? r.route ≠ some .query →
      (∀ reg ∈ r.registration?,
        (Text.splitAddress? reg.email.toList).any fun x => Text.isDomainName x.2) →
      ∀ caller a, Submits r caller a → a.BringsAddresses) ∧
    (∀ (p : Principal) (j : Job),
      (∀ id c, j = .userUpdate id c → Text.nonBlank? c.email = none) →
      (Act.job p j).BringsAddresses) ∧
    ∀ (n : Memory) (u : User), ¬ Text.isEmailAddress u.email →
      ∀ (s : Service) (r : Request) (door : Accounts.Door) (password : String),
        r.LogsIn s door u.email password → password ≠ "" →
        (s.respond r).run Memory.handle n = (.ok noAddress, n) := by
  refine ⟨fun u hu => ?_, fun r hroute hnames caller a ha => ?_, fun p j => Act.bringsAddresses_job,
    fun n u haddress s r door password hr hne => run_respond_of_refused hr hne haddress⟩
  · have haddress := h.mailable hm₀ u hu
    obtain ⟨past, hist⟩ := h.history h₀
    obtain ⟨p, hp⟩ := hist.orderly.principal u hu
    refine ⟨haddress, fun loader now door password hdoor hpassword hne hfirst hlast => ?_⟩
    obtain ⟨token, hsession⟩ : ∃ token, Accounts.session settings now p = .ok ⟨p, token⟩ :=
      Accounts.exists_session hfirst hlast
    refine ⟨fun hlimit => ⟨_, loginRequest_logsIn _ hlimit⟩, p, token, hp,
      (Accounts.session_eq_ok hsession).2, fun r hr => ?_⟩
    exact run_respond_of_stored hist.orderly hu haddress hr hdoor hpassword hne hp hsession
  · exact ha.bringsAddresses hroute fun reg hreg =>
      Request.isEmailAddress_of_names hreg (hnames reg hreg)

/-- The owner of an organization who registered with capital letters goes over to another address. -/
theorem ada_logs_in_by_both_addresses :
    ∃ (s : Accounts.Settings) (m₀ m m' : Memory), Serving s m₀ ∧ m₀.Mailable ∧
      Served s Act.BringsAddresses m₀ m ∧ Served s Act.BringsAddresses m₀ m' ∧
      m.users.rows.map (·.email) = ["ada@x.org"] ∧ m'.users.rows.map (·.email) = ["ada@b.co"] ∧
      (∀ u ∈ m.users.rows, LogsInByAddress s m u) ∧ ∀ u ∈ m'.users.rows, LogsInByAddress s m' u := by
  let s : Service := ⟨⟨"k", 60, 4⟩, ⟨0, 1⟩, 0⟩
  let m₀ := Memory.empty ⟨0⟩
  let ada : Principal := ⟨1, .member 1 1⟩
  let opening := openingRequest "Ada@X.org"
  let change := changeQuery "Ada@B.co"
  let m := ((s.respond opening).run Memory.handle m₀).2
  let m' := ((GraphQL.answer ⟨0, 1⟩ s.settings (some ada) change).run Memory.handle m).2
  have hroute : Endpoint.ofPath? opening.route ≠ some .query := by decide
  have hopening : ∀ reg ∈ opening.registration?, Text.isEmailAddress (normalizeEmail reg.email) := by
    decide +kernel
  have hm : Served s.settings Act.BringsAddresses m₀ m :=
    Served.start.request ⟨0, 1⟩ 0 hroute fun _ _ ha => ha.bringsAddresses hroute hopening
  have hchange : ∀ p, some ada = some p → ∀ j, GraphQL.Asked change.root change.fields j →
      (Act.job p j).BringsAddresses := by
    rintro p - j ⟨sel, hsel, hj⟩
    obtain rfl := List.mem_singleton.1 hsel
    obtain rfl : _ = j := GraphQL.RootField.job.inj (Except.ok.inj hj)
    refine ⟨nofun, ?_⟩
    rintro p' id c email ⟨⟩ hemail
    obtain rfl : "Ada@B.co" = email := Option.some.inj hemail
    decide +kernel
  have hm' : Served s.settings Act.BringsAddresses m₀ m' := hm.query ⟨0, 1⟩ (some ada) hchange
  have hstart : m₀.Mailable := fun u hu => absurd hu List.not_mem_nil
  have hlogin := (stored_addresses_log_in (.start ⟨0⟩) hstart hm).1
  have hlogin' := (stored_addresses_log_in (.start ⟨0⟩) hstart hm').1
  refine ⟨s.settings, m₀, m, m', .start ⟨0⟩, hstart, hm, hm', ?_, ?_, fun u hu => (hlogin u hu).2,
    fun u hu => (hlogin' u hu).2⟩
  · decide +kernel
  · decide +kernel

/-- The owner of an organization changes the own address to a text that is none. -/
theorem owner_is_refused_for_the_stored_address :
    ∃ (s : Service) (m₀ m : Memory) (r : Request), Serving s.settings m₀ ∧ m₀.Mailable ∧
      Serving s.settings m ∧ Served s.settings (fun _ => True) m₀ m ∧
      m.users.rows.map (fun u => (u.email, u.isMember)) = [("nobody", true)] ∧
      (∀ u ∈ m.users.rows, Password.verify "secret" u.passwordHash = .ok true) ∧
      ¬ Text.isEmailAddress "nobody" ∧ r.LogsIn s .member "nobody" "secret" ∧
      (s.respond r).run Memory.handle m = (.ok noAddress, m) := by
  let s : Service := ⟨⟨"k", 60, 4⟩, ⟨0, 1⟩, 0⟩
  let m₀ := Memory.empty ⟨0⟩
  let opening := openingRequest "ada@x.org"
  let change := changeRequest "nobody"
  let m := ((s.respond opening).run Memory.handle m₀).2
  let m' := ((s.dispatch (some ⟨1, .member 1 1⟩) change).run Memory.handle m).2
  have hcaller : s.caller change = .ok (some ⟨1, .member 1 1⟩) := caller_changeRequest "nobody"
  have hrun : ((s.respond change).run Memory.handle m).2 = m' := by
    rw [Service.run_respond hcaller rfl m]
  have hm : Served s.settings (fun _ => True) m₀ m :=
    Served.start.respond ⟨0, 1⟩ 0 fun _ _ _ => trivial
  have hm' : Served s.settings (fun _ => True) m₀ m' :=
    hrun ▸ hm.respond ⟨0, 1⟩ 0 fun _ _ _ => trivial
  have hserving : Serving s.settings m' :=
    hrun ▸ ((Serving.start ⟨0⟩).request ⟨0, 1⟩ 0 opening).request ⟨0, 1⟩ 0 change
  have hlimit : (loginRequest .member "nobody" "secret").body.utf8ByteSize ≤ Service.bodyLimit := by
    decide +kernel
  have hlogs := loginRequest_logsIn s hlimit
  have haddress : ¬ Text.isEmailAddress "nobody" := by decide +kernel
  refine ⟨s, m₀, m', loginRequest .member "nobody" "secret", .start ⟨0⟩,
    fun u hu => absurd hu List.not_mem_nil, hserving, hm', ?_, ?_, haddress, hlogs,
    run_respond_of_refused hlogs (by decide) haddress⟩
  · decide +kernel
  · decide +kernel

end Http

end Depot
