import Depot.Proofs.Registrations
import Depot.Proofs.Served
import Depot.Proofs.Traceless

namespace Depot

open Text (isBlankText)

/-- A name, and a website if there is one. -/
structure Organization.Filled (o : Organization) : Prop where
  name : ¬ isBlankText o.name
  website : ∀ w, o.website = some w → ¬ isBlankText w

/-- Both names and a phone. -/
structure User.Filled (u : User) : Prop where
  firstName : ¬ isBlankText u.firstName
  lastName : ¬ isBlankText u.lastName
  phone : ¬ isBlankText u.phone

structure Role.Filled (r : Role) : Prop where
  name : ¬ isBlankText r.name
  trimmed : Text.trim r.name = r.name

structure Registration.Filled (r : Registration) : Prop where
  firstName : ¬ isBlankText r.firstName
  lastName : ¬ isBlankText r.lastName
  phone : ¬ isBlankText r.phone

theorem Registration.Describes.filled_iff {r : Registration} {u : User} (h : r.Describes u) :
    u.Filled ↔ r.Filled := by
  have hblank {text stored : String} (hstored : stored = Text.trim text) :
      isBlankText stored ↔ isBlankText text := by
    rw [hstored, Text.isBlankText_trim]
  constructor
  · rintro ⟨hfirst, hlast, hphone⟩
    rw [hblank h.firstName] at hfirst
    rw [hblank h.lastName] at hlast
    rw [hblank h.phone] at hphone
    exact ⟨hfirst, hlast, hphone⟩
  · rintro ⟨hfirst, hlast, hphone⟩
    rw [← hblank h.firstName] at hfirst
    rw [← hblank h.lastName] at hlast
    rw [← hblank h.phone] at hphone
    exact ⟨hfirst, hlast, hphone⟩

namespace Store

/-- The organizations and the users of the state. -/
structure Memory.Filled (m : Memory) : Prop where
  organizations : ∀ o ∈ m.organizations.rows, o.Filled
  users : ∀ u ∈ m.users.rows, u.Filled

variable {m : Memory}

theorem organization_registered {new : NewOrganization} {owner : NewAccount}
    {x : Organization × Role × User}
    (h : (Memory.handle (.organizations (.register new owner)) m).1 = .ok x) :
    ∃ o ∈ (Memory.handle (.organizations (.register new owner)) m).2.organizations.rows,
      o.name = new.name := by
  simp only [Memory.handle, Memory.organizationCall, Memory.register] at h ⊢
  split at h
  · cases h
  · exact ⟨_, List.mem_append_right _ List.mem_cons_self, rfl⟩

theorem organization_overwritten {o row : Organization}
    (h : (Memory.handle (.organizations (.update o)) m).1 = .ok row) : row = o := by
  simp only [Memory.handle, Memory.organizationCall] at h
  split at h
  · cases h
  · rename_i x rows hrows
    cases h
    obtain ⟨-, -, -, -, hrow⟩ := modifyFirst?_mem hrows
    exact hrow

end Store

namespace Operation

open Program Store

variable {s : Accounts.Settings} {m : Memory} {seen : List Memory} {a : Act} {c : Call}

theorem Users.not_blank_replaced {old : String} (h : ¬ isBlankText old) (new : Option String) :
    ¬ isBlankText (Users.replaced old new) := by
  unfold Users.replaced
  split
  · rename_i text htext
    rw [Text.isBlankText_trim]
    exact Text.not_blank_of_nonBlank? htext
  · exact h

theorem Users.Change.apply_filled (change : Users.Change) {u : User} (h : u.Filled) :
    (change.apply u).Filled where
  firstName := Users.not_blank_replaced h.firstName _
  lastName := Users.not_blank_replaced h.lastName _
  phone := Users.not_blank_replaced h.phone _

theorem History.roles_filled {states : List Memory} (h : History s states) :
    ∀ m ∈ states, ∀ r ∈ m.roles.rows, r.Filled := by
  have hgiven {name : String} (hname : ¬ isBlankText name) {r : Role} (hr : r.name = Text.trim name) :
      r.Filled := by
    constructor
    · rwa [hr, Text.isBlankText_trim]
    · rw [hr, Text.trim_trim]
  induction h with
  | start clock =>
    intro m hm r hr
    obtain rfl := List.mem_singleton.1 hm
    exact absurd hr List.not_mem_nil
  | @tick m past _ now ih =>
    intro n hn r hr
    obtain rfl | hn := List.mem_cons.1 hn
    · exact ih m List.mem_cons_self r hr
    · exact ih n hn r hr
  | @call m past seen a c hist hseen hc ih =>
    intro n hn r hr
    obtain rfl | hn := List.mem_cons.1 hn
    · cases Memory.role_after hr with
      | old hr => exact ih m List.mem_cons_self r hr
      | added hnew =>
        cases hnew with
        | register =>
          have howner : ¬ isBlankText Role.ownerName ∧ Text.trim Role.ownerName = Role.ownerName := by
            decide
          exact ⟨howner.1, howner.2⟩
        | insert new =>
          cases hc with
          | read hc => exact hc.elim
          | job hj =>
            cases hj with
            | roleCreate hname => exact hgiven hname rfl
      | updated _ hupdate _ hrow =>
        subst hupdate hrow
        cases hc with
        | read hc => exact hc.elim
        | job hj =>
          cases hj with
          | roleUpdate hname => exact hgiven hname rfl
    · exact ih n hn r hr

/-- The texts that an act leaves to its caller are more than white space. -/
structure Act.Careful (a : Act) : Prop where
  account : ∀ door r, a.opening? = some (door, r) → r.Filled
  name : ∀ r, a = .registerOrganization r → ¬ isBlankText r.name
  website : ∀ p id name website, a = .job p (.organizationUpdate id name (some website)) →
    ¬ isBlankText website

theorem Act.careful_registerOrganization {r : OrganizationRegistration}
    (hname : ¬ isBlankText r.name) (howner : r.owner.Filled) :
    (Act.registerOrganization r).Careful where
  account door r' h := by
    cases h
    exact howner
  name r' h := by
    cases h
    exact hname
  website := nofun

theorem Act.careful_organizationUpdate {p : Principal} {id : Id} {name : String}
    {website : Option String} (hwebsite : ∀ w, website = some w → ¬ isBlankText w) :
    (Act.job p (.organizationUpdate id name website)).Careful where
  account := nofun
  name := nofun
  website p' id' name' w h := by
    cases h
    exact hwebsite w rfl

theorem Act.Careful.organizations (ha : a.Careful) (hc : Act.Licensed s seen a c)
    (hseen : ∀ n ∈ seen, n.Filled) (hm : m.Filled) : ∀ o ∈ (Memory.handle c m).2.organizations.rows, o.Filled := by
  intro o ho
  cases Memory.organization_after ho with
  | old ho => exact hm.organizations o ho
  | added hnew =>
    cases hnew
    cases hc with
    | read hc => exact hc.elim
    | @registerOrganization r _ haccount =>
      refine ⟨?_, fun w hw => Text.not_blank_of_nonBlank? hw⟩
      have hname := ha.name r rfl
      rwa [← Text.isBlankText_trim] at hname
    | job hj => cases hj
  | updated hupdate =>
    subst hupdate
    cases hc with
    | read hc => exact hc.elim
    | job hj =>
      cases hj with
      | organizationUpdate hname _ =>
        rw [← Text.isBlankText_trim] at hname
        refine ⟨hname, fun w hw => ?_⟩
        subst hw
        exact ha.website _ _ _ w rfl
      | organizationArchive _ ho' =>
        obtain ⟨n, hn, hrow⟩ := ho'.stored
        have hold := (hseen n hn).organizations _ hrow
        exact ⟨hold.name, hold.website⟩

theorem Act.Careful.users (ha : a.Careful) (hc : Act.Licensed s seen a c)
    (hseen : ∀ n ∈ seen, n.Filled) (hm : m.Filled) : ∀ u ∈ (Memory.handle c m).2.users.rows, u.Filled := by
  intro u hu
  cases Memory.user_after hu with
  | old hu => exact hm.users u hu
  | added hnew =>
    obtain ⟨account, haccount, kind, rfl⟩ := hnew.exists_account
    obtain ⟨door, r, ho⟩ := hc.opening_of_account haccount
    obtain ⟨account', haccount', hr, -⟩ := hc.opening (Call.not_isRead_of_account? haccount) ho
    obtain rfl : account' = account := Option.some.inj (haccount'.symm.trans haccount)
    exact (Accounts.describes_of_account hr).filled_iff.2 (ha.account door r ho)
  | updated _ hupdate _ hrow =>
    subst hupdate hrow
    cases hc with
    | read hc => exact hc.elim
    | job hj =>
      cases hj with
      | @userUpdate _ change hgranted =>
        obtain ⟨n, hn, hold⟩ := hgranted.stored
        have hnew := Users.Change.apply_filled change ((hseen n hn).users _ hold)
        exact ⟨hnew.firstName, hnew.lastName, hnew.phone⟩
  | rehashed hv _ hrow =>
    subst hrow
    have hold := hm.users _ hv
    exact ⟨hold.firstName, hold.lastName, hold.phone⟩

theorem Act.Careful.filled (ha : a.Careful) (hc : Act.Licensed s seen a c)
    (hseen : ∀ n ∈ seen, n.Filled) (hm : m.Filled) : (Memory.handle c m).2.Filled :=
  ⟨ha.organizations hc hseen hm, ha.users hc hseen hm⟩

theorem Act.careful_login {now : Int} {door : Accounts.Door} {c : Credentials} :
    (Act.login now door c).Careful := ⟨nofun, nofun, nofun⟩

theorem Act.careful_of_filled (hc : Act.Licensed s seen a c) (hwrite : ¬ c.IsRead) {x : c.Answer}
    (hx : (Memory.handle c m).1 = .ok x) (hafter : (Memory.handle c m).2.Filled) : a.Careful := by
  constructor
  case account =>
    intro door r ho
    obtain ⟨account, haccount, hr, -⟩ := hc.opening hwrite ho
    obtain ⟨u, hadded, -, husers⟩ := Memory.opens_of_ok haccount hx
    obtain ⟨kind, rfl⟩ := hadded.eq_userRow haccount
    have hfilled := hafter.users
    rw [husers] at hfilled
    have hu := hfilled _ (List.mem_append_right _ List.mem_cons_self)
    exact (Accounts.describes_of_account hr).filled_iff.1 hu
  case name =>
    rintro r rfl
    cases hc with
    | read hread => exact absurd hread hwrite
    | registerOrganization haccount =>
      obtain ⟨o, ho, hname⟩ := organization_registered hx
      have hfilled := (hafter.organizations o ho).name
      rwa [hname, Text.isBlankText_trim] at hfilled
  case website =>
    rintro p id name website rfl
    cases hc with
    | read hread => exact absurd hread hwrite
    | job hj =>
      cases hj with
      | organizationUpdate hname ho =>
        obtain rfl := organization_overwritten hx
        exact (hafter.organizations _ (organization_updated hx).1).website website rfl

theorem Act.Licensed.careful_of_silent (hc : Act.Licensed s seen a c) (hwrite : ¬ c.IsRead)
    {x : c.Answer} (hrows : c.rows x = []) : a.Careful := by
  cases hc with
  | read hread => exact absurd hread hwrite
  | seedAdmin | registerAdmin | registerMember => exact absurd hrows (List.cons_ne_nil _ _)
  | registerCustomer =>
    obtain ⟨u, profile⟩ := x
    exact absurd hrows (List.cons_ne_nil _ _)
  | registerOrganization =>
    obtain ⟨o, role, u⟩ := x
    exact absurd hrows (List.cons_ne_nil _ _)
  | job hj =>
    cases hj
    all_goals first
      | exact absurd hrows (List.cons_ne_nil _ _)
      | exact ⟨nofun, nofun, nofun⟩

theorem Act.MayRest.careful {reply : Reply} (h : a.MayRest reply) (hrows : reply.rows ≠ []) :
    a.Careful := by
  cases a with
  | seedAdmin => exact absurd h hrows
  | registerAdmin | registerCustomer | registerOrganization | registerMember => exact h.elim
  | login => exact careful_login
  | job p j =>
    refine ⟨nofun, nofun, ?_⟩
    rintro p id name website heq
    cases heq
    exact h.elim

def Event.Careful (e : Event) : Prop :=
  ∀ reply, e.outcome = .ok reply → reply.rows ≠ [] → e.act.Careful

theorem Act.event_filled_iff (hm : m.Filled) :
    (a.event s m).after.Filled ↔ (a.event s m).Careful := by
  obtain ⟨e, he, hafter⟩ | ⟨reply, hrest, hreply, hafter⟩ |
    ⟨c, seen, hseen, hwrite, hc, f, hf, houtcome, hafter⟩ := a.event_cases s m
  · rw [hafter]
    refine iff_of_true hm fun reply h => ?_
    rw [he] at h
    cases h
  · rw [hafter]
    refine iff_of_true hm fun reply' h hrows => ?_
    obtain rfl : reply = reply' := Except.ok.inj (hreply.symm.trans h)
    exact hrest.careful hrows
  · rw [hafter]
    cases hx : (Memory.handle c m).1 with
    | error e =>
      rw [Memory.handle_eq_of_error hwrite hx]
      refine iff_of_true hm fun reply h => ?_
      rw [houtcome, hx] at h
      cases h
    | ok x =>
      constructor
      · exact fun hfilled _ _ _ => Act.careful_of_filled hc hwrite hx hfilled
      · intro hcareful
        -- without a row in the reply the event says nothing about the act
        have ha : a.Careful := by
          by_cases hrows : c.rows x = []
          · exact hc.careful_of_silent hwrite hrows
          · refine hcareful (f x) ?_ ?_
            · rw [houtcome, hx]
              rfl
            · rwa [hf]
        -- nothing happened since the rows were read
        refine ha.filled hc (fun n hn => ?_) hm
        obtain rfl := List.mem_singleton.1 (hseen hn)
        exact hm

theorem Run.filled_iff {es : List Event} (h : Run s es m) :
    (∀ n ∈ visited es m, n.Filled) ↔ ∀ e ∈ es, e.Careful := by
  induction h with
  | start clock =>
    refine iff_of_true (fun n hn => ?_) fun e he => absurd he List.not_mem_nil
    obtain rfl := List.mem_singleton.1 hn
    exact ⟨fun o ho => absurd ho List.not_mem_nil, fun u hu => absurd hu List.not_mem_nil⟩
  | @tick es m _ now ih =>
    have hclock : ({ m with clock := now } : Memory).Filled ↔ m.Filled :=
      ⟨fun ⟨ho, hu⟩ => ⟨ho, hu⟩, fun ⟨ho, hu⟩ => ⟨ho, hu⟩⟩
    simp only [visited, List.forall_mem_cons] at ih ⊢
    rw [hclock, ih]
  | @act es m _ a ih =>
    rw [List.forall_mem_cons, ← ih]
    simp only [visited, List.flatMap_cons, List.cons_append, List.nil_append, List.forall_mem_cons]
    constructor
    · rintro ⟨hafter, hm, -, hes⟩
      exact ⟨(Act.event_filled_iff hm).1 hafter, hm, hes⟩
    · rintro ⟨hcareful, hm, hes⟩
      have hafter := (Act.event_filled_iff hm).2 hcareful
      exact ⟨hafter, hm, hafter, hes⟩

theorem filled_of_served {m₀ : Memory} (h : Http.Served s Act.Careful m₀ m) (hm₀ : m₀.Filled) :
    m.Filled := by
  refine h.preserves hm₀ (fun n _ hn => ?_) Act.careful_login fun a seen c n ha hc hseen hn => ?_
  · exact ⟨hn.organizations, hn.users⟩
  · exact ha.filled hc hseen hn

/-- Whatever is served, the roles have names. Organizations and users have what they need as long as
requests ask for careful acts alone, and in all states of a run just if every act that wrote something
brought it along. -/
theorem required_text_is_up_to_the_callers (s : Accounts.Settings) :
    (∀ m, Http.Serving s m → ∀ r ∈ m.roles.rows, r.Filled) ∧
      (∀ m₀ m, Http.Serving s m₀ → m₀.Filled → Http.Served s Act.Careful m₀ m →
        m.Filled ∧ ∀ r ∈ m.roles.rows, r.Filled) ∧
      ∀ es m, Run s es m →
        (∀ n ∈ visited es m, ∀ r ∈ n.roles.rows, r.Filled) ∧
          ((∀ n ∈ visited es m, n.Filled) ↔ ∀ e ∈ es, e.Careful) := by
  refine ⟨fun m h => ?_, fun m₀ m h₀ hm₀ h => ⟨filled_of_served h hm₀, ?_⟩,
    fun es m h => ⟨fun n hn => ?_, h.filled_iff⟩⟩
  · obtain ⟨past, hist⟩ := h.history
    exact hist.roles_filled m List.mem_cons_self
  · obtain ⟨past, hist⟩ := h.history h₀
    exact hist.roles_filled m List.mem_cons_self
  · obtain ⟨past, hist, hes⟩ := h.history
    exact hist.roles_filled n (visited_subset hes hn)

theorem eq_of_submits_registerOrganization {r : Http.Request} {caller : Option Principal}
    {o : OrganizationRegistration} (h : Http.Submits r caller a)
    (hroute : Http.Endpoint.ofPath? r.route = some .registerOrganization)
    (hbody : Http.Service.readBody OrganizationRegistration.fields
      OrganizationRegistration.ofValues? r = .ok o) : a = .registerOrganization o := by
  cases h with
  | registerOrganization _ hbody' =>
    obtain rfl := Except.ok.inj (hbody.symm.trans hbody')
    rfl
  | login hr | registerAdmin _ hr | registerMember hr | registerCustomer hr | job hr =>
    rw [hroute] at hr
    cases hr

/-- An organization is registered and renamed by callers who fill everything in. -/
theorem acme_is_filled_in :
    let s : Accounts.Settings := ⟨"k", 60, 4⟩
    let opening : Act :=
      .registerOrganization ⟨"Acme", some " ", ⟨"Ada", "A", "ada@x.org", " 1", "secret"⟩⟩
    let change : Act := .job ⟨1, .member 1 1⟩ (.organizationUpdate 1 " Beta" (some "x.org"))
    (∃ m, Http.Served s Act.Careful (Memory.empty ⟨0⟩) m ∧
      m.organizations.rows.map (fun o => (o.name, o.website)) = [("Acme", none)] ∧
      m.Filled ∧ ∀ r ∈ m.roles.rows, r.Filled) ∧
    ∃ es m, Run s es m ∧ es.map (·.act) = [change, opening] ∧
      m.organizations.rows.map (fun o => (o.name, o.website)) = [("Beta", some "x.org")] ∧
      ∀ n ∈ visited es m, n.Filled ∧ ∀ r ∈ n.roles.rows, r.Filled := by
  intro s opening change
  have hopening : opening.Careful :=
    Act.careful_registerOrganization (by decide) ⟨by decide, by decide, by decide⟩
  have hchange : change.Careful := Act.careful_organizationUpdate fun w hw => by
    obtain rfl := Option.some.inj hw
    decide
  refine ⟨?_, ?_⟩
  · let r : Http.Request :=
      ⟨"POST", "/api/auth/organization/register", [("content-type", "application/json")],
        "\x7b\"orgName\":\"Acme\",\"website\":\" \",\"firstName\":\"Ada\",\"lastName\":\"A\"," ++
          "\"email\":\"ada@x.org\",\"phone\":\" 1\",\"password\":\"secret\"\x7d"⟩
    have hroute : Http.Endpoint.ofPath? r.route = some .registerOrganization := by decide
    have hbody : Http.Service.readBody OrganizationRegistration.fields
        OrganizationRegistration.ofValues? r =
          .ok ⟨"Acme", some " ", ⟨"Ada", "A", "ada@x.org", " 1", "secret"⟩⟩ := by
      decide +kernel
    have hr (caller : Option Principal) (a : Act) (ha : Http.Submits r caller a) : a.Careful := by
      rw [eq_of_submits_registerOrganization ha hroute hbody]
      exact hopening
    have hstart : Http.Served s Act.Careful (Memory.empty ⟨0⟩) (Memory.empty ⟨0⟩) := .start
    have hserved := hstart.request ⟨0, 1⟩ 0 (by simp [hroute]) hr
    have hempty : (Memory.empty ⟨0⟩).Filled :=
      ⟨fun o ho => absurd ho List.not_mem_nil, fun u hu => absurd hu List.not_mem_nil⟩
    obtain ⟨hfilled, hroles⟩ :=
      (required_text_is_up_to_the_callers s).2.1 _ _ (.start ⟨0⟩) hempty hserved
    exact ⟨_, hserved, by decide +kernel, hfilled, hroles⟩
  · have hafter : (change.event s (opening.event s
        (Memory.empty ⟨0⟩)).after).after.organizations.rows.map (fun o => (o.name, o.website)) =
          [("Beta", some "x.org")] := by
      decide +kernel
    obtain ⟨es, m, hrun, hacts, hrows⟩ : ∃ es m, Run s es m ∧ es.map (·.act) = [change, opening] ∧
        m.organizations.rows.map (fun o => (o.name, o.website)) = [("Beta", some "x.org")] :=
      ⟨_, _, ((Run.start ⟨0⟩).act opening).act change, rfl, hafter⟩
    have hcareful : ∀ e ∈ es, e.Careful := by
      intro e he reply _ _
      have hact : e.act ∈ [change, opening] := by
        rw [← hacts]
        exact List.mem_map_of_mem he
      obtain hact | hact := List.mem_pair.1 hact
      · rwa [hact]
      · rwa [hact]
    obtain ⟨hroles, hfilled⟩ := (required_text_is_up_to_the_callers s).2.2 es m hrun
    exact ⟨es, m, hrun, hacts, hrows, fun n hn => ⟨hfilled.2 hcareful n hn, hroles n hn⟩⟩

end Operation

namespace Http

open Operation Store

/-- One organization is registered with blanks for everything that is trimmed, and another one is given a
blank for a website. -/
theorem required_text_can_be_blank :
    ∃ (s : Service) (m m' : Memory), Serving s.settings m ∧ Serving s.settings m' ∧
      m.organizations.rows.map (·.name) = [""] ∧
      m.users.rows.map (fun u => (u.firstName, u.lastName, u.phone)) = [("", "", "")] ∧
      m'.organizations.rows.map (·.website) = [some " "] := by
  let s : Service := ⟨⟨"k", 60, 4⟩, ⟨0, 1⟩, 0⟩
  let opening (text : String) : Request :=
    ⟨"POST", "/api/auth/organization/register", [("content-type", "application/json")],
      "\x7b\"orgName\":\"" ++ text ++ "\",\"firstName\":\"" ++ text ++ "\",\"lastName\":\"" ++ text ++
        "\",\"email\":\"ada@b.co\",\"phone\":\"" ++ text ++ "\",\"password\":\"secret\"\x7d"⟩
  let claims : Token.Claims := ⟨1, false, true, false, some 1, some 1, 60, 0⟩
  let change : Request :=
    ⟨"POST", "/api/gql/query", [("authorization", "Bearer " ++ Token.sign "k" claims)],
      "\x7b\"query\":\"mutation \x7b organizationUpdate(input: \x7bid: 1, name: \\\"A\\\", " ++
        "website: \\\" \\\"\x7d) \x7b id \x7d \x7d\"\x7d"⟩
  let m := ((s.respond (opening " ")).run Memory.handle (Memory.empty ⟨0⟩)).2
  let m₁ := ((s.respond (opening "A")).run Memory.handle (Memory.empty ⟨0⟩)).2
  have hm : Serving s.settings m := (Serving.start ⟨0⟩).request ⟨0, 1⟩ 0 _
  have hm₁ : Serving s.settings m₁ := (Serving.start ⟨0⟩).request ⟨0, 1⟩ 0 _
  have hwords : claims.InWords := ⟨by decide, by decide, by decide, by decide, by decide⟩
  have hcaller : s.caller change = .ok (some ⟨1, .member 1 1⟩) :=
    Service.caller_of_bearer rfl hwords (by decide) rfl
  have hafter : ((s.dispatch (some ⟨1, .member 1 1⟩) change).run Memory.handle
      m₁).2.organizations.rows.map (·.website) = [some " "] := by
    decide +kernel
  have hm' : Serving s.settings ((s.respond change).run Memory.handle m₁).2 :=
    hm₁.request ⟨0, 1⟩ 0 change
  rw [Service.run_respond hcaller rfl m₁] at hm'
  refine ⟨s, m, _, hm, hm', ?_, ?_, hafter⟩
  · decide +kernel
  · decide +kernel

end Http

end Depot
