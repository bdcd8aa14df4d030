import Depot.Proofs.Credentials

namespace Depot.Http

def Endpoint.isOpen : Endpoint → Bool
  | registerAdmin | registerMember | query => false
  | _ => true

namespace Request

def plainHeaders (r : Request) : List (String × String) :=
  r.headers.filter fun h => h.1 != "cookie" && h.1 != "authorization"

/-- Two requests that differ only in what they say about who makes them. -/
structure Alike (r r' : Request) : Prop where
  method : r.method = r'.method
  path : r.path = r'.path
  headers : r.plainHeaders = r'.plainHeaders
  body : r.body = r'.body

variable {r r' : Request}

theorem Alike.header? (h : r.Alike r') {name : String} (hcookie : name ≠ "cookie")
    (hauthorization : name ≠ "authorization") : r.header? name = r'.header? name := by
  have hplain : ∀ r : Request, r.headers.find? (·.1 == name) = r.plainHeaders.find? (·.1 == name) := by
    intro r
    rw [plainHeaders, List.find?_filter]
    congr 1
    funext x
    by_cases hx : x.1 = name
    · simp [hx, hcookie, hauthorization]
    · simp [hx]
  rw [Request.header?, Request.header?, hplain, h.headers, ← hplain]

theorem Alike.carriesJson (h : r.Alike r') : r.carriesJson = r'.carriesJson := by
  rw [Request.carriesJson, h.header? (by decide) (by decide), ← Request.carriesJson]

theorem Alike.shown (h : r.Alike r') (a : Response) : r.shown a = r'.shown a := by
  rw [Request.shown, h.method, ← Request.shown]

theorem Alike.route (h : r.Alike r') : r.route = r'.route := by
  rw [Request.route, h.path, ← Request.route]

end Request

namespace Service

open Operation Program

variable {s : Service} {r r' : Request} {e : Endpoint}

theorem readBody_of_alike (h : r.Alike r') {α : Type} (fields : Json.Fields)
    (ofValues? : List Json → Option α) : readBody fields ofValues? r = readBody fields ofValues? r' := by
  rw [readBody, readBody, h.carriesJson, h.body]

theorem serve_of_alike (h : r.Alike r') (hopen : e.isOpen) (hlogout : e ≠ .logout)
    (caller caller' : Option Principal) : s.serve caller r e = s.serve caller' r' e := by
  cases e with
  | login | registerCustomer | registerOrganization =>
    simp only [serve, login, registerCustomer, registerOrganization, readBody_of_alike h]
  | registerAdmin | registerMember | query => cases hopen
  | logout => exact absurd rfl hlogout
  | _ => rfl

theorem dispatch_of_alike (h : r.Alike r') (hr : Endpoint.ofPath? r.route = some e)
    (hopen : e.isOpen) (hlogout : e ≠ .logout) (caller caller' : Option Principal) :
    s.dispatch caller r = s.dispatch caller' r' := by
  simp only [dispatch, ← h.route, hr, h.method, serve_of_alike h hopen hlogout caller caller']

theorem dispatch_logout (hr : Endpoint.ofPath? r.route = some .logout) (caller : Option Principal) :
    s.dispatch caller r =
      .done (if Endpoint.logout.answers r.method then logout r else .bare 405) := by
  simp only [dispatch, hr]
  split
  · rfl
  · rfl

theorem run_dispatch_ok (s : Service) (caller : Option Principal) (r : Request) {σ : Type}
    (handle : Handler σ) (x : σ) : ∃ a y, (s.dispatch caller r).run handle x = (.ok a, y) := by
  unfold dispatch
  split
  · exact ⟨_, _, rfl⟩
  · split
    · rw [run_tryCatch]
      split
      · exact ⟨_, _, rfl⟩
      · exact ⟨_, _, rfl⟩
    · exact ⟨_, _, rfl⟩

/-- How an open route stands to the credentials that come with a request. -/
structure Opens (s : Service) (r : Request) (e : Endpoint) : Prop where
  /-- Requests that are alike and not refused are answered alike and do the same to any store. -/
  alike : ∀ r' caller caller', r.Alike r' → s.caller r = .ok caller → s.caller r' = .ok caller' →
    ∀ (σ : Type) (handle : Handler σ) (x : σ), ∃ a a' y,
      (s.respond r).run handle x = (.ok a, y) ∧ (s.respond r').run handle x = (.ok a', y) ∧
        a.status = a'.status ∧ a.type = a'.type ∧ a.body = a'.body ∧
        (e ≠ .logout → a.cookies = a'.cookies)
  admitted : (∃ caller, s.caller r = .ok caller) ↔
    ∀ token, r.token? = some token → ∃ p, Token.validate s.settings.secret s.now token = .ok p
  refused : ∀ token error, r.token? = some token →
    Token.validate s.settings.secret s.now token = .error error →
    s.respond r = .done (r.shown (Response.ofError .invalidToken))
  expired : ∀ token ttl issued p, r.token? = some token → p.InWords →
    Token.issue s.settings.secret ttl issued p = .ok token → 0 ≤ issued + ttl →
    issued + ttl + Token.leeway < s.now →
    s.respond r = .done (r.shown (Response.ofError .invalidToken))
  logout : e = .logout → e.answers r.method → ∀ caller, s.caller r = .ok caller →
    s.respond r = .done (r.shown { Response.envelope 200 "logged out" .null with
      cookies := if (r.cookie? "jwt").isSome then [⟨"jwt", "", ["Path=/", "Max-Age=0"]⟩] else [] })

/-- Whoever brings good credentials, or none, is served alike by a route that does not ask who calls.
Whoever brings bad ones is refused by it. A request that only asks for options does not come to the
routes: `Server.receive` answers it before. -/
theorem open_routes_do_not_ask_who_calls (s : Service) {r : Request} {e : Endpoint}
    (hr : Endpoint.ofPath? r.route = some e) (hopen : e.isOpen) : s.Opens r e where
  alike r' caller caller' h hcaller hcaller' σ handle x := by
    rw [respond_of_caller hcaller, respond_of_caller hcaller']
    by_cases hlogout : e = .logout
    · subst hlogout
      rw [dispatch_logout hr, dispatch_logout (h.route ▸ hr), h.method]
      refine ⟨_, _, x, rfl, rfl, ?_⟩
      rw [h.shown]
      split
      · unfold Request.shown
        split <;> exact ⟨rfl, rfl, rfl, fun hne => absurd rfl hne⟩
      · exact ⟨rfl, rfl, rfl, fun _ => rfl⟩
    · rw [dispatch_of_alike h hr hopen hlogout caller caller']
      obtain ⟨a, y, hrun⟩ := s.run_dispatch_ok caller' r' handle x
      refine ⟨r.shown a, r'.shown a, y, ?_, ?_, ?_⟩
      · rw [run_bind, hrun]
        rfl
      · rw [run_bind, hrun]
        rfl
      · rw [h.shown]
        exact ⟨rfl, rfl, rfl, fun _ => rfl⟩
  admitted := by
    cases htoken : r.token? with
    | none => exact ⟨fun _ => nofun, fun _ => ⟨none, caller_of_anonymous htoken⟩⟩
    | some token =>
      rw [caller_of_token htoken]
      cases hvalid : Token.validate s.settings.secret s.now token with
      | ok p =>
        refine ⟨fun _ t ht => ?_, fun _ => ⟨some p, rfl⟩⟩
        rw [← Option.some.inj ht]
        exact ⟨p, hvalid⟩
      | error error =>
        refine ⟨fun ⟨_, h⟩ => (nomatch h), fun h => ?_⟩
        obtain ⟨p, hp⟩ := h token rfl
        rw [hvalid] at hp
        cases hp
  refused _ _ htoken herror := respond_of_bad_token htoken herror
  expired token ttl issued p htoken hp hissue hnonneg hover := by
    obtain ⟨⟨-, hlast⟩, rfl⟩ := Token.issue_eq_ok.1 hissue
    have hvalid := Token.validate_claimsOf s.settings.secret ttl issued s.now hp
    rw [Token.inWord_of_nonneg hnonneg hlast, if_neg (by omega)] at hvalid
    exact respond_of_bad_token htoken hvalid
  logout he hmethod caller hcaller := by
    subst he
    rw [respond_of_caller hcaller, dispatch_logout hr, if_pos hmethod]
    rfl

/-- Who has logged out once can do it again with the empty cookie that is left. -/
theorem logout_drops_an_empty_cookie :
    ∃ (s : Service) (r : Request) (a : Response),
      Endpoint.ofPath? r.route = some .logout ∧ Endpoint.logout.isOpen = true ∧ s.Opens r .logout ∧
        r.headers = [("cookie", "jwt=")] ∧ s.respond r = .done a ∧ a.status = 200 ∧
        a.cookies = [⟨"jwt", "", ["Path=/", "Max-Age=0"]⟩] := by
  let s : Service := ⟨⟨"k", 60, 4⟩, ⟨1, 100⟩, 0⟩
  let r : Request := ⟨"GET", "/api/auth/logout", [("cookie", "jwt=")], ""⟩
  have hr : Endpoint.ofPath? r.route = some .logout := by decide +kernel
  have hopens := open_routes_do_not_ask_who_calls s hr rfl
  have hcookie : r.cookie? "jwt" = some "" := by decide +kernel
  have hcaller : s.caller r = .ok none := caller_of_anonymous (by decide +kernel)
  have hlogout := hopens.logout rfl rfl none hcaller
  rw [hcookie] at hlogout
  exact ⟨s, r, _, hr, rfl, hopens, rfl, hlogout, rfl, rfl⟩

/-- A customer who brings a token from last week cannot log out, and would get the same answer from the
login. Without the token there would be nothing in the way. -/
theorem expired_token_keeps_the_client_out :
    ∃ (s : Service) (p : Principal) (token : String) (r r' : Request),
      Token.issue s.settings.secret s.settings.ttl 0 p = .ok token ∧
        s.settings.ttl + Token.leeway < s.now ∧ r.Alike r' ∧ r.headers = [] ∧
        Endpoint.ofPath? r.route = some .logout ∧ Endpoint.logout.isOpen = true ∧
        (∃ a, s.respond r = .done a ∧ a.status = 200) ∧
        (∃ a, s.respond r' = .done a ∧ a.status = 403) ∧
        ∀ r'' : Request, r''.headers = [("authorization", "Bearer " ++ token)] →
          s.respond r'' = .done (r''.shown (Response.ofError .invalidToken)) := by
  obtain ⟨token, hissue, hvisible, hnonempty, hvalid⟩ := exists_customer_token 604800
  rw [if_neg (by decide)] at hvalid
  let s : Service := ⟨⟨"k", 60, 4⟩, ⟨1, 100⟩, 604800⟩
  let r : Request := ⟨"GET", "/api/auth/logout", [], ""⟩
  have hrefused (r'' : Request) (h : r''.headers = [("authorization", "Bearer " ++ token)]) :
      s.respond r'' = .done (r''.shown (Response.ofError .invalidToken)) :=
    respond_of_bad_token (Request.token?_of_bearer h hvisible hnonempty) hvalid
  have hanswered : s.respond r = .done (logout r) := by
    rw [respond_of_caller (caller_of_anonymous (by decide +kernel)), dispatch_logout (by decide +kernel)]
    rfl
  refine ⟨s, ⟨1, .customer⟩, token, r, { r with headers := [("authorization", "Bearer " ++ token)] },
    hissue, by decide, ⟨rfl, rfl, rfl, rfl⟩, rfl, by decide +kernel, rfl, ⟨_, hanswered, rfl⟩,
    ⟨_, hrefused _ rfl, rfl⟩, hrefused⟩

end Service

end Depot.Http
