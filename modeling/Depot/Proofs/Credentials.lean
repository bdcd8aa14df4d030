import Depot.Proofs.Requests
import Depot.Proofs.Sessions

namespace Depot.Http

/-- A value without the scheme in front of it, if there is one. -/
inductive Unschemed : String → String → Prop
  | bearer (token : String) : Unschemed ("Bearer " ++ token) token
  | plain {value : String} (h : ∀ token, value ≠ "Bearer " ++ token) : Unschemed value value

theorem eq_append_of_isPrefixOf {scheme value : String}
    (h : scheme.toList.isPrefixOf value.toList = true) : ∃ rest, value = scheme ++ rest := by
  obtain ⟨rest, hrest⟩ := List.isPrefixOf_iff_prefix.1 h
  refine ⟨String.ofList rest, ?_⟩
  rw [← String.toList_inj, ← hrest, String.toList_append, String.toList_ofList]

theorem unschemed_iff {value token : String} : Unschemed value token ↔ withoutScheme value = token := by
  constructor
  · rintro (_ | h)
    · exact withoutScheme_bearer token
    · refine if_neg fun hprefix => ?_
      obtain ⟨rest, hrest⟩ := eq_append_of_isPrefixOf hprefix
      exact h rest hrest
  · rintro rfl
    by_cases hprefix : "Bearer ".toList.isPrefixOf value.toList = true
    · obtain ⟨rest, rfl⟩ := eq_append_of_isPrefixOf hprefix
      rw [withoutScheme_bearer]
      exact .bearer rest
    · have hvalue : withoutScheme value = value := if_neg hprefix
      rw [hvalue]
      refine .plain fun token heq => hprefix ?_
      rw [heq, String.toList_append]
      exact List.isPrefixOf_iff_prefix.2 (List.prefix_append _ _)

namespace Request

/-- A text that a request has for a credential: that of the cookie, or else that of the header, and in
either case not an empty one. -/
inductive Offers (r : Request) : String → Prop
  | cookie {token : String} (h : r.cookie? tokenCookie = some token) (htoken : token ≠ "") :
    Offers r token
  | header {value token : String} (hcookie : ∀ value, r.cookie? tokenCookie = some value → value = "")
    (h : r.header? "authorization" = some value) (hvalue : Unschemed value token)
    (htoken : token ≠ "") : Offers r token

def shown (r : Request) (a : Response) : Response := if r.method == "HEAD" then a.headOnly else a

variable {r : Request} {token : String}

theorem token?_eq_some_iff :
    r.token? = some token ↔ r.Offers token ∧ r.cookie? tokenCookie ≠ some "" := by
  have hempty : ∀ t : String, (!t.isEmpty) = true ↔ t ≠ "" := fun t => by simp
  unfold token?
  cases hcookie : r.cookie? tokenCookie with
  | some value =>
    simp only [Option.filter_eq_some_iff, hempty, Option.some.injEq, ne_eq]
    constructor
    · rintro ⟨rfl, hvalue⟩
      exact ⟨.cookie hcookie hvalue, hvalue⟩
    · rintro ⟨hoffers, hvalue⟩
      cases hoffers with
      | cookie h htoken => exact ⟨Option.some.inj (hcookie.symm.trans h), htoken⟩
      | header hnone => exact absurd (hnone value hcookie) hvalue
  | none =>
    simp only [Option.filter_eq_some_iff, hempty, Option.map_eq_some_iff]
    constructor
    · rintro ⟨⟨value, hvalue, hscheme⟩, htoken⟩
      refine ⟨.header (fun _ h => ?_) hvalue (unschemed_iff.2 hscheme) htoken, nofun⟩
      rw [hcookie] at h
      cases h
    · rintro ⟨hoffers, -⟩
      cases hoffers with
      | cookie h =>
        rw [hcookie] at h
        cases h
      | header _ hvalue hscheme htoken => exact ⟨⟨_, hvalue, unschemed_iff.1 hscheme⟩, htoken⟩

theorem token?_eq_none_iff :
    r.token? = none ↔ (∀ token, ¬ r.Offers token) ∨ r.cookie? tokenCookie = some "" := by
  rw [Option.eq_none_iff_forall_ne_some]
  simp only [ne_eq, token?_eq_some_iff, not_and, not_not]
  constructor
  · intro h
    by_cases hoffers : ∃ token, r.Offers token
    · obtain ⟨token, htoken⟩ := hoffers
      exact .inr (h token htoken)
    · exact .inl fun token htoken => hoffers ⟨token, htoken⟩
  · rintro (h | h) token htoken
    · exact absurd htoken (h token)
    · exact h

end Request

namespace Service

open Program

variable {s : Service} {r : Request} {token : String} {p : Principal}

theorem eq_invalidToken_of_validate {secret : String} {now : Int} {e : Error}
    (h : Token.validate secret now token = .error e) : e = .invalidToken := by
  unfold Token.validate at h
  split at h
  · unfold Token.Claims.principal at h
    split at h
    · cases h
    · exact (Except.error.inj h).symm
  · exact (Except.error.inj h).symm

theorem respond_of_caller {caller : Option Principal} (h : s.caller r = .ok caller) :
    s.respond r = (s.dispatch caller r).bind fun a => .done (r.shown a) := by
  simp only [respond, h]
  rfl

theorem respond_of_refused {e : Error} (h : s.caller r = .error e) :
    s.respond r = .done (r.shown (Response.ofError e)) := by
  simp only [respond, h]
  rfl

theorem caller_of_anonymous (h : r.token? = none) : s.caller r = .ok none := by
  rw [caller, h]

theorem caller_of_token (h : r.token? = some token) :
    s.caller r = (Token.validate s.settings.secret s.now token).map some := by
  rw [caller, h]

theorem respond_of_bad_token {e : Error} (h : r.token? = some token)
    (he : Token.validate s.settings.secret s.now token = .error e) :
    s.respond r = .done (r.shown (Response.ofError .invalidToken)) := by
  obtain rfl := eq_invalidToken_of_validate he
  refine respond_of_refused ?_
  rw [caller_of_token h, he]
  rfl

theorem offers_behind_empty_cookie {r : Request} {token : String}
    (hheaders : r.headers = [("cookie", "jwt="), ("authorization", "Bearer " ++ token)])
    (hvisible : isVisible token) (htoken : token.isEmpty = false) :
    r.cookie? tokenCookie = some "" ∧ r.Offers token := by
  have hcookie : r.cookie? tokenCookie = some "" := by
    have hnamed : r.headersNamed "cookie" = ["jwt="] := by
      simp [Request.headersNamed, hheaders, isVisible]
    rw [Request.cookie?, Request.cookies, hnamed]
    decide +kernel
  have hheader : r.header? "authorization" = some ("Bearer " ++ token) :=
    Request.header?_of_bearer (by simp [hheaders]) hvisible
  refine ⟨hcookie, .header (fun value h => ?_) hheader (.bearer token) ?_⟩
  · rw [hcookie] at h
    exact (Option.some.inj h).symm
  · rintro rfl
    cases htoken

theorem exists_customer_token (now : Int) :
    ∃ token, Token.issue "k" 60 0 ⟨1, .customer⟩ = .ok token ∧ isVisible token ∧
      token.isEmpty = false ∧
      Token.validate "k" now token =
        if now - Token.leeway ≤ 60 then .ok ⟨1, .customer⟩ else .error .invalidToken := by
  have hp : (⟨1, .customer⟩ : Principal).InWords := by
    unfold Principal.InWords
    decide
  exact ⟨_, Token.issue_eq_ok.2 ⟨by decide, rfl⟩, Token.isVisible_sign _ _, Token.sign_nonempty _ _,
    Token.validate_claimsOf "k" 60 0 now hp⟩

/-- How a service judges a request. -/
structure Judges (s : Service) (r : Request) : Prop where
  token : ∀ token, r.token? = some token ↔ r.Offers token ∧ r.cookie? tokenCookie ≠ some ""
  anonymous : r.token? = none ↔ (∀ token, ¬ r.Offers token) ∨ r.cookie? tokenCookie = some ""
  nobody : r.token? = none → s.respond r = (s.dispatch none r).bind fun a => .done (r.shown a)
  accepted : ∀ token p, r.token? = some token →
    Token.validate s.settings.secret s.now token = .ok p →
    s.respond r = (s.dispatch (some p) r).bind fun a => .done (r.shown a)
  refused : ∀ token e, r.token? = some token →
    Token.validate s.settings.secret s.now token = .error e →
    e = .invalidToken ∧ s.respond r = .done (r.shown (Response.ofError .invalidToken)) ∧
      (r.shown (Response.ofError .invalidToken)).status = 403

/-- Whichever headers a request has: it goes to its route as that of the principal whose token it brings, or
as nobody's, or not at all. -/
theorem requests_are_judged (s : Service) (r : Request) : s.Judges r where
  token _ := Request.token?_eq_some_iff
  anonymous := Request.token?_eq_none_iff
  nobody h := respond_of_caller (caller_of_anonymous h)
  accepted token p h hp := respond_of_caller (by rw [caller_of_token h, hp]; rfl)
  refused token e h he := by
    refine ⟨eq_invalidToken_of_validate he, respond_of_bad_token h he, ?_⟩
    unfold Request.shown
    split <;> rfl

/-- A customer who brings a token that is still good and no cookie. -/
theorem bearer_is_let_in :
    ∃ (s : Service) (r : Request) (token : String) (p : Principal), s.Judges r ∧
      r.headers = [("authorization", "Bearer " ++ token)] ∧ r.Offers token ∧
      Token.validate s.settings.secret s.now token = .ok p ∧
      s.respond r = (s.dispatch (some p) r).bind fun a => .done (r.shown a) := by
  obtain ⟨token, -, hvisible, hnonempty, hvalid⟩ := exists_customer_token 0
  rw [if_pos (by decide)] at hvalid
  let s : Service := ⟨⟨"k", 60, 4⟩, ⟨1, 100⟩, 0⟩
  let r : Request := ⟨"POST", "/api/gql/query", [("authorization", "Bearer " ++ token)], ""⟩
  have hjudges := requests_are_judged s r
  have htoken : r.token? = some token := Request.token?_of_bearer rfl hvisible hnonempty
  exact ⟨s, r, token, _, hjudges, rfl, ((hjudges.token token).1 htoken).1, hvalid,
    hjudges.accepted token _ htoken hvalid⟩

/-- A customer who has logged out brings an empty cookie with the next request, and a good token in the
header. -/
theorem empty_cookie_hides_the_header :
    ∃ (s : Service) (r : Request) (token : String) (p : Principal),
      r.headers = [("cookie", "jwt="), ("authorization", "Bearer " ++ token)] ∧ r.Offers token ∧
        Token.validate s.settings.secret s.now token = .ok p ∧ r.token? = none ∧
        s.respond r = (s.dispatch none r).bind fun a => .done (r.shown a) := by
  obtain ⟨token, -, hvisible, hnonempty, hvalid⟩ := exists_customer_token 0
  rw [if_pos (by decide)] at hvalid
  let s : Service := ⟨⟨"k", 60, 4⟩, ⟨1, 100⟩, 0⟩
  let r : Request :=
    ⟨"POST", "/api/gql/query", [("cookie", "jwt="), ("authorization", "Bearer " ++ token)], ""⟩
  obtain ⟨hcookie, hoffers⟩ := offers_behind_empty_cookie (r := r) rfl hvisible hnonempty
  have hnone : r.token? = none := Request.token?_eq_none_iff.2 (.inr hcookie)
  exact ⟨s, r, token, _, rfl, hoffers, hvalid, hnone, respond_of_caller (caller_of_anonymous hnone)⟩

end Service

end Depot.Http
