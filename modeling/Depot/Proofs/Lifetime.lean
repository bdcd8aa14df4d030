import Depot.Config
import Depot.Proofs.Rendering
import Depot.Proofs.Token

namespace Depot

open Text (IntegerRange)

def Principal.InWords (p : Principal) : Prop :=
  ∀ n ∈ p.id :: (p.organization?.toList ++ p.role?.toList), IntegerRange.signed64.contains n

namespace Token

/-- The numbers of the claims are of the types that hold them. -/
structure Claims.InWords (c : Claims) : Prop where
  subject : IntegerRange.signed64.contains c.subject
  organization : ∀ o ∈ c.organizationId, IntegerRange.signed64.contains o
  role : ∀ r ∈ c.roleId, IntegerRange.signed64.contains r
  expires : IntegerRange.natural64.contains c.expires
  issued : IntegerRange.natural64.contains c.issued

theorem plain_of_contains {r : IntegerRange} {n : Int} (h : r.contains n)
    (hr : r = .signed64 ∨ r = .natural64) : (Json.int n).Plain := by
  simp only [IntegerRange.contains, Bool.and_eq_true, decide_eq_true_eq] at h
  obtain rfl | rfl := hr
  · exact .int ⟨h.1, Int.lt_of_le_of_lt h.2 (by decide)⟩
  · exact .int ⟨Int.le_trans (by decide) h.1, Int.lt_of_le_of_lt h.2 (by decide)⟩

theorem Claims.InWords.plain {c : Claims} (h : c.InWords) : c.toJson.Plain := by
  have hoption {o : Option Id} (ho : ∀ n ∈ o, IntegerRange.signed64.contains n) :
      (Json.ofOption .int o).Plain := by
    cases o with
    | none => exact .null
    | some n => exact plain_of_contains (ho n rfl) (.inl rfl)
  refine .obj ?_
  simp only [List.forall_mem_cons, List.not_mem_nil, false_implies, implies_true, and_true]
  exact ⟨plain_of_contains h.subject (.inl rfl), .bool _, .bool _, .bool _, hoption h.organization,
    hoption h.role, plain_of_contains h.expires (.inr rfl), plain_of_contains h.issued (.inr rfl)⟩

theorem read_optional {o : Option Id} (h : ∀ n ∈ o, IntegerRange.signed64.contains n) :
    (Json.FieldType.optional .int64).read (Json.Draft.ofJson (Json.ofOption .int o)) =
      .ok (Json.ofOption .int o) := by
  cases o with
  | none => rfl
  | some n => simp [Json.ofOption, Json.Draft.ofJson, Json.FieldType.read, h n rfl]

theorem int?_ofOption (o : Option Id) : (Json.ofOption .int o).int? = o := by
  cases o <;> rfl

theorem Claims.InWords.decode_toJson {c : Claims} (h : c.InWords) :
    Json.decode fields (Json.Draft.ofJson c.toJson) = .ok
      [.int c.subject, .bool c.isAdmin, .bool c.isMember, .bool c.isCustomer,
        Json.ofOption .int c.organizationId, Json.ofOption .int c.roleId, .int c.expires,
        .int c.issued] := by
  simp [toJson, Json.Draft.ofJson, Json.Draft.ofMembers, Json.decode, fields, Json.readMembers,
    Json.collect, Json.FieldType.read, h.subject, h.expires, h.issued, read_optional h.organization,
    read_optional h.role, bind, Except.bind, Except.map]

theorem Claims.ofText?_text {c : Claims} (h : c.InWords) : ofText? c.toJson.text = some c := by
  have hread := Json.Draft.read_render h.plain
  have hdecode := h.decode_toJson
  have hmembers : Json.Draft.ofJson c.toJson = .obj (Json.Draft.ofMembers c.toJson.members) := rfl
  have hacceptable : acceptable (Json.Draft.ofMembers c.toJson.members) = true := by
    simp [acceptable, Json.Draft.ofMembers, toJson, Json.members]
  rw [hmembers] at hread hdecode
  rw [ofText?, Json.text, String.toList_ofList, hread]
  simp only [hdecode, hacceptable, if_true, ofValues?, int?_ofOption]
  rfl

def claimsOf (ttl now : Int) (p : Principal) : Claims :=
  ⟨p.id, p.isAdmin, p.isMember, p.isCustomer, p.organization?, p.role?, (inWord (now + ttl)).toNat,
    (inWord now).toNat⟩

theorem principal_claimsOf (ttl now : Int) (p : Principal) :
    (claimsOf ttl now p).principal = .ok p := by
  have hflags : (claimsOf ttl now p).flags = p.flags := rfl
  rw [Claims.principal, hflags, p.principal?_flags]

theorem toNat_inWord (n : Int) : ((inWord n).toNat : Int) = inWord n :=
  Int.toNat_of_nonneg (Int.emod_nonneg n (by decide))

theorem contains_inWord (n : Int) : IntegerRange.natural64.contains (inWord n) := by
  have hnonneg : 0 ≤ inWord n := Int.emod_nonneg n (by decide)
  have hlt : inWord n < 0x10000000000000000 := Int.emod_lt_of_pos n (by decide)
  rw [IntegerRange.contains, Bool.and_eq_true, decide_eq_true_eq, decide_eq_true_eq]
  exact ⟨hnonneg, Int.le_of_lt_add_one hlt⟩

theorem inWord_of_nonneg {n : Int} (hnonneg : 0 ≤ n) (h : n ≤ lastSecond) : inWord n = n :=
  Int.emod_eq_of_lt hnonneg (Int.lt_of_le_of_lt h (by decide))

theorem lastSecond_lt_inWord {n : Int} (hneg : n < 0) (h : firstSecond ≤ n) :
    lastSecond < inWord n := by
  unfold inWord lastSecond firstSecond at *
  omega

theorem Claims.InWords.of_principal {p : Principal} (h : p.InWords) (ttl now : Int) :
    (claimsOf ttl now p).InWords where
  subject := h _ List.mem_cons_self
  organization o ho :=
    h o (List.mem_cons_of_mem _ (List.mem_append_left _ (Option.mem_toList.2 ho)))
  role r hr := h r (List.mem_cons_of_mem _ (List.mem_append_right _ (Option.mem_toList.2 hr)))
  expires := by
    rw [claimsOf, toNat_inWord]
    exact contains_inWord _
  issued := by
    rw [claimsOf, toNat_inWord]
    exact contains_inWord _

theorem issue_eq_ok {secret : String} {ttl now : Int} {p : Principal} {token : String} :
    issue secret ttl now p = .ok token ↔
      (firstSecond ≤ now + ttl ∧ now + ttl ≤ lastSecond) ∧
        token = sign secret (claimsOf ttl now p) := by
  simp only [issue, Bool.or_eq_true, decide_eq_true_eq]
  split_ifs with h
  · refine ⟨nofun, fun hcalendar => ?_⟩
    omega
  · rw [Except.ok.injEq]
    refine ⟨fun htoken => ⟨by omega, htoken.symm⟩, fun htoken => htoken.2.symm⟩

theorem validate_claimsOf (secret : String) (ttl now t : Int) {p : Principal} (hp : p.InWords) :
    validate secret t (sign secret (claimsOf ttl now p)) =
      if t - leeway ≤ inWord (now + ttl) then .ok p else .error .invalidToken := by
  have hexpires : ((claimsOf ttl now p).expires : Int) = inWord (now + ttl) := toNat_inWord _
  rw [validate, read?_sign, Claims.ofText?_text (.of_principal hp ttl now), Option.filter_some,
    hexpires]
  by_cases h : t - leeway ≤ inWord (now + ttl)
  · simp only [h, decide_true, if_true, principal_claimsOf]
  · simp only [h, decide_false, if_false, Bool.false_eq_true]

/-- The law of lifetimes in exact numbers: a token is issued, and from then on it is accepted until
its expiry and the leeway are over. -/
def KeepsLifetime (secret : String) (ttl now : Int) (p : Principal) : Prop :=
  ∃ token, issue secret ttl now p = .ok token ∧ ∀ t, now ≤ t →
    validate secret t token = if t - leeway ≤ now + ttl then .ok p else .error .invalidToken

theorem keepsLifetime_iff {secret : String} {ttl now : Int} {p : Principal} (hp : p.InWords)
    (hnow : now ≤ lastSecond) :
    KeepsLifetime secret ttl now p ↔ 0 ≤ now + ttl ∧ now + ttl ≤ lastSecond := by
  constructor
  · rintro ⟨token, htoken, hlife⟩
    obtain ⟨⟨hfirst, hlast⟩, rfl⟩ := issue_eq_ok.1 htoken
    refine ⟨?_, hlast⟩
    by_contra hneg
    have hword := lastSecond_lt_inWord (Int.not_le.1 hneg) hfirst
    -- a time when the token is over, but not what its word says
    obtain ⟨t, ht, hover, hleft⟩ : ∃ t, now ≤ t ∧ ¬t - leeway ≤ now + ttl ∧
        t - leeway ≤ inWord (now + ttl) := by
      refine ⟨max now (now + ttl + leeway + 1), by omega, by omega, ?_⟩
      have hleeway : leeway = 60 := rfl
      omega
    have h := hlife t ht
    rw [validate_claimsOf secret ttl now t hp, if_pos hleft, if_neg hover] at h
    exact absurd h nofun
  · rintro ⟨hnonneg, hlast⟩
    have hfirst : firstSecond ≤ now + ttl := Int.le_trans (by decide) hnonneg
    refine ⟨_, issue_eq_ok.2 ⟨⟨hfirst, hlast⟩, rfl⟩, fun t _ => ?_⟩
    rw [validate_claimsOf secret ttl now t hp, inWord_of_nonneg hnonneg hlast]

/-- Lifetimes are exact where the expiry lies between 1970 and the end of the calendar. A token with an
earlier one never expires, and without one in the calendar there is no token. -/
theorem lifetime_is_kept_from_1970_on {c : Config} {s : Operation.Accounts.Settings}
    (hs : c.accounts? = some s) {p : Principal} (hp : p.InWords) {now : Int}
    (hnow : now ≤ lastSecond) :
    let expires := now + c.tokenHours * 3600
    (KeepsLifetime s.secret s.ttl now p ↔ 0 ≤ expires ∧ expires ≤ lastSecond) ∧
      (expires < 0 → ∀ token, issue s.secret s.ttl now p = .ok token →
        ∀ t ≤ lastSecond, validate s.secret t token = .ok p) ∧
      ((∃ token, issue s.secret s.ttl now p = .ok token) ↔
        firstSecond ≤ expires ∧ expires ≤ lastSecond) := by
  intro expires
  have httl : s.ttl = c.tokenHours * 3600 := by
    rw [Config.accounts?, Option.ite_none_right_eq_some] at hs
    rw [← Option.some.inj hs.2]
  have hexpires : now + s.ttl = expires := by rw [httl]
  refine ⟨?_, fun hneg token htoken t ht => ?_, ?_⟩
  · rw [keepsLifetime_iff hp hnow, hexpires]
  · obtain ⟨⟨hfirst, -⟩, rfl⟩ := issue_eq_ok.1 htoken
    have hword := lastSecond_lt_inWord (by omega : now + s.ttl < 0) hfirst
    have hleeway : leeway = 60 := rfl
    rw [validate_claimsOf s.secret s.ttl now t hp, if_pos (by omega)]
  · simp only [issue_eq_ok, hexpires, exists_and_left, exists_eq, and_true]

/-- An environment that sets what must be set, and the lifetime of tokens if one is given. -/
def environmentOf (hours : Option String) : Config.Environment := fun name =>
  ([("DATABASE_URL", some "db"), ("JWT_SECRET", some "key"), ("TOKEN_TTL_HOURS", hours)].lookup
    name).join

def configOf (hours : Int) : Config :=
  { serverAddress := "0.0.0.0:3000", databaseUrl := "db", secret := "key", tokenHours := hours,
    requestSeconds := 10, maxConnections := 5, loader := ⟨1, 100⟩, adminEmail := none,
    adminPassword := none, adminPhone := "+0000000000" }

/-- A token is good for a week and a minute, to the second, unless another lifetime is set. -/
theorem token_lasts_a_week_and_a_minute :
    ∃ c s token, Config.ofEnvironment (environmentOf none) = .ok c ∧ c.accounts? = some s ∧
      issue s.secret s.ttl 1763000000 ⟨7, .member 1 2⟩ = .ok token ∧
      validate s.secret (1763000000 + 604800 + 60) token = .ok ⟨7, .member 1 2⟩ ∧
      validate s.secret (1763000000 + 604800 + 61) token = .error .invalidToken := by
  have hs : (configOf 168).accounts? = some ⟨"key", 604800, 12⟩ := by decide
  have hp : (⟨7, .member 1 2⟩ : Principal).InWords := by
    unfold Principal.InWords
    decide
  have hnow : (1763000000 : Int) ≤ lastSecond := by decide
  obtain ⟨token, htoken, hlife⟩ := (lifetime_is_kept_from_1970_on hs hp hnow).1.2 (by decide)
  refine ⟨_, _, token, rfl, hs, htoken, ?_, ?_⟩
  · rw [hlife _ (by decide), if_pos (by decide)]
  · rw [hlife _ (by decide), if_neg (by decide)]

/-- A lifetime that reaches back before 1970 does not end, and from one that is too long there is no
token. -/
theorem lifetimes_can_fail :
    (∃ c s token, Config.ofEnvironment (environmentOf (some "-600000")) = .ok c ∧
      c.accounts? = some s ∧ s.ttl < -leeway ∧
      issue s.secret s.ttl 1763000000 ⟨7, .member 1 2⟩ = .ok token ∧
      validate s.secret 1763000000 token = .ok ⟨7, .member 1 2⟩) ∧
    ∃ c s, Config.ofEnvironment (environmentOf (some "2500000000")) = .ok c ∧
      c.accounts? = some s ∧
      ∀ token, issue s.secret s.ttl 1763000000 ⟨7, .member 1 2⟩ ≠ .ok token := by
  have hp : (⟨7, .member 1 2⟩ : Principal).InWords := by
    unfold Principal.InWords
    decide
  constructor
  · refine ⟨configOf (-600000), ⟨"key", -2160000000, 12⟩, _, rfl, by decide, by decide,
      issue_eq_ok.2 ⟨by decide, rfl⟩, ?_⟩
    rw [validate_claimsOf _ _ _ _ hp, if_pos (by decide)]
  · refine ⟨configOf 2500000000, ⟨"key", 9000000000000, 12⟩, rfl, by decide, fun token htoken => ?_⟩
    exact absurd (issue_eq_ok.1 htoken).1 (by decide)

end Token

namespace Http

theorem Service.caller_of_bearer {s : Service} {r : Request} {claims : Token.Claims} {p : Principal}
    (hheaders : r.headers = [("authorization", "Bearer " ++ Token.sign s.settings.secret claims)])
    (hwords : claims.InWords) (hlife : s.now - Token.leeway ≤ (claims.expires : Int))
    (hp : claims.principal = .ok p) : s.caller r = .ok (some p) := by
  have htoken : r.token? = some (Token.sign s.settings.secret claims) :=
    Request.token?_of_bearer hheaders (Token.isVisible_sign _ _) (Token.sign_nonempty _ _)
  have hclaims : Token.read? s.settings.secret s.now (Token.sign s.settings.secret claims) =
      some claims := by
    rw [Token.read?_sign, Token.Claims.ofText?_text hwords, Option.filter_some,
      if_pos (decide_eq_true hlife)]
  simp only [caller, htoken, Token.validate, hclaims, hp]
  rfl

end Http

end Depot
