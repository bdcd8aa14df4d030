import Depot.Json.Decode
import Depot.Principal
import Depot.Text.Bytes
import Depot.Text.Pieces
import Depot.Token.Base64
import Depot.Token.Sha256

namespace Depot.Token

/-- What a token says. Times are seconds since the start of 1970, kept in 64 bits without a sign. -/
structure Claims where
  subject : Id
  isAdmin : Bool
  isMember : Bool
  isCustomer : Bool
  organizationId : Option Id
  roleId : Option Id
  expires : Nat
  issued : Nat
  deriving Repr, DecidableEq, Inhabited

namespace Claims

def flags (c : Claims) : Flags :=
  ⟨c.subject, c.isAdmin, c.isMember, c.isCustomer, c.organizationId, c.roleId⟩

def principal (c : Claims) : Except Error Principal :=
  match c.flags.principal? with
  | some p => .ok p
  | none => .error .invalidToken

def toJson (c : Claims) : Json :=
  .obj [("sub", .int c.subject), ("isAdmin", .bool c.isAdmin), ("isMember", .bool c.isMember),
    ("isCustomer", .bool c.isCustomer), ("organizationId", Json.ofOption .int c.organizationId),
    ("roleId", Json.ofOption .int c.roleId), ("exp", .int c.expires), ("iat", .int c.issued)]

def fields : Json.Fields :=
  [("sub", .int64), ("isAdmin", .bool), ("isMember", .bool), ("isCustomer", .bool),
    ("organizationId", .optional .int64), ("roleId", .optional .int64), ("exp", .nat64),
    ("iat", .nat64)]

def ofValues? : List Json → Option Claims
  | [sub, .bool isAdmin, .bool isMember, .bool isCustomer, organization, role, exp, iat] => do
    let sub ← sub.int?
    let exp ← exp.int?
    let iat ← iat.int?
    some ⟨sub, isAdmin, isMember, isCustomer, organization.int?, role.int?, exp.toNat, iat.toNat⟩
  | _ => none

/-- An audience that can be read, one name or a list of names, is one that nobody here expects. -/
def namesAudience : Json.Draft → Bool
  | .str _ => true
  | .arr items => items.all fun d => match d with
    | .str _ => true
    | _ => false
  | _ => false

/-- The members that the reader of tokens looks at beside the claims: each may be given once, and an
audience must not be readable. -/
def acceptable (members : List (String × Json.Draft)) : Bool :=
  ["aud", "iss", "nbf"].all (fun name => (members.filter (·.1 == name)).length ≤ 1) &&
    !members.any (fun m => m.1 == "aud" && namesAudience m.2)

def ofText? (text : String) : Option Claims :=
  match Json.Draft.read text.toList with
  | (.obj members, false) =>
    match Json.decode fields (.obj members) with
    | .ok values => if acceptable members then ofValues? values else none
    | .error _ => none
  | _ => none

end Claims

def header : Json := .obj [("typ", .str "JWT"), ("alg", .str "HS256")]

def textMembers : List String :=
  ["typ", "cty", "jku", "kid", "x5u", "x5t", "x5t#S256", "url", "nonce"]

def listMembers : List String := ["x5c", "crit"]

def isText : Json → Bool
  | .str _ => true
  | _ => false

def headerMember (name : String) (value : Json) : Bool :=
  if name == "alg" then
    match value with
    | .str a => a == "HS256"
    | _ => false
  else if textMembers.contains name then
    match value with
    | .str _ | .null => true
    | _ => false
  else if listMembers.contains name then
    match value with
    | .null => true
    | .arr items => items.all isText
    | _ => false
  else if name == "jwk" then
    match value with
    | .null => true
    | _ => false
  else isText value

/-- A header that names the one algorithm in use. Members that have a meaning may be given once, all
others must be texts. -/
def acceptsHeader (text : String) : Bool :=
  match Json.parse? text with
  | some (.obj members) =>
    members.any (·.1 == "alg") && members.all (fun m => headerMember m.1 m.2) &&
      ("alg" :: "jwk" :: textMembers ++ listMembers).all fun name =>
        (members.filter (·.1 == name)).length ≤ 1
  | _ => false

def part (j : Json) : List Char := Base64.encode (Text.utf8 j.text)

def signature (secret : String) (message : List Char) : List Char :=
  Base64.encode (Sha256.hmac (Text.utf8 secret) (Text.utf8 (String.ofList message)))

def sign (secret : String) (claims : Claims) : String :=
  let message := part header ++ '.' :: part claims.toJson
  String.ofList (message ++ '.' :: signature secret message)

def decodePart (cs : List Char) : Option String := (Base64.decode cs).bind Text.ofUtf8?

/-- Seconds that a token is accepted past its expiry. -/
def leeway : Int := 60

/-- The claims of a token that was signed with the secret and has not expired at the time `now`. -/
def read? (secret : String) (now : Int) (token : String) : Option Claims :=
  match Text.pieces (· == '.') token.toList with
  | [h, c, s] =>
    if s = signature secret (h ++ '.' :: c) then
      match decodePart h, decodePart c with
      | some h, some c =>
        if acceptsHeader h then
          (Claims.ofText? c).filter fun claims => now - leeway ≤ (claims.expires : Int)
        else none
      | _, _ => none
    else none
  | _ => none

def validate (secret : String) (now : Int) (token : String) : Except Error Principal :=
  match read? secret now token with
  | some claims => claims.principal
  | none => .error .invalidToken

/-- The first and the last second of the calendar in which expiries are computed: the years from
262143 before to 262142 after the beginning of the era. -/
def firstSecond : Int := -8334601228800

def lastSecond : Int := 8210266876799

/-- An integer modulo the size of a word. -/
def inWord (n : Int) : Int := n % 0x10000000000000000

/-- Issues a token for a principal. The expiry must lie in the calendar; it is stored in a word. -/
def issue (secret : String) (ttl : Int) (now : Int) (p : Principal) : Except Error String :=
  let expires := now + ttl
  if expires < firstSecond || lastSecond < expires then
    .error (.internal "the expiry lies outside the calendar")
  else
    let f := p.flags
    .ok (sign secret ⟨p.id, f.isAdmin, f.isMember, f.isCustomer, f.organizationId, f.roleId,
      (inWord expires).toNat, (inWord now).toNat⟩)

end Depot.Token
