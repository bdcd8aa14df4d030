import Depot.Authorization
import Depot.GraphQL.Document
import Depot.GraphQL.Execute
import Depot.Http.Cookie
import Depot.Http.Document
import Depot.Http.Endpoint
import Depot.Http.MediaType
import Depot.Json.Access
import Depot.Store.Answer

namespace Depot.Http

open Operation Program

/-- What an answer depends on beside the request and the store. -/
structure Service where
  settings : Accounts.Settings
  loader : Loader.Config
  now : Int
  deriving Repr, DecidableEq, Inhabited

def tokenCookie : String := "jwt"

/-- The scheme in front of a token is one that may be left out. -/
def withoutScheme (value : String) : String :=
  let scheme := "Bearer ".toList
  if scheme.isPrefixOf value.toList then String.ofList (value.toList.drop scheme.length) else value

/-- The token of a request. A cookie goes before the header even if it is empty; an empty token is
none. -/
def Request.token? (r : Request) : Option String :=
  let given :=
    match r.cookie? tokenCookie with
    | some value => some value
    | none => (r.header? "authorization").map withoutScheme
  given.filter (!·.isEmpty)

namespace Service

def caller (s : Service) (r : Request) : Except Error (Option Principal) :=
  match r.token? with
  | none => .ok none
  | some token => (Token.validate s.settings.secret s.now token).map some

/-- The bytes that a body may have to be read as a value. -/
def bodyLimit : Nat := 2097152

def readBody {α : Type} (fields : Json.Fields) (ofValues? : List Json → Option α) (r : Request) :
    Except Response α :=
  if !r.carriesJson then .error (.ofText 415 "the content type of the request must be JSON")
  else if bodyLimit < r.body.utf8ByteSize then .error (.ofText 413 "the body of the request is too long")
  else match Json.decodeText fields r.body with
    | .error .malformed => .error (.ofText 400 "the body of the request is no JSON")
    | .error .unfit => .error (.ofText 422 "the body of the request has another shape")
    | .ok values =>
      match ofValues? values with
      | some a => .ok a
      | none => .error (.ofText 422 "the body of the request has another shape")

def sessionCookie (token : String) : SetCookie :=
  ⟨tokenCookie, token, ["HttpOnly", "SameSite=Lax", "Path=/"]⟩

def droppedCookie : SetCookie := ⟨tokenCookie, "", ["Path=/", "Max-Age=0"]⟩

def requireCaller (caller : Option Principal) : Except Error Principal :=
  match caller with
  | some p => .ok p
  | none => .error .noCredentials

def withBody {α : Type} (body : Except Response α) (next : α → Program Response) :
    Program Response :=
  match body with
  | .error r => pure r
  | .ok a => next a

def login (s : Service) (door : Accounts.Door) (r : Request) : Program Response :=
  withBody (readBody Credentials.fields Credentials.ofValues? r) fun c => do
    Error.ofProblems c.problems
    let session ← Accounts.login s.settings s.now door c
    pure { Response.envelope 202 "login successful" session.toJson with
      cookies := [sessionCookie session.token] }

def registerAdmin (s : Service) (caller : Option Principal) (r : Request) : Program Response := do
  let p ← requireCaller caller
  withBody (readBody Registration.fields Registration.ofValues? r) fun a => do
    p.requireAdmin
    Error.ofProblems a.problems
    let u ← Accounts.registerAdmin s.settings a
    pure (.envelope 201 "admin registered" u.toJson)

/-- The permission is checked before the body is read. -/
def registerMember (s : Service) (caller : Option Principal) (r : Request) : Program Response := do
  let p ← requireCaller caller
  Authorization.grant p .createUser true false
  withBody (readBody MemberRegistration.fields MemberRegistration.ofValues? r) fun a => do
    Error.ofProblems a.problems
    let u ← Accounts.registerMember s.settings p a
    pure (.envelope 201 "member registered" u.toJson)

def registerCustomer (s : Service) (r : Request) : Program Response :=
  withBody (readBody Registration.fields Registration.ofValues? r) fun a => do
    Error.ofProblems a.problems
    let r ← Accounts.registerCustomer s.settings a
    pure (.envelope 201 "customer registered" (Store.customerJson r))

def registerOrganization (s : Service) (r : Request) : Program Response :=
  withBody (readBody OrganizationRegistration.fields OrganizationRegistration.ofValues? r) fun a => do
    Error.ofProblems a.problems
    let r ← Accounts.registerOrganization s.settings a
    pure (.envelope 201 "organization registered" (Store.registeredJson r))

/-- Only a client that sent the cookie is told to drop it. -/
def logout (r : Request) : Response :=
  { Response.envelope 200 "logged out" .null with
    cookies := if (r.cookie? tokenCookie).isSome then [droppedCookie] else [] }

/-- A member of a body that is there must be of its type; null counts as none. -/
def suits (fits : Json → Bool) (body : Json) (name : String) : Bool :=
  match body.member name with
  | .null => true
  | j => fits j

/-- A query in a body, or none if its text makes no sense. Its variables and the name of its operation
may be left out; other members are passed over. -/
def readQuery (r : Request) : Except Response (Option GraphQL.Request) :=
  let unreadable := Response.ofText 400 "the body of the request is no query"
  match Json.parse? r.body with
  | none => .error unreadable
  | some body =>
    if body.isObject && suits Json.isText body "query" && suits Json.isText body "operationName" &&
        suits Json.isObject body "variables" then
      .ok (GraphQL.Request.ofText? (body.textAt "query") (body.member "variables")
        (body.textAt? "operationName"))
    else .error unreadable

/-- The status does not say whether a query failed. -/
def query (s : Service) (caller : Option Principal) (r : Request) : Program Response :=
  withBody (readQuery r) fun q => do
    let answer ←
      match q with
      | none => pure .refused
      | some q => GraphQL.answer s.loader s.settings caller q
    pure { Response.ofJson 200 answer.toJson with type := some "application/graphql-response+json" }

def serve (s : Service) (caller : Option Principal) (r : Request) : Endpoint → Program Response
  | .health => pure (.ofText 200 "OK")
  | .document => pure (.ofJson 200 document)
  | .permissions => pure (.ofJson 200 (Json.ofList .str Permission.names))
  | .login door => login s door r
  | .registerAdmin => registerAdmin s caller r
  | .registerMember => registerMember s caller r
  | .registerCustomer => registerCustomer s r
  | .registerOrganization => registerOrganization s r
  | .logout => pure (logout r)
  | .console => pure (.ofPage consolePage)
  | .query => query s caller r

def dispatch (s : Service) (caller : Option Principal) (r : Request) : Program Response :=
  match Endpoint.ofPath? r.route with
  | none => pure (.bare 404)
  | some e =>
    if e.answers r.method then (serve s caller r e).tryCatch fun e => pure (.ofError e)
    else pure (.bare 405)

/-- Answers a request that has come to the routes. Credentials are looked at first, before it is known
whether the route exists. -/
def respond (s : Service) (r : Request) : Program Response := do
  let answer ←
    match s.caller r with
    | .error e => pure (Response.ofError e)
    | .ok caller => dispatch s caller r
  pure (if r.method == "HEAD" then answer.headOnly else answer)

end Service

end Depot.Http
