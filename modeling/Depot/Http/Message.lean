import Depot.Error
import Depot.Json.Access

namespace Depot.Http

/-- A request. The names of its headers are in lower case, in the order in which they came. -/
structure Request where
  method : String
  path : String
  headers : List (String × String)
  body : String
  deriving Repr, DecidableEq, Inhabited

/-- A cookie for the client to keep, or to drop if it lives for no time. -/
structure SetCookie where
  name : String
  value : String
  attributes : List String
  deriving Repr, DecidableEq, Inhabited

structure Response where
  status : Nat
  type : Option String
  body : String
  cookies : List SetCookie
  deriving Repr, DecidableEq, Inhabited

/-- Headers can be read as text only if they hold nothing but printable ASCII, blanks and tabs. -/
def isVisible (value : String) : Bool :=
  value.toList.all fun c => (32 ≤ c.toNat && c.toNat < 127) || c == '\t'

namespace Request

/-- A header as a name and a value; names are the same in both cases. -/
def headerOfJson? : Json → Option (String × String)
  | .arr [.str name, .str value] => some (name.map Char.toLower, value)
  | _ => none

def ofJson (j : Json) : Request :=
  ⟨(j.textAt? "method").getD "GET", j.textAt "path", (j.itemsAt "headers").filterMap headerOfJson?,
    j.textAt "body"⟩

/-- All values of a header that can be read. -/
def headersNamed (r : Request) (name : String) : List String :=
  ((r.headers.filter (·.1 == name)).map (·.2)).filter isVisible

/-- The first value of a header, if it can be read. -/
def header? (r : Request) (name : String) : Option String :=
  ((r.headers.find? (·.1 == name)).map (·.2)).filter isVisible

/-- The part of the target before a query or a fragment. -/
def route (r : Request) : String :=
  String.ofList (r.path.toList.takeWhile fun c => c != '?' && c != '#')

end Request

namespace Response

def bare (status : Nat) : Response := ⟨status, none, "", []⟩

def ofText (status : Nat) (text : String) : Response :=
  ⟨status, some "text/plain; charset=utf-8", text, []⟩

def ofPage (html : String) : Response := ⟨200, some "text/html; charset=utf-8", html, []⟩

def ofJson (status : Nat) (j : Json) : Response := ⟨status, some "application/json", j.text, []⟩

def ofError (e : Error) : Response := ofJson e.status e.body

def envelope (status : Nat) (message : String) (data : Json) : Response :=
  ofJson status (.obj [("data", data), ("message", .str message), ("status", .int status)])

def cookieToJson (c : SetCookie) : Json :=
  .obj [("name", .str c.name), ("value", .str c.value), ("attributes", Json.ofList .str c.attributes)]

def toJson (r : Response) : Json :=
  .obj [("status", .int r.status), ("type", Json.ofOption .str r.type), ("body", .str r.body),
    ("cookies", Json.ofList cookieToJson r.cookies)]

/-- What is left of an answer for a client who asked only for its head. -/
def headOnly (r : Response) : Response := { r with body := "" }

end Response

end Depot.Http
