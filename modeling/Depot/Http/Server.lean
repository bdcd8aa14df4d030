import Depot.Http.Service

namespace Depot.Http

/-- An answer, and the headers that tell a browser which pages may read it. -/
structure Delivery where
  answer : Response
  headers : List (String × String)
  deriving Repr, DecidableEq, Inhabited

def Delivery.toJson (d : Delivery) : Json :=
  let headers := d.headers.map fun (name, value) => Json.arr [.str name, .str value]
  .obj (d.answer.toJson.members ++ [("headers", .arr headers)])

/-- Pages of any origin may read an answer, also one to a request that came with cookies. -/
def Request.sharing (r : Request) : List (String × String) :=
  let origin := (r.headers.find? (·.1 == "origin")).map (·.2)
  [("access-control-allow-credentials", "true"),
    ("vary", "origin, access-control-request-method, access-control-request-headers")] ++
      (origin.map ("access-control-allow-origin", ·)).toList

def Request.welcomed : List (String × String) :=
  [("access-control-allow-methods", "GET,POST,OPTIONS"),
    ("access-control-allow-headers", "content-type,authorization")]

/-- The routes, and the time that a request has. -/
structure Server where
  service : Service
  seconds : Nat
  deriving Repr, DecidableEq, Inhabited

namespace Server

/-- A browser that asks what it may send is told so whoever it asks for. Any other request goes to its
route, and is given up when its time is over. -/
def receive (s : Server) (waits : List Program.Wait) (r : Request) : Program Delivery :=
  if r.method == "OPTIONS" then pure ⟨.bare 200, r.sharing ++ Request.welcomed⟩
  else do
    let answer ← (s.service.respond r).within (1000 * s.seconds) waits
    pure ⟨answer.getD (.bare 408), r.sharing⟩

end Server

end Depot.Http
