import Depot.Json

namespace Depot

/-- The kind of rule that a database statement broke. -/
inductive Violation where
  | unique
  | foreignKey
  | notNull
  | check
  | other
  deriving Repr, DecidableEq, Inhabited

def Violation.ofState : String → Violation
  | "23505" => .unique
  | "23503" => .foreignKey
  | "23502" => .notNull
  | "23514" => .check
  | _ => .other

/-- Why the database gave no answer. -/
inductive DatabaseFault where
  | noRow
  | busy
  | closed
  | unknownColumn
  | undecodable
  | unavailable
  | refused (violation : Violation) (constraint : Option String)
  deriving Repr, DecidableEq, Inhabited

/-- Why a password could not be hashed or checked. -/
inductive HashFault where
  | cost (cost : Int)
  | malformed
  deriving Repr, DecidableEq, Inhabited

/-- One broken rule of one field of a request body. -/
structure FieldProblem where
  field : String
  code : String
  message : Option String
  deriving Repr, DecidableEq, Inhabited

inductive Error where
  | invalid (problems : List FieldProblem)
  | badRequest (message : String)
  | unauthorized (message : String)
  | notFound (message : String)
  | emailTaken
  | phoneTaken
  | duplicate (constraint : String)
  | invalidToken
  | database (fault : DatabaseFault)
  | internal (cause : String)
  | hashing (fault : HashFault)
  | signing (cause : String)
  deriving Repr, DecidableEq, Inhabited

namespace Error

def noOrganization : Error := .notFound "no organization found"

def noRole : Error := .notFound "no role found"

def noUser : Error := .notFound "user not found"

def noProfile : Error := .notFound "no profile found"

def noContainer : Error := .notFound "no container found"

def noPallet : Error := .notFound "no pallet found"

/-- The caller's role does not allow the operation. -/
def notAuthorized : Error := .unauthorized "user not authorized"

/-- The caller's kind does not allow the operation. -/
def notPermitted : Error := .unauthorized "permission not granted"

def noCredentials : Error := .unauthorized "no credentials provided"

end Error

namespace DatabaseFault

/-- A missing row is the caller's mistake, everything else the database's. -/
def toError : DatabaseFault → Error
  | .noRow => .notFound "object not found"
  | fault => .database fault

/-- The error of a write, told from the name of the constraint that it broke. -/
def toWriteError : DatabaseFault → Error
  | .refused .foreignKey _ =>
    .badRequest "object is still referenced or references a missing object"
  | .refused .unique (some constraint) =>
    if constraint = "users_email_key" then .emailTaken
    else if constraint = "users_phone_key" then .phoneTaken
    else .duplicate constraint
  | fault => fault.toError

end DatabaseFault

def HashFault.text : HashFault → String
  | .cost given => "Cost needs to be between 4 and 31, got " ++ toString given
  | .malformed => "Invalid hash: the hash format is malformed"

namespace Error

def text : Error → String
  | .invalid _ => "Erro de validação"
  | .badRequest message => message
  | .unauthorized message => message
  | .notFound message => message
  | .emailTaken => "email already registered"
  | .phoneTaken => "phone already registered"
  | .duplicate constraint => "duplicated value for " ++ constraint
  | .invalidToken => "token error"
  | .database _ => "Erro de banco de dados"
  | .internal _ => "Erro interno do servidor"
  | .hashing fault => "Erro de Bcrypt: " ++ fault.text
  | .signing cause => "Erro de JWT: " ++ cause

def status : Error → Nat
  | .invalid _ | .badRequest _ | .emailTaken | .phoneTaken | .duplicate _ => 400
  | .unauthorized _ => 401
  | .invalidToken => 403
  | .notFound _ => 404
  | .signing _ => 422
  | .database _ | .internal _ | .hashing _ => 500

def codeOfStatus (status : Nat) : String :=
  if status = 400 then "bad_request"
  else if status = 401 || status = 403 then "unauthorized"
  else if status = 404 then "not_found"
  else if status = 422 then "unprocessable_entity"
  else "internal_server_error"

def code (e : Error) : String := codeOfStatus e.status

/-- The wording a client may see: nothing of an internal error. -/
def publicText (e : Error) : String :=
  if e.status = 500 then "internal server error" else e.text

def details (problems : List FieldProblem) : Json :=
  let fields := (problems.map (·.field)).eraseDups
  .obj (fields.map fun field =>
    (field, .arr ((problems.filter (·.field == field)).filterMap (·.message.map .str))))

def body (e : Error) : Json :=
  match e with
  | .invalid problems =>
    .obj [("message", .str "one or more fields are invalid"), ("error", .str e.code),
      ("status", .int e.status), ("details", details problems)]
  | _ =>
    .obj [("message", .str e.publicText), ("error", .str e.code), ("status", .int e.status)]

def extensions (e : Error) : Json :=
  .obj [("status", .int e.status), ("error", .str e.code)]

end Error

end Depot
