import Depot.Error
import Depot.Inventory
import Depot.Organization
import Depot.Role
import Depot.User

namespace Depot.Sql

/-- What stands in one column of one row. -/
inductive Cell where
  | null
  | int (n : Int)
  | bool (b : Bool)
  | text (s : String)
  | texts (ss : List String)
  | uid (u : Uid)
  | time (t : Timestamp)
  deriving Repr, DecidableEq, Inhabited

inductive CellType where
  | int
  | bool
  | text
  | texts
  | uid
  | time
  | optional (t : CellType)
  deriving Repr, DecidableEq, Inhabited

abbrev Columns := List (String × CellType)

abbrev Row := List (String × Cell)

def CellType.accepts : CellType → Cell → Bool
  | .optional _, .null => true
  | .optional t, c => t.accepts c
  | .int, .int _ | .bool, .bool _ | .text, .text _ | .texts, .texts _ | .uid, .uid _
  | .time, .time _ => true
  | _, _ => false

def Row.cells (r : Row) : Columns → Except DatabaseFault (List Cell)
  | [] => .ok []
  | (name, t) :: rest =>
    match r.find? (·.1 == name) with
    | none => .error .unknownColumn
    | some (_, c) => if t.accepts c then (Row.cells r rest).map (c :: ·) else .error .undecodable

namespace Cell

def int? : Cell → Option Int
  | .int n => some n
  | _ => none

def text? : Cell → Option String
  | .text s => some s
  | _ => none

end Cell

/-- A kind of row: the table it is kept in, its columns, and what to answer when there is none. -/
structure RowKind (α : Type) where
  table : String
  columns : Columns
  ofCells? : List Cell → Option α
  missing : Error

def RowKind.read {α : Type} (k : RowKind α) (r : Row) : Except DatabaseFault α :=
  match r.cells k.columns with
  | .error f => .error f
  | .ok cells =>
    match k.ofCells? cells with
    | some a => .ok a
    | none => .error .undecodable

def organizations : RowKind Organization where
  table := "organizations"
  columns := [("id", .int), ("code", .text), ("name", .text), ("website", .optional .text),
    ("is_archived", .bool), ("created_at", .time), ("updated_at", .time)]
  ofCells?
    | [.int id, .text code, .text name, website, .bool archived, .time created, .time updated] =>
      some ⟨id, code, name, website.text?, archived, created, updated⟩
    | _ => none
  missing := .noOrganization

def roles : RowKind Role where
  table := "roles"
  columns := [("id", .int), ("code", .text), ("name", .text), ("permissions", .texts),
    ("is_org_admin", .bool), ("is_archived", .bool), ("organization_id", .int),
    ("created_at", .time), ("updated_at", .time)]
  ofCells?
    | [.int id, .text code, .text name, .texts permissions, .bool administers, .bool archived,
        .int organization, .time created, .time updated] =>
      some ⟨id, code, name, permissions, administers, archived, organization, created, updated⟩
    | _ => none
  missing := .noRole

def users : RowKind User where
  table := "users"
  columns := [("id", .int), ("first_name", .text), ("last_name", .text), ("email", .text),
    ("phone", .text), ("is_admin", .bool), ("is_member", .bool), ("is_customer", .bool),
    ("password_hash", .text), ("organization_id", .optional .int), ("role_id", .optional .int),
    ("created_at", .time), ("updated_at", .time)]
  ofCells?
    | [.int id, .text firstName, .text lastName, .text email, .text phone, .bool admin,
        .bool member, .bool customer, .text hash, organization, role, .time created,
        .time updated] =>
      some ⟨id, firstName, lastName, email, phone, admin, member, customer, .text hash,
        organization.int?, role.int?, created, updated⟩
    | _ => none
  missing := .noUser

def profiles : RowKind Profile where
  table := "profiles"
  columns := [("user_id", .int), ("date_of_birth", .optional .text),
    ("referral_code", .optional .text), ("wallet_points", .int), ("created_at", .time),
    ("updated_at", .time)]
  ofCells?
    | [.int user, birth, referral, .int points, .time created, .time updated] =>
      some ⟨user, birth.text?, referral.text?, points, created, updated⟩
    | _ => none
  missing := .noProfile

def containers : RowKind Container where
  table := "containers"
  columns := [("id", .int), ("uid", .uid), ("code", .text), ("description", .optional .text),
    ("is_archived", .bool), ("organization_id", .optional .int), ("created_by_id", .int),
    ("created_at", .time), ("updated_at", .time)]
  ofCells?
    | [.int id, .uid uid, .text code, description, .bool archived, organization, .int author,
        .time created, .time updated] =>
      some ⟨id, uid, code, description.text?, archived, organization.int?, author, created, updated⟩
    | _ => none
  missing := .noContainer

def pallets : RowKind Pallet where
  table := "pallets"
  columns := [("id", .int), ("uid", .uid), ("code", .text), ("description", .optional .text),
    ("is_archived", .bool), ("organization_id", .optional .int), ("container_id", .optional .int),
    ("created_by_id", .int), ("created_at", .time), ("updated_at", .time)]
  ofCells?
    | [.int id, .uid uid, .text code, description, .bool archived, organization, container,
        .int author, .time created, .time updated] =>
      some ⟨id, uid, code, description.text?, archived, organization.int?, container.int?, author,
        created, updated⟩
    | _ => none
  missing := .noPallet

def sequence : RowKind Id where
  table := ""
  columns := [("nextval", .int)]
  ofCells?
    | [.int n] => some n
    | _ => none
  missing := DatabaseFault.noRow.toError

end Depot.Sql
