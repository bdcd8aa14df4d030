import Depot.GraphQL.Request
import Depot.GraphQL.RootField

namespace Depot.Operation.RowType

def name : RowType → String
  | .organization => "Organization"
  | .role => "Role"
  | .user => "User"
  | .profile => "Profile"
  | .container => "Container"
  | .pallet => "Pallet"

def scalars : RowType → List String
  | .organization => ["id", "code", "name", "website", "isArchived", "createdAt", "updatedAt"]
  | .role =>
    ["id", "code", "name", "permissions", "isOrgAdmin", "isArchived", "organizationId", "createdAt",
      "updatedAt"]
  | .user =>
    ["id", "firstName", "lastName", "email", "phone", "isAdmin", "isMember", "isCustomer",
      "organizationId", "roleId", "createdAt", "updatedAt", "userType"]
  | .profile => ["userId", "dateOfBirth", "referralCode", "walletPoints", "createdAt", "updatedAt"]
  | .container =>
    ["id", "uid", "code", "description", "isArchived", "organizationId", "createdById", "createdAt",
      "updatedAt"]
  | .pallet =>
    ["id", "uid", "code", "description", "isArchived", "organizationId", "containerId",
      "createdById", "createdAt", "updatedAt"]

def relations : RowType → List (String × RowType)
  | .organization => []
  | .role => [("organization", .organization)]
  | .user => [("organization", .organization), ("role", .role), ("profile", .profile)]
  | .profile => []
  | .container => [("createdBy", .user), ("organization", .organization), ("pallets", .pallet)]
  | .pallet => [("createdBy", .user), ("container", .container), ("organization", .organization)]

def listName : RowType → String
  | .organization => "organizations"
  | .role => "roles"
  | .user => "users"
  | .profile => "profiles"
  | .container => "containers"
  | .pallet => "pallets"

end Depot.Operation.RowType

namespace Depot.GraphQL

open Operation

inductive ResultType where
  | scalar
  | row (t : RowType)
  | page (t : RowType)
  deriving Repr, DecidableEq, Inhabited

/-- A root field: `build` fails where an argument that looked right cannot be read. -/
structure RootSpec (α : Type) where
  name : String
  args : ArgsSpec
  result : ResultType
  build : Args → Except Unit α

def RootSpec.map {α β : Type} (f : α → β) (s : RootSpec α) : RootSpec β :=
  ⟨s.name, s.args, s.result, fun a => (s.build a).map f⟩

def opt (name : String) (type : ArgType) : ArgSpec := ⟨name, type, .optional⟩

def req (name : String) (type : ArgType) : ArgSpec := ⟨name, type, .required⟩

def dflt (name : String) (type : ArgType) : ArgSpec := ⟨name, type, .defaulted⟩

/-- The id goes before the other key. -/
def finder (a : Args) (other : Option Finder) : Finder :=
  match a.int? "id" with
  | some id => .id id
  | none => other.getD .missing

def codeFinder (a : Args) : Finder := finder a ((a.text? "code").map .code)

def uidFinder (a : Args) : Except Unit Finder := do
  let uid ← a.uid "uid"
  pure (finder a (match uid with
    | some u => some (.uid u)
    | none => (a.text? "code").map .code))

def userFinder (a : Args) : Finder :=
  finder a (match a.text? "email" with
    | some e => some (.email e)
    | none => (a.text? "phone").map .phone)

def codeArgs : ArgsSpec := .plain [opt "id" .int, opt "code" .text]

def uidArgs : ArgsSpec := .plain [opt "id" .int, opt "uid" .uid, opt "code" .text]

def idArg : ArgsSpec := .plain [req "id" .int]

def catalogField : RootSpec RootField :=
  ⟨"permissions", .plain [], .scalar, fun _ => .ok .permissions⟩

def queryJobs : List (RootSpec Job) :=
  [⟨"organizations", .plain [], .page .organization, fun _ => .ok .organizations⟩,
    ⟨"organization", codeArgs, .row .organization, fun a => .ok (.organization (codeFinder a))⟩,
    ⟨"roles", .plain [opt "organizationId" .int], .page .role,
      fun a => .ok (.roles (a.int? "organizationId"))⟩,
    ⟨"role", codeArgs, .row .role, fun a => .ok (.role (codeFinder a))⟩,
    ⟨"users", .plain [opt "isAdmin" .bool, opt "isMember" .bool, opt "isCustomer" .bool,
        opt "organizationId" .int], .page .user,
      fun a => .ok (.users ⟨a.flag "isAdmin", a.flag "isMember", a.flag "isCustomer"⟩
        (a.int? "organizationId"))⟩,
    ⟨"user", .plain [opt "id" .int, opt "email" .text, opt "phone" .text], .row .user,
      fun a => .ok (.user (userFinder a))⟩,
    ⟨"me", .plain [], .row .user, fun _ => .ok .me⟩,
    ⟨"profile", .plain [], .row .profile, fun _ => .ok .profile⟩,
    ⟨"containers", .plain [], .page .container, fun _ => .ok .containers⟩,
    ⟨"container", uidArgs, .row .container, fun a => (uidFinder a).map .container⟩,
    ⟨"pallets", .plain [opt "containerId" .int], .page .pallet,
      fun a => .ok (.pallets (a.int? "containerId"))⟩,
    ⟨"pallet", uidArgs, .row .pallet, fun a => (uidFinder a).map .pallet⟩]

def mutationJobs : List (RootSpec Job) :=
  [⟨"organizationUpdate", .input [req "id" .int, req "name" .text, opt "website" .text],
      .row .organization,
      fun a => .ok (.organizationUpdate (a.int "id") (a.text "name") (a.text? "website"))⟩,
    ⟨"organizationArchive", idArg, .row .organization,
      fun a => .ok (.organizationArchive (a.int "id") true)⟩,
    ⟨"organizationUnarchive", idArg, .row .organization,
      fun a => .ok (.organizationArchive (a.int "id") false)⟩,
    ⟨"organizationDelete", idArg, .scalar, fun a => .ok (.organizationDelete (a.int "id"))⟩,
    ⟨"roleCreate", .input [req "name" .text, req "permissions" .texts, dflt "isOrgAdmin" .bool,
        opt "organizationId" .int], .row .role,
      fun a => .ok (.roleCreate ⟨a.text "name", a.texts "permissions", a.flag "isOrgAdmin",
        a.int? "organizationId"⟩)⟩,
    ⟨"roleUpdate", .input [req "id" .int, req "name" .text, req "permissions" .texts,
        dflt "isArchived" .bool], .row .role,
      fun a => .ok (.roleUpdate ⟨a.int "id", a.text "name", a.texts "permissions",
        a.flag "isArchived"⟩)⟩,
    ⟨"roleDelete", idArg, .scalar, fun a => .ok (.roleDelete (a.int "id"))⟩,
    ⟨"userUpdate", .input [req "id" .int, opt "firstName" .text, opt "lastName" .text,
        opt "email" .text, opt "phone" .text], .row .user,
      fun a => .ok (.userUpdate (a.int "id") ⟨a.text? "firstName", a.text? "lastName",
        a.text? "email", a.text? "phone"⟩)⟩,
    ⟨"userDelete", idArg, .scalar, fun a => .ok (.userDelete (a.int "id"))⟩,
    ⟨"changePassword", .plain [req "oldPassword" .text, req "password" .text], .scalar,
      fun a => .ok (.changePassword (a.text "oldPassword") (a.text "password"))⟩,
    ⟨"containerCreate", .input [opt "description" .text, opt "organizationId" .int],
      .row .container,
      fun a => .ok (.containerCreate ⟨a.text? "description", a.int? "organizationId"⟩)⟩,
    ⟨"containerUpdate", .input [req "id" .int, opt "description" .text], .row .container,
      fun a => .ok (.containerUpdate (a.int "id") (a.text? "description"))⟩,
    ⟨"containerArchive", idArg, .row .container,
      fun a => .ok (.containerArchive (a.int "id") true)⟩,
    ⟨"containerUnarchive", idArg, .row .container,
      fun a => .ok (.containerArchive (a.int "id") false)⟩,
    ⟨"containerDelete", idArg, .scalar, fun a => .ok (.containerDelete (a.int "id"))⟩,
    ⟨"palletCreate", .input [opt "description" .text, opt "organizationId" .int,
        opt "containerId" .int], .row .pallet,
      fun a => .ok (.palletCreate ⟨a.text? "description", a.int? "organizationId",
        a.int? "containerId"⟩)⟩,
    ⟨"palletUpdate", .input [req "id" .int, opt "description" .text, opt "containerId" .int],
      .row .pallet,
      fun a => .ok (.palletUpdate ⟨a.int "id", a.text? "description", a.int? "containerId"⟩)⟩,
    ⟨"palletArchive", idArg, .row .pallet, fun a => .ok (.palletArchive (a.int "id") true)⟩,
    ⟨"palletUnarchive", idArg, .row .pallet, fun a => .ok (.palletArchive (a.int "id") false)⟩,
    ⟨"palletDelete", idArg, .scalar, fun a => .ok (.palletDelete (a.int "id"))⟩]

def RootType.fields : RootType → List (RootSpec RootField)
  | .query => catalogField :: queryJobs.map (·.map .job)
  | .mutation => mutationJobs.map (·.map .job)

def RootType.field? (t : RootType) (name : String) : Option (RootSpec RootField) :=
  t.fields.find? (·.name == name)

def RootType.name : RootType → String
  | .query => "QueryRoot"
  | .mutation => "MutationRoot"

def typeField : String := "__typename"

/-- Two fields under one key must be the same field with the same arguments. -/
def agree (a b : Selection) : Bool :=
  a.key != b.key || (a.name == b.name && a.args.length == b.args.length &&
    a.args.all fun x => b.args.any fun y => y.1 == x.1 && y.2.text == x.2.text)

def noConflict : List Selection → Bool
  | [] => true
  | s :: rest => rest.all (agree s) && noConflict rest

def isLeaf : Selection → Bool
  | .field _ _ args select => args.isEmpty && select.isEmpty

mutual

/-- Whether a field of a row exists, takes no arguments, and has subfields exactly where it leads to
other rows. -/
def fitsRowField (t : RowType) : Selection → Bool
  | .field name _ args select =>
    args.isEmpty &&
      if name == typeField || t.scalars.contains name then select.isEmpty
      else match t.relations.find? (·.1 == name) with
        | some (_, target) => !select.isEmpty && noConflict select && fitsRow target select
        | none => false

def fitsRow (t : RowType) : List Selection → Bool
  | [] => true
  | s :: rest => fitsRowField t s && fitsRow t rest

end

def fitsPageField (t : RowType) : Selection → Bool
  | .field name _ args select =>
    args.isEmpty &&
      if name == typeField || name == "total" then select.isEmpty
      else name == t.listName && !select.isEmpty && noConflict select && fitsRow t select

def fitsResult (r : ResultType) (select : List Selection) : Bool :=
  match r with
  | .scalar => select.isEmpty
  | .row t => !select.isEmpty && noConflict select && fitsRow t select
  | .page t => !select.isEmpty && noConflict select && select.all (fitsPageField t)

def fitsRootField (t : RootType) (s : Selection) : Bool :=
  if s.name == typeField then isLeaf s
  else match t.field? s.name with
    | some spec => (spec.args.read? s.args).isSome && fitsResult spec.result s.select
    | none => false

def Request.fits (r : Request) : Bool :=
  !r.fields.isEmpty && noConflict r.fields && r.fields.all (fitsRootField r.root)

end Depot.GraphQL
