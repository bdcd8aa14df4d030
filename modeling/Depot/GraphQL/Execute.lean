import Depot.GraphQL.Fetch
import Depot.GraphQL.Schema

namespace Depot.Operation.Row

open Loader

def scalar (r : Row) (name : String) : Json :=
  match r, name with
  | .user u, "userType" => .str u.kindLabel
  | r, name => (r.toJson.get? name).getD .null

def ofEntity? : Entity → Option Row
  | .user u => some (.user u)
  | .profile p => some (.profile p)
  | .organization o => some (.organization o)
  | .role r => some (.role r)
  | .container c => some (.container c)
  | .pallets _ => none

def palletsOf : Option Entity → List Row
  | some (.pallets g) => g.pallets.map .pallet
  | _ => []

end Depot.Operation.Row

namespace Depot.GraphQL

open Loader Operation

inductive Step where
  | key (k : String)
  | index (i : Nat)
  deriving Repr, DecidableEq, Inhabited

/-- A failed field; the cause is missing where the request itself was at fault. -/
structure Failure where
  path : List Step
  cause : Option Error
  deriving Repr, DecidableEq, Inhabited

/-- A value, or none for a field that failed, with everything that failed in it. -/
structure Resolved where
  value : Option Json
  failures : List Failure

def Resolved.ofValue (j : Json) : Resolved := ⟨some j, []⟩

def Resolved.ofError (path : List Step) (cause : Option Error) : Resolved :=
  ⟨none, [⟨path, cause⟩]⟩

def alterMember (k : String) (new : Json) (change : Json → Json) :
    List (String × Json) → List (String × Json)
  | [] => [(k, new)]
  | (k', x) :: rest =>
    if k' == k then (k', change x) :: rest else (k', x) :: alterMember k new change rest

mutual

/-- Puts a second answer to a field into the first one: members are added, lists go item by item. -/
def merge (x : Json) : Json → Json
  | .obj ys => match x with
    | .obj xs => .obj (mergeMembers xs ys)
    | _ => x
  | .arr ys => match x with
    | .arr xs => .arr (mergeItems xs ys)
    | _ => x
  | _ => x

def mergeMembers (xs : List (String × Json)) : List (String × Json) → List (String × Json)
  | [] => xs
  | (k, y) :: ys => mergeMembers (alterMember k y (fun x => merge x y) xs) ys

def mergeItems (xs : List Json) : List Json → List Json
  | [] => xs
  | y :: ys => match xs with
    | [] => []
    | x :: xs => merge x y :: mergeItems xs ys

end

/-- The object of the fields that did not fail. -/
def assemble (fields : List (String × Resolved)) : Resolved :=
  let members := fields.filterMap fun (k, r) => r.value.map (k, ·)
  let merged := members.foldl (fun acc (k, j) => alterMember k j (fun x => merge x j) acc) []
  ⟨some (if merged.isEmpty then .null else .obj merged), fields.flatMap (·.2.failures)⟩

def Resolved.ofItems (items : List Resolved) : Resolved :=
  ⟨some (.arr (items.map fun r => r.value.getD .null)), items.flatMap (·.failures)⟩

/-- Where a field of a row leads: nowhere, to one row, or to a list. -/
inductive Link where
  | value
  | absent
  | one (ref : Ref) (view : Entity → Option Row)
  | many (ref : Ref) (view : Option Entity → List Row)

def Link.ofKey (name : Store.BatchName) : Option Id → Link
  | some key => .one ⟨name, key⟩ Row.ofEntity?
  | none => .absent

/-- Who made a row: a member sees only members of the own organization. -/
def creatorView (p : Principal) : Entity → Option Row
  | .user u =>
    if p.isAdmin || (u.isMember && u.organizationId == p.organization?) then some (.user u) else none
  | _ => none

def link (p : Principal) (r : Row) (name : String) : Link :=
  match r, name with
  | .role r, "organization" => .ofKey .organizations (some r.organizationId)
  | .user u, "organization" => .ofKey .organizations u.organizationId
  | .user u, "role" => .ofKey .roles u.roleId
  | .user u, "profile" => .ofKey .profiles (if u.isCustomer then some u.id else none)
  | .container c, "createdBy" => .one ⟨.users, c.createdById⟩ (creatorView p)
  | .container c, "organization" => .ofKey .organizations c.organizationId
  | .container c, "pallets" => .many ⟨.containerPallets, c.id⟩ Row.palletsOf
  | .pallet x, "createdBy" => .one ⟨.users, x.createdById⟩ (creatorView p)
  | .pallet x, "container" => .ofKey .containers x.containerId
  | .pallet x, "organization" => .ofKey .organizations x.organizationId
  | _, _ => .value

mutual

def resolveField (p : Principal) (path : List Step) (r : Row) :
    Selection → Fetch (String × Resolved)
  | .field name label _ select =>
    let key := label.getD name
    let here := path ++ [.key key]
    if name == typeField then .done (key, .ofValue (.str r.type.name))
    else match link p r name with
      | .value => .done (key, .ofValue (r.scalar name))
      | .absent => .done (key, .ofValue .null)
      | .one ref view => .one ref fun
        | .error e => .done (key, .ofError here (some e))
        | .ok found =>
          match found.bind view with
          | none => .done (key, .ofValue .null)
          | some row => (resolveFields p here row select).map fun fields => (key, assemble fields)
      | .many ref view => .one ref fun
        | .error e => .done (key, .ofError here (some e))
        | .ok found =>
          (Fetch.all ((view found).zipIdx.map fun (row, i) =>
            (resolveFields p (here ++ [.index i]) row select).map assemble)).map fun items =>
              (key, .ofItems items)

def resolveFields (p : Principal) (path : List Step) (r : Row) :
    List Selection → Fetch (List (String × Resolved))
  | [] => .done []
  | s :: rest => .both List.cons (resolveField p path r s) (resolveFields p path r rest)

end

def resolveRow (p : Principal) (path : List Step) (r : Row) (select : List Selection) :
    Fetch Resolved :=
  (resolveFields p path r select).map assemble

def resolvePageField (p : Principal) (path : List Step) (t : RowType) (rows : List Row)
    (s : Selection) : Fetch (String × Resolved) :=
  if s.name == typeField then .done (s.key, .ofValue (.str (t.name ++ "Result")))
  else if s.name == "total" then .done (s.key, .ofValue (.int rows.length))
  else
    (Fetch.all (rows.zipIdx.map fun (row, i) =>
      resolveRow p (path ++ [.key s.key, .index i]) row s.select)).map fun items =>
        (s.key, .ofItems items)

def resolveValue (p : Principal) (path : List Step) (select : List Selection) :
    Value → Fetch Resolved
  | .done => .done (.ofValue (.bool true))
  | .row r => resolveRow p path r select
  | .page t rows => (Fetch.all (select.map (resolvePageField p path t rows))).map assemble

def rootField? (t : RootType) (s : Selection) : Except Unit RootField := do
  let some spec := t.field? s.name | .error ()
  let some args := spec.args.read? s.args | .error ()
  spec.build args

/-- Performs an operation; what is left is the rows that its answer refers to. -/
def resolveJob (settings : Accounts.Settings) (p : Principal) (path : List Step)
    (select : List Selection) (j : Job) : Program (Fetch Resolved) := do
  match ← (execute settings p j).attempt with
  | .error e => pure (.done (.ofError path (some e)))
  | .ok v => pure (resolveValue p path select v)

/-- The answer to a root field. Operations are only for callers with credentials. -/
def resolveRoot (settings : Accounts.Settings) (caller : Option Principal) (t : RootType)
    (s : Selection) : Program (Fetch (String × Resolved)) :=
  let path := [Step.key s.key]
  let answer (r : Resolved) : Program (Fetch (String × Resolved)) := pure (.done (s.key, r))
  if s.name == typeField then answer (.ofValue (.str t.name))
  else match rootField? t s, caller with
    | .error _, _ => answer (.ofError path none)
    | .ok .permissions, _ => answer (.ofValue (Json.ofList .str Permission.names))
    | .ok (.job _), none => answer (.ofError path (some .noCredentials))
    | .ok (.job j), some p => do
      let fetch ← resolveJob settings p path s.select j
      pure (fetch.map fun r => (s.key, r))

def resolveQuery (settings : Accounts.Settings) (caller : Option Principal) :
    List Selection → Program (List (Fetch (String × Resolved)))
  | [] => pure []
  | s :: rest => do
    let f ← resolveRoot settings caller .query s
    let fs ← resolveQuery settings caller rest
    pure (f :: fs)

def runMutation (c : Loader.Config) (settings : Accounts.Settings) (caller : Option Principal)
    (l : Loaders) : List Selection → Program (List (String × Resolved))
  | [] => pure []
  | s :: rest => do
    let f ← resolveRoot settings caller .mutation s
    let (l, r) ← f.run c l
    let rs ← runMutation c settings caller l rest
    pure (r :: rs)

structure Response where
  data : Json
  failures : List Failure

def Response.refused : Response := ⟨.null, [⟨[], none⟩]⟩

def runFields (c : Loader.Config) (settings : Accounts.Settings) (caller : Option Principal) (r : Request) :
    Program (List (String × Resolved)) :=
  match r.root with
  | .query => do
    let waiting ← resolveQuery settings caller r.fields
    let (_, fields) ← (Fetch.all waiting).run c .empty
    pure fields
  | .mutation => runMutation c settings caller .empty r.fields

def answer (c : Loader.Config) (settings : Accounts.Settings) (caller : Option Principal) (r : Request) :
    Program Response := do
  if !r.fits then
    return .refused
  let whole := assemble (← runFields c settings caller r)
  pure ⟨whole.value.getD .null, whole.failures⟩

def Step.toJson : Step → Json
  | .key k => .str k
  | .index i => .int i

/-- The path is left out where the request failed as a whole. -/
def Failure.toJson (f : Failure) : Json :=
  let path := if f.path.isEmpty then [] else [("path", Json.ofList Step.toJson f.path)]
  match f.cause with
  | none => .obj (("message", .str "invalid request") :: path)
  | some e => .obj (("message", .str e.publicText) :: path ++ [("extensions", e.extensions)])

def Response.toJson (r : Response) : Json :=
  .obj (("data", r.data) ::
    if r.failures.isEmpty then [] else [("errors", Json.ofList Failure.toJson r.failures)])

end Depot.GraphQL
