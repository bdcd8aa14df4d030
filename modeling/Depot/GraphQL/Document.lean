import Depot.GraphQL.Lexeme
import Depot.GraphQL.Request

namespace Depot.GraphQL

abbrev Variables := List (String × Option Json)

namespace Reading

mutual

def value (vars : Variables) (fuel : Nat) (ls : List Lexeme) : Option (Json × List Lexeme) :=
  match fuel with
  | 0 => none
  | fuel + 1 =>
    match ls with
    | .int n :: rest => some (.int n, rest)
    | .fraction literal :: rest => some (.fraction literal, rest)
    | .text s :: rest => some (.str s, rest)
    | .name "true" :: rest => some (.bool true, rest)
    | .name "false" :: rest => some (.bool false, rest)
    | .name "null" :: rest => some (.null, rest)
    | .sign '$' :: .name x :: rest =>
      (vars.find? (·.1 == x)).map fun v => (v.2.getD .null, rest)
    | .sign '[' :: rest => (items vars fuel rest).map fun (xs, rest) => (.arr xs, rest)
    | .sign '\x7b' :: rest => (members vars '\x7d' fuel rest).map fun (ms, rest) => (.obj ms, rest)
    | _ => none

def items (vars : Variables) (fuel : Nat) (ls : List Lexeme) : Option (List Json × List Lexeme) :=
  match fuel with
  | 0 => none
  | fuel + 1 =>
    match ls with
    | .sign ']' :: rest => some ([], rest)
    | ls => do
      let (x, rest) ← value vars fuel ls
      let (xs, rest) ← items vars fuel rest
      some (x :: xs, rest)

/-- Named values up to the closing sign. A variable without a value counts as left out. -/
def members (vars : Variables) (close : Char) (fuel : Nat) (ls : List Lexeme) :
    Option (List (String × Json) × List Lexeme) :=
  match fuel with
  | 0 => none
  | fuel + 1 =>
    match ls with
    | .sign c :: rest => if c = close then some ([], rest) else none
    | .name k :: .sign ':' :: .sign '$' :: .name x :: rest => do
      let (_, given) ← vars.find? (·.1 == x)
      let (ms, rest) ← members vars close fuel rest
      some ((given.map (k, ·)).toList ++ ms, rest)
    | .name k :: .sign ':' :: rest => do
      let (x, rest) ← value vars fuel rest
      let (ms, rest) ← members vars close fuel rest
      some ((k, x) :: ms, rest)
    | _ => none

end

/-- The arguments of a field, each given once; the brackets are left out if there are none. -/
def arguments (vars : Variables) (fuel : Nat) (ls : List Lexeme) :
    Option (List (String × Json) × List Lexeme) :=
  match ls with
  | .sign '(' :: .sign ')' :: _ => none
  | .sign '(' :: rest =>
    (members vars ')' fuel rest).filter fun (args, _) =>
      (args.map (·.1)).eraseDups.length == args.length
  | ls => some ([], ls)

def fieldName : List Lexeme → Option ((Option String × String) × List Lexeme)
  | .name label :: .sign ':' :: .name name :: rest => some ((some label, name), rest)
  | .name name :: rest => some ((none, name), rest)
  | _ => none

mutual

def selections (vars : Variables) (fuel : Nat) (ls : List Lexeme) :
    Option (List Selection × List Lexeme) :=
  match fuel with
  | 0 => none
  | fuel + 1 => do
    let (s, rest) ← selection vars fuel ls
    match rest with
    | .sign '\x7d' :: rest => some ([s], rest)
    | rest =>
      let (others, rest) ← selections vars fuel rest
      some (s :: others, rest)

def selection (vars : Variables) (fuel : Nat) (ls : List Lexeme) :
    Option (Selection × List Lexeme) :=
  match fuel with
  | 0 => none
  | fuel + 1 => do
    let ((label, name), rest) ← fieldName ls
    let (args, rest) ← arguments vars (fuel + 1) rest
    match rest with
    | .sign '\x7b' :: rest =>
      let (select, rest) ← selections vars fuel rest
      some (.field name label args select, rest)
    | rest => some (.field name label args [], rest)

end

/-- The type of a variable; the answer is whether it may be null. -/
def nullable (fuel : Nat) (ls : List Lexeme) : Option (Bool × List Lexeme) :=
  let mark (rest : List Lexeme) : Bool × List Lexeme :=
    match rest with
    | .sign '!' :: rest => (false, rest)
    | rest => (true, rest)
  match fuel, ls with
  | 0, _ => none
  | _, .name _ :: rest => some (mark rest)
  | fuel + 1, .sign '[' :: rest => do
    let (_, rest) ← nullable fuel rest
    match rest with
    | .sign ']' :: rest => some (mark rest)
    | _ => none
  | _, _ => none

/-- The variables that an operation declares, up to the closing bracket. A given value goes before
the default one, and one that may not be null must be there. -/
def declarations (given : Json) (fuel : Nat) (ls : List Lexeme) :
    Option (Variables × List Lexeme) :=
  match fuel with
  | 0 => none
  | fuel + 1 =>
    match ls with
    | .sign ')' :: rest => some ([], rest)
    | .sign '$' :: .name x :: .sign ':' :: rest => do
      let (mayBeNull, rest) ← nullable fuel rest
      let (default, rest) ←
        match rest with
        | .sign '=' :: rest => (value [] fuel rest).map fun (j, rest) => (some j, rest)
        | rest => some (none, rest)
      let (others, rest) ← declarations given fuel rest
      match given.get? x <|> default, mayBeNull with
      | none, false | some .null, false => none
      | v, _ => some ((x, v) :: others, rest)
    | _ => none

end Reading

structure NamedRequest where
  name : Option String
  request : Request

def RootType.ofKeyword? : String → Option RootType
  | "query" => some .query
  | "mutation" => some .mutation
  | _ => none

namespace Reading

def body (given : Json) (fuel : Nat) (root : RootType) (ls : List Lexeme) :
    Option (Request × List Lexeme) := do
  let (vars, rest) ←
    match ls with
    | .sign '(' :: rest => declarations given fuel rest
    | ls => some ([], ls)
  match rest with
  | .sign '\x7b' :: rest =>
    let (fields, rest) ← selections vars fuel rest
    some (⟨root, fields⟩, rest)
  | _ => none

/-- An operation; fields alone are a query. -/
def operation (given : Json) (fuel : Nat) (ls : List Lexeme) :
    Option (NamedRequest × List Lexeme) :=
  match ls with
  | .name keyword :: .name name :: rest => do
    let root ← RootType.ofKeyword? keyword
    let (r, rest) ← body given fuel root rest
    some (⟨some name, r⟩, rest)
  | .name keyword :: rest => do
    let root ← RootType.ofKeyword? keyword
    let (r, rest) ← body given fuel root rest
    some (⟨none, r⟩, rest)
  | ls => do
    let (r, rest) ← body given fuel .query ls
    some (⟨none, r⟩, rest)

def operations (given : Json) (fuel : Nat) (ls : List Lexeme) : Option (List NamedRequest) :=
  match fuel, ls with
  | _, [] => some []
  | 0, _ => none
  | fuel + 1, ls => do
    let (o, rest) ← operation given (2 * fuel + 2) ls
    (operations given fuel rest).map (o :: ·)

end Reading

/-- The operation of that name; without a name there must be only one. -/
def NamedRequest.choose? (name : Option String) (os : List NamedRequest) : Option NamedRequest :=
  match name, os with
  | none, [o] => some o
  | none, _ => none
  | some n, os => os.find? (·.name == some n)

def Request.ofText? (text : String) (given : Json) (operation : Option String) :
    Option Request := do
  let ls ← Lexeme.ofText? text
  let os ← Reading.operations given ls.length ls
  (NamedRequest.choose? operation os).map (·.request)

end Depot.GraphQL
