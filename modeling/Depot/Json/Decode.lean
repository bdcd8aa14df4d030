import Depot.Json.Draft
import Depot.Text.Integer

namespace Depot.Json

open Text

/-- `malformed` text is no JSON; text that does not `fit` is JSON of another shape. -/
inductive Mistake where
  | malformed
  | unfit
  deriving Repr, DecidableEq, Inhabited

inductive FieldType where
  | text
  | bool
  | int64
  | nat64
  | optional (t : FieldType)
  deriving Repr, DecidableEq, Inhabited

abbrev Fields := List (String × FieldType)

namespace FieldType

def isOptional : FieldType → Bool
  | .optional _ => true
  | _ => false

def read : FieldType → Draft → Except Mistake Json
  | _, .broken | _, .unpaired => .error .malformed
  | .optional _, .null => .ok .null
  | .optional t, d => t.read d
  | .text, .str s => .ok (.str s)
  | .bool, .bool b => .ok (.bool b)
  | .int64, .int n => if IntegerRange.signed64.contains n then .ok (.int n) else .error .unfit
  | .nat64, .int n => if IntegerRange.natural64.contains n then .ok (.int n) else .error .unfit
  | _, _ => .error .unfit

end FieldType

/-- Reads the members that the record knows, each at most once, in the order of the text. -/
def readMembers (fields : Fields) (seen : List (String × Json)) :
    List (String × Draft) → Except Mistake (List (String × Json))
  | [] => .ok seen
  | (name, d) :: rest =>
    match fields.find? (·.1 == name) with
    | none => if d.isBroken then .error .malformed else readMembers fields seen rest
    | some (_, t) =>
      if seen.any (·.1 == name) then .error .unfit
      else match t.read d with
        | .error e => .error e
        | .ok v => readMembers fields ((name, v) :: seen) rest

/-- The value of each field; a missing one is null if it may be. -/
def collect (seen : List (String × Json)) : Fields → Except Mistake (List Json)
  | [] => .ok []
  | (name, t) :: rest =>
    match seen.find? (·.1 == name) with
    | some (_, v) => (collect seen rest).map (v :: ·)
    | none => if t.isOptional then (collect seen rest).map (.null :: ·) else .error .unfit

def readItems : Fields → List Draft → Except Mistake (List Json)
  | [], [] => .ok []
  | [], _ :: _ => .error .malformed
  | _ :: _, [] => .error .unfit
  | (_, t) :: fields, d :: rest =>
    match t.read d with
    | .error e => .error e
    | .ok v => (readItems fields rest).map (v :: ·)

def decode (fields : Fields) : Draft → Except Mistake (List Json)
  | .obj members => do
    let seen ← readMembers fields [] members
    collect seen fields
  | .arr items => readItems fields items
  | .broken | .unpaired => .error .malformed
  | _ => .error .unfit

def decodeText (fields : Fields) (text : String) : Except Mistake (List Json) :=
  let (d, rest) := Draft.read text.toList
  match decode fields d with
  | .error e => .error e
  | .ok values => if rest then .error .malformed else .ok values

def int? : Json → Option Int
  | .int n => some n
  | _ => none

def str? : Json → Option String
  | .str s => some s
  | _ => none

def bool? : Json → Option Bool
  | .bool b => some b
  | _ => none

end Depot.Json
