import Depot.Json
import Depot.Principal
import Depot.Text.Integer
import Depot.Uid

namespace Depot.GraphQL

inductive Selection where
  | field (name : String) (label : Option String) (args : List (String × Json))
    (select : List Selection)
  deriving Inhabited

namespace Selection

def name : Selection → String
  | .field name _ _ _ => name

def args : Selection → List (String × Json)
  | .field _ _ args _ => args

def select : Selection → List Selection
  | .field _ _ _ select => select

/-- The name under which the field stands in the answer. -/
def key : Selection → String
  | .field name label _ _ => label.getD name

end Selection

inductive RootType where
  | query
  | mutation
  deriving Repr, DecidableEq, Inhabited

structure Request where
  root : RootType
  fields : List Selection

inductive ArgType where
  | int
  | text
  | bool
  | uid
  | texts
  deriving Repr, DecidableEq, Inhabited

/-- Whether an argument may be null or left out; one with a default may only be left out. -/
inductive Need where
  | optional
  | required
  | defaulted
  deriving Repr, DecidableEq, Inhabited

structure ArgSpec where
  name : String
  type : ArgType
  need : Need
  deriving Repr, DecidableEq, Inhabited

/-- The arguments of a field: listed one by one, or as the members of one object named `input`. -/
inductive ArgsSpec where
  | plain (args : List ArgSpec)
  | input (members : List ArgSpec)
  deriving Repr, DecidableEq, Inhabited

def isText : Json → Bool
  | .str _ => true
  | _ => false

/-- Literals of the type. A single text stands for a list of one; the text of an identifier is only
looked at when the field is resolved. -/
def ArgType.accepts : ArgType → Json → Bool
  | .int, .int n => Text.IntegerRange.signed64.contains n
  | .text, .str _ => true
  | .bool, .bool _ => true
  | .uid, _ => true
  | .texts, .arr items => items.all isText
  | .texts, .str _ => true
  | _, _ => false

def ArgSpec.accepts (a : ArgSpec) (given : Option Json) : Bool :=
  match given with
  | none => a.need != .required
  | some .null => a.need == .optional
  | some j => a.type.accepts j

/-- No unknown argument, each of its type, and the required ones there. Of several values for one name
the last one counts. -/
def acceptsAll (specs : List ArgSpec) (given : List (String × Json)) : Bool :=
  given.all (fun g => specs.any (·.name == g.1)) &&
    specs.all fun s => s.accepts (Json.get? s.name (.obj given))

def ArgsSpec.read? (spec : ArgsSpec) (given : List (String × Json)) : Option (List (String × Json)) :=
  match spec with
  | .plain args => if acceptsAll args given then some given else none
  | .input members =>
    match given with
    | [("input", .obj values)] => if acceptsAll members values then some values else none
    | _ => none

abbrev Args := List (String × Json)

namespace Args

def get (a : Args) (name : String) : Json := (Json.get? name (.obj a)).getD .null

def int? (a : Args) (name : String) : Option Int :=
  match a.get name with
  | .int n => some n
  | _ => none

def int (a : Args) (name : String) : Int := (a.int? name).getD 0

def text? (a : Args) (name : String) : Option String :=
  match a.get name with
  | .str s => some s
  | _ => none

def text (a : Args) (name : String) : String := (a.text? name).getD ""

def flag (a : Args) (name : String) : Bool :=
  match a.get name with
  | .bool b => b
  | _ => false

def texts (a : Args) (name : String) : List String :=
  match a.get name with
  | .arr items => items.filterMap fun
    | .str s => some s
    | _ => none
  | .str s => [s]
  | _ => []

/-- No identifier, one, or something that is none. -/
def uid (a : Args) (name : String) : Except Unit (Option Uid) :=
  match a.get name with
  | .null => .ok none
  | .str s =>
    match Uid.ofText? s with
    | some u => .ok (some u)
    | none => .error ()
  | _ => .error ()

end Args

end Depot.GraphQL
