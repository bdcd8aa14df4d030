import Depot.Json.Decode

namespace Depot.Json

def member (j : Json) (name : String) : Json := (j.get? name).getD .null

def intAt? (j : Json) (name : String) : Option Int := (j.member name).int?

def intAt (j : Json) (name : String) : Int := (j.intAt? name).getD 0

def natAt? (j : Json) (name : String) : Option Nat := (j.intAt? name).map Int.toNat

def natAt (j : Json) (name : String) : Nat := (j.natAt? name).getD 0

def textAt? (j : Json) (name : String) : Option String := (j.member name).str?

def textAt (j : Json) (name : String) : String := (j.textAt? name).getD ""

def flagAt (j : Json) (name : String) : Bool := (j.member name).bool?.getD false

def isText (j : Json) : Bool := j.str?.isSome

def isObject : Json → Bool
  | .obj _ => true
  | _ => false

def items : Json → List Json
  | .arr items => items
  | _ => []

def members : Json → List (String × Json)
  | .obj members => members
  | _ => []

def itemsAt (j : Json) (name : String) : List Json := (j.member name).items

def textsAt (j : Json) (name : String) : List String := (j.itemsAt name).filterMap str?

def intsAt (j : Json) (name : String) : List Int := (j.itemsAt name).filterMap int?

def sortedKeys (j : Json) : List String := (j.members.map (·.1)).mergeSort fun a b => !(b < a)

end Depot.Json
