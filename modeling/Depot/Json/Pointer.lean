import Depot.Json

namespace Depot.Json

/-- The names of a pointer: what stands between its slashes, where `~1` is a slash and `~0` a
tilde. -/
def unescape : List Char → List Char
  | '~' :: '1' :: rest => '/' :: unescape rest
  | '~' :: '0' :: rest => '~' :: unescape rest
  | c :: rest => c :: unescape rest
  | [] => []

/-- An index has no sign and no leading zero. -/
def index? (cs : List Char) : Option Nat :=
  match cs with
  | ['0'] => some 0
  | '0' :: _ | [] => none
  | _ =>
    if cs.all Text.isDigit then
      some (cs.foldl (fun n c => n * 10 + (c.toNat - 48)) 0)
    else none

def step? (j : Json) (name : List Char) : Option Json :=
  match j with
  | .obj _ => j.get? (String.ofList name)
  | .arr items => (index? name).bind (items[·]?)
  | _ => none

/-- Follows the names between slashes; each call is at the character after a slash. -/
def follow (j : Json) (name : List Char) : List Char → Option Json
  | [] => j.step? (unescape name.reverse)
  | c :: rest =>
    if c = '/' then (j.step? (unescape name.reverse)).bind fun j => follow j [] rest
    else follow j (c :: name) rest

/-- The value that a pointer points at; the empty pointer points at the whole document. -/
def pointer? (j : Json) (pointer : String) : Option Json :=
  match pointer.toList with
  | [] => some j
  | '/' :: rest => follow j [] rest
  | _ => none

end Depot.Json
