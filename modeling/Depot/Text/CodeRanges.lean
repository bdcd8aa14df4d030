import Depot.Text.Digit
import Depot.Text.Pieces

namespace Depot.Text

def inRanges (ranges : List (Nat × Nat)) (c : Char) : Bool :=
  ranges.any fun r => r.1 ≤ c.toNat && c.toNat ≤ r.2

def code (cs : List Char) : Nat := (hexNumber? cs).getD 0

/-- A range is written by its ends in hexadecimal with a hyphen between them, or by its only code. -/
def codeRange (cs : List Char) : Nat × Nat :=
  match pieces (· == '-') cs with
  | [first, last] => (code first, code last)
  | _ => (code cs, code cs)

def codeRanges (text : String) : List (Nat × Nat) := (words text).map codeRange

end Depot.Text
