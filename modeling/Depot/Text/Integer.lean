import Depot.Text.Digit

namespace Depot.Text

inductive IntegerFault where
  | empty
  | digit
  | tooLarge
  | tooSmall
  deriving Repr, DecidableEq, Inhabited

def IntegerFault.text : IntegerFault → String
  | .empty => "cannot parse integer from empty string"
  | .digit => "invalid digit found in string"
  | .tooLarge => "number too large to fit in target type"
  | .tooSmall => "number too small to fit in target type"

/-- The least and the greatest integer of a type. -/
structure IntegerRange where
  least : Int
  greatest : Int
  deriving Repr, DecidableEq, Inhabited

namespace IntegerRange

def signed64 : IntegerRange := ⟨-0x8000000000000000, 0x7FFFFFFFFFFFFFFF⟩

def natural64 : IntegerRange := ⟨0, 0xFFFFFFFFFFFFFFFF⟩

def natural32 : IntegerRange := ⟨0, 0xFFFFFFFF⟩

def contains (r : IntegerRange) (n : Int) : Bool := r.least ≤ n && n ≤ r.greatest

/-- Appends digits to a number; the first digit that leads out of the range, or that is none, ends
the reading. -/
def append (r : IntegerRange) (negative : Bool) (n : Int) : List Char → Except IntegerFault Int
  | [] => .ok n
  | c :: rest =>
    if isDigit c then
      let digit : Int := c.toNat - 48
      let next := if negative then n * 10 - digit else n * 10 + digit
      if next < r.least then .error .tooSmall
      else if r.greatest < next then .error .tooLarge
      else append r negative next rest
    else .error .digit

/-- A sign in front is one of the digits for a type that has none. -/
def read (r : IntegerRange) (s : String) : Except IntegerFault Int :=
  match s.toList with
  | [] => .error .empty
  | ['+'] | ['-'] => .error .digit
  | '+' :: digits => r.append false 0 digits
  | '-' :: digits => if r.least < 0 then r.append true 0 digits else .error .digit
  | digits => r.append false 0 digits

end IntegerRange

end Depot.Text
