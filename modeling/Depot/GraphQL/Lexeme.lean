import Depot.Json.Draft

namespace Depot.GraphQL

inductive Lexeme where
  | name (s : String)
  | int (n : Int)
  | fraction (literal : String)
  | text (s : String)
  | sign (c : Char)
  deriving Repr, DecidableEq, Inhabited

namespace Lexeme

def isLetter (c : Char) : Bool := ('a' ≤ c && c ≤ 'z') || ('A' ≤ c && c ≤ 'Z') || c == '_'

def isNameChar (c : Char) : Bool := isLetter c || Text.isDigit c

def isGap (c : Char) : Bool :=
  c == ' ' || c == '\t' || c == '\n' || c == '\r' || c == ',' || c.toNat == 0xFEFF

def isLineEnd (c : Char) : Bool := c == '\n' || c == '\r'

def isSign (c : Char) : Bool := "!$&()[]\x7b\x7d:=@|.".toList.contains c

def quoted : List Char → Option (List Char × List Char)
  | [] => none
  | '"' :: rest => some ([], rest)
  | '\\' :: 'u' :: a :: b :: c :: d :: rest => do
    let (n, _) ← Json.Draft.hex4? [a, b, c, d]
    if n.isValidChar then
      let (cs, rest) ← quoted rest
      some (Char.ofNat n :: cs, rest)
    else none
  | '\\' :: c :: rest => do
    let c ← Json.Draft.simpleEscape? c
    let (cs, rest) ← quoted rest
    some (c :: cs, rest)
  | c :: rest => do
    if isLineEnd c then none
    else
      let (cs, rest) ← quoted rest
      some (c :: cs, rest)

/-- Reads a number, which must not run into a name or a point. -/
def number (negative : Bool) (cs : List Char) : Option (Lexeme × List Char) := do
  let digits := cs.takeWhile Text.isDigit
  let after := cs.dropWhile Text.isDigit
  let (tail, rest) ← Json.Draft.fractionPart? after
  if digits.isEmpty || (digits.length > 1 && digits.head? == some '0') ||
      rest.head?.any (fun c => isNameChar c || c == '.') then none
  else if tail.isEmpty then
    let n : Int := Text.digitsValue digits
    some (.int (if negative then -n else n), rest)
  else
    some (.fraction (String.ofList ((if negative then ['-'] else []) ++ digits ++ tail)), rest)

/-- The words of a text; `fuel` is at least the number of its characters. -/
def read (fuel : Nat) (cs : List Char) : Option (List Lexeme) :=
  match fuel, cs with
  | _, [] => some []
  | 0, _ => none
  | fuel + 1, c :: rest =>
    if isGap c then read fuel rest
    else if c = '#' then read fuel (rest.dropWhile fun c => !isLineEnd c)
    else if isLetter c then
      (read fuel (rest.dropWhile isNameChar)).map
        (.name (String.ofList (c :: rest.takeWhile isNameChar)) :: ·)
    else if c = '"' then do
      let (s, rest) ← quoted rest
      (read fuel rest).map (.text (String.ofList s) :: ·)
    else if c = '-' then do
      let (n, rest) ← number true rest
      (read fuel rest).map (n :: ·)
    else if Text.isDigit c then do
      let (n, rest) ← number false (c :: rest)
      (read fuel rest).map (n :: ·)
    else if isSign c then (read fuel rest).map (.sign c :: ·)
    else none

/-- The words of a text, unless something in it is none. -/
def ofText? (s : String) : Option (List Lexeme) := read s.length s.toList

end Lexeme

end Depot.GraphQL
