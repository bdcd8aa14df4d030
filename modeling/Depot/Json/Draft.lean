import Depot.Json

namespace Depot.Json

open Text (isDigit digitsValue hexNumber?)

/-- A JSON value as far as its text makes sense. `unpaired` is a string with half a surrogate pair,
which is a mistake only for a reader who wants its text. An object or array whose text breaks off
ends in a `broken` member or item. -/
inductive Draft where
  | null
  | bool (b : Bool)
  | int (n : Int)
  | fraction (literal : String)
  | str (s : String)
  | unpaired
  | arr (items : List Draft)
  | obj (members : List (String × Draft))
  | broken
  deriving Repr, Inhabited

namespace Draft

def isSpace (c : Char) : Bool := c == ' ' || c == '\n' || c == '\t' || c == '\r'

def skip (cs : List Char) : List Char := cs.dropWhile isSpace

def hex4? : List Char → Option (Nat × List Char)
  | a :: b :: c :: d :: rest => (hexNumber? [a, b, c, d]).map (·, rest)
  | _ => none

def simpleEscape? (c : Char) : Option Char :=
  if c = '"' then some '"'
  else if c = '\\' then some '\\'
  else if c = '/' then some '/'
  else if c = 'b' then some (Char.ofNat 8)
  else if c = 'f' then some (Char.ofNat 12)
  else if c = 'n' then some '\n'
  else if c = 'r' then some '\r'
  else if c = 't' then some '\t'
  else none

/-- What stands between two quotes: text, or text with an unpaired surrogate, or no string at all. -/
inductive Quoted where
  | text (cs : List Char)
  | unpaired
  | broken

def Quoted.add (c : Char) : Quoted → Quoted
  | .text cs => .text (c :: cs)
  | q => q

def Quoted.spoil : Quoted → Quoted
  | .text _ => .unpaired
  | q => q

def quoted (fuel : Nat) (cs : List Char) : Quoted × List Char :=
  match fuel with
  | 0 => (.broken, [])
  | fuel + 1 =>
    match cs with
    | [] => (.broken, [])
    | '"' :: rest => (.text [], rest)
    | '\\' :: 'u' :: rest =>
      match hex4? rest with
      | none => (.broken, [])
      | some (high, rest) =>
        if 0xDC00 ≤ high && high ≤ 0xDFFF then
          let (q, rest) := quoted fuel rest
          (q.spoil, rest)
        else if 0xD800 ≤ high && high ≤ 0xDBFF then
          match rest with
          | '\\' :: 'u' :: after =>
            match hex4? after with
            | some (low, after) =>
              if 0xDC00 ≤ low && low ≤ 0xDFFF then
                let (q, rest) := quoted fuel after
                (q.add (Char.ofNat (0x10000 + (high - 0xD800) * 0x400 + (low - 0xDC00))), rest)
              else
                let (q, rest) := quoted fuel rest
                (q.spoil, rest)
            | none => (.broken, [])
          | _ =>
            let (q, rest) := quoted fuel rest
            (q.spoil, rest)
        else
          let (q, rest) := quoted fuel rest
          (q.add (Char.ofNat high), rest)
    | '\\' :: c :: rest =>
      match simpleEscape? c with
      | some c =>
        let (q, rest) := quoted fuel rest
        (q.add c, rest)
      | none => (.broken, [])
    | c :: rest =>
      if c.toNat < 32 then (.broken, [])
      else
        let (q, rest) := quoted fuel rest
        (q.add c, rest)

/-- The part of a number after its integer digits: a fraction, an exponent, both or neither, as
written; none when a digit is missing. -/
def fractionPart? (cs : List Char) : Option (List Char × List Char) :=
  let point : Option (List Char × List Char) :=
    match cs with
    | '.' :: rest =>
      let ds := rest.takeWhile isDigit
      if ds.isEmpty then none else some ('.' :: ds, rest.dropWhile isDigit)
    | _ => some ([], cs)
  point.bind fun (p, rest) =>
    match rest with
    | e :: after =>
      if e = 'e' || e = 'E' then
        let (sign, after) :=
          match after with
          | '+' :: r => (['+'], r)
          | '-' :: r => (['-'], r)
          | _ => ([], after)
        let ds := after.takeWhile isDigit
        if ds.isEmpty then none else some (p ++ e :: sign ++ ds, after.dropWhile isDigit)
      else some (p, rest)
    | [] => some (p, rest)

/-- An integer is one that fits 64 bits, with or without a sign; minus zero, wider integers and
fractions are kept as written. -/
def numberOf (negative : Bool) (digits tail : List Char) : Draft :=
  let value := digitsValue digits
  let literal := String.ofList ((if negative then ['-'] else []) ++ digits ++ tail)
  if !tail.isEmpty then .fraction literal
  else if negative then
    if value = 0 || 0x8000000000000000 < value then .fraction literal else .int (-(value : Int))
  else if value < 0x10000000000000000 then .int value
  else .fraction literal

def number (negative : Bool) (cs : List Char) : Draft × List Char :=
  let digits := cs.takeWhile isDigit
  match digits with
  | [] => (.broken, [])
  | '0' :: _ :: _ => (.broken, [])
  | _ =>
    match fractionPart? (cs.dropWhile isDigit) with
    | none => (.broken, [])
    | some (tail, rest) => (numberOf negative digits tail, rest)

def isBroken : Draft → Bool
  | .broken => true
  | .arr items => brokenEnd items
  | .obj members => brokenMember members
  | _ => false
where
  brokenEnd : List Draft → Bool
    | [] => false
    | [x] => x.isBroken
    | _ :: y :: rest => brokenEnd (y :: rest)
  brokenMember : List (String × Draft) → Bool
    | [] => false
    | [(_, x)] => x.isBroken
    | _ :: y :: rest => brokenMember (y :: rest)

mutual

/-- Reads one value; `fuel` bounds the work and is taken from the length of the text. -/
def value (fuel : Nat) (cs : List Char) : Draft × List Char :=
  match fuel with
  | 0 => (.broken, [])
  | fuel + 1 =>
    match skip cs with
    | 'n' :: 'u' :: 'l' :: 'l' :: rest => (.null, rest)
    | 't' :: 'r' :: 'u' :: 'e' :: rest => (.bool true, rest)
    | 'f' :: 'a' :: 'l' :: 's' :: 'e' :: rest => (.bool false, rest)
    | '"' :: rest =>
      match quoted (rest.length + 1) rest with
      | (.text s, rest) => (.str (String.ofList s), rest)
      | (.unpaired, rest) => (.unpaired, rest)
      | (.broken, _) => (.broken, [])
    | '-' :: rest => number true rest
    | '[' :: rest =>
      match skip rest with
      | ']' :: rest => (.arr [], rest)
      | rest =>
        let (items, rest) := values fuel rest
        (.arr items, rest)
    | '{' :: rest =>
      match skip rest with
      | '}' :: rest => (.obj [], rest)
      | rest =>
        let (members, rest) := members fuel rest
        (.obj members, rest)
    | c :: rest => if isDigit c then number false (c :: rest) else (.broken, [])
    | [] => (.broken, [])

def values (fuel : Nat) (cs : List Char) : List Draft × List Char :=
  match fuel with
  | 0 => ([.broken], [])
  | fuel + 1 =>
    let (x, rest) := value fuel cs
    if x.isBroken then ([x], [])
    else match skip rest with
      | ',' :: rest =>
        let (xs, rest) := values fuel rest
        (x :: xs, rest)
      | ']' :: rest => ([x], rest)
      | _ => ([x, .broken], [])

def members (fuel : Nat) (cs : List Char) : List (String × Draft) × List Char :=
  match fuel with
  | 0 => ([("", .broken)], [])
  | fuel + 1 =>
    match skip cs with
    | '"' :: rest =>
      match quoted (rest.length + 1) rest with
      | (.text name, rest) =>
        match skip rest with
        | ':' :: rest =>
          let name := String.ofList name
          let (x, rest) := value fuel rest
          if x.isBroken then ([(name, x)], [])
          else match skip rest with
            | ',' :: rest =>
              let (ms, rest) := members fuel rest
              ((name, x) :: ms, rest)
            | '}' :: rest => ([(name, x)], rest)
            | _ => ([(name, x), ("", .broken)], [])
        | _ => ([("", .broken)], [])
      | _ => ([("", .broken)], [])
    | _ => ([("", .broken)], [])

end

/-- Reads a text and says whether anything but white space follows the value. -/
def read (cs : List Char) : Draft × Bool :=
  let (d, rest) := value (2 * cs.length + 2) cs
  (d, !(skip rest).isEmpty)

mutual

def toJson? : Draft → Option Json
  | .null => some .null
  | .bool b => some (.bool b)
  | .int n => some (.int n)
  | .fraction literal => some (.fraction literal)
  | .str s => some (.str s)
  | .unpaired => none
  | .arr items => (items? items).map .arr
  | .obj ms => (members? ms).map .obj
  | .broken => none

def items? : List Draft → Option (List Json)
  | [] => some []
  | x :: rest => do
    let x ← x.toJson?
    let rest ← items? rest
    some (x :: rest)

def members? : List (String × Draft) → Option (List (String × Json))
  | [] => some []
  | (k, x) :: rest => do
    let x ← x.toJson?
    let rest ← members? rest
    some ((k, x) :: rest)

end

mutual

def ofJson : Json → Draft
  | .null => .null
  | .bool b => .bool b
  | .int n => .int n
  | .fraction literal => .fraction literal
  | .str s => .str s
  | .arr items => .arr (ofItems items)
  | .obj ms => .obj (ofMembers ms)

def ofItems : List Json → List Draft
  | [] => []
  | x :: rest => ofJson x :: ofItems rest

def ofMembers : List (String × Json) → List (String × Draft)
  | [] => []
  | (k, x) :: rest => (k, ofJson x) :: ofMembers rest

end

end Draft

def parse? (s : String) : Option Json :=
  match Draft.read s.toList with
  | (_, true) => none
  | (d, false) => d.toJson?

end Depot.Json
