import Depot.Text.Digit
import Depot.Text.Domain

namespace Depot.Text

/-- A letter of the ASCII alphabet, or one of the two letters outside it that fold into it: the long
s and the kelvin sign. -/
def isFoldedLetter (c : Char) : Bool :=
  ('a' ≤ c && c ≤ 'z') || ('A' ≤ c && c ≤ 'Z') || c.toNat == 0x17F || c.toNat == 0x212A

def isAlphanumeric (c : Char) : Bool := isFoldedLetter c || isDigit c

def isLocalChar (c : Char) : Bool :=
  isAlphanumeric c || ".!#$%&'*+/=?^_`\x7b|\x7d~-".toList.contains c

/-- One to 63 letters, digits and hyphens, with no hyphen at either end. -/
def isLabel (cs : List Char) : Bool :=
  match cs, cs.getLast? with
  | first :: _, some last =>
    cs.length ≤ 63 && isAlphanumeric first && isAlphanumeric last &&
      cs.all (fun c => isAlphanumeric c || c == '-')
  | _, _ => false

def isDomainName (cs : List Char) : Bool := (pieces (· == '.') cs).all isLabel

def octet? (cs : List Char) : Option (List Char) :=
  let ds := cs.takeWhile isDigit
  match ds with
  | [] => none
  | '0' :: _ :: _ => none
  | _ => if ds.length ≤ 3 && digitsValue ds ≤ 255 then some (cs.dropWhile isDigit) else none

def char? (expected : Char) : List Char → Option (List Char)
  | [] => none
  | c :: rest => if c = expected then some rest else none

def ipv4? (cs : List Char) : Option (List Char) := do
  let cs ← octet? cs
  let cs ← (char? '.' cs).bind octet?
  let cs ← (char? '.' cs).bind octet?
  (char? '.' cs).bind octet?

def group? (cs : List Char) : Option (List Char) :=
  let n := (cs.takeWhile (hexValue? · |>.isSome)).length
  if 1 ≤ n && n ≤ 4 then some (cs.drop n) else none

/-- Reads up to `limit` groups with colons between them, where a dotted address may stand for the
last two. Gives back how many were read, whether a dotted address was, and the rest. -/
def groups (first : Bool) (limit : Nat) (cs : List Char) : Nat × Bool × List Char :=
  match limit with
  | 0 => (0, false, cs)
  | limit + 1 =>
    let start := if first then some cs else char? ':' cs
    match (if 1 ≤ limit then start.bind ipv4? else none) with
    | some rest => (2, true, rest)
    | none =>
      match start.bind group? with
      | none => (0, false, cs)
      | some rest =>
        let (n, dotted, rest) := groups false limit rest
        (n + 1, dotted, rest)

/-- Eight groups, or fewer around one double colon. -/
def ipv6? (cs : List Char) : Option (List Char) :=
  let (n, dotted, rest) := groups true 8 cs
  if n = 8 then some rest
  else if dotted then none
  else ((char? ':' rest).bind (char? ':')).map fun rest => (groups true (7 - n) rest).2.2

def isIpAddress (cs : List Char) : Bool := ipv4? cs == some [] || ipv6? cs == some []

def endsInAddressLiteral (cs : List Char) : Bool :=
  match cs.reverse with
  | ']' :: rest =>
    let inside := (rest.takeWhile (· != '[')).reverse
    rest.contains '[' && isIpAddress inside
  | _ => false

def isMailDomain (cs : List Char) : Bool := isDomainName cs || endsInAddressLiteral cs

def splitAddress? (cs : List Char) : Option (List Char × List Char) :=
  if cs.contains '@' then
    let r := cs.reverse
    some (((r.dropWhile (· != '@')).drop 1).reverse, (r.takeWhile (· != '@')).reverse)
  else none

def isEmailAddress (s : String) : Bool :=
  match splitAddress? s.toList with
  | none => false
  | some (user, domain) =>
    user.length ≤ 64 && domain.length ≤ 255 && !user.isEmpty && user.all isLocalChar &&
      (isMailDomain domain || (domainToAscii? domain).any isMailDomain)

end Depot.Text
