namespace Depot.Text.Punycode

def digit (n : Nat) : Char := if n < 26 then Char.ofNat (97 + n) else Char.ofNat (22 + n)

def digitValue? (c : Char) : Option Nat :=
  if 'a' ≤ c && c ≤ 'z' then some (c.toNat - 97)
  else if '0' ≤ c && c ≤ '9' then some (c.toNat - 22)
  else none

/-- A digit below the threshold is the last one of its number. -/
def threshold (bias weight : Nat) : Nat := max 1 (min 26 (weight - bias))

theorem one_le_threshold (bias weight : Nat) : 1 ≤ threshold bias weight := by
  unfold threshold; omega

theorem threshold_le (bias weight : Nat) : threshold bias weight ≤ 26 := by
  unfold threshold; omega

def digits (bias weight n : Nat) : List Char :=
  let t := threshold bias weight
  if n < t then [digit n]
  else digit (t + (n - t) % (36 - t)) :: digits bias (weight + 36) ((n - t) / (36 - t))
termination_by n
decreasing_by
  have := one_le_threshold bias weight
  have := threshold_le bias weight
  have := Nat.div_le_self (n - threshold bias weight) (36 - threshold bias weight)
  omega

def scaled (bias n : Nat) : Nat :=
  if 455 < n then scaled (bias + 36) (n / 35) else bias + 36 * n / (n + 38)
termination_by n

/-- The bias after a number; the first one is large and counts less. -/
def adapt (isFirst : Bool) (n count : Nat) : Nat :=
  let part := if isFirst then n / 700 else n / 2
  scaled 0 (part + part / count)

/-- A character to put in, and how many characters of what is there stand before it. -/
structure Insertion where
  code : Nat
  place : Nat
  deriving Repr, DecidableEq, Inhabited

/-- The insertions for the characters that are not ASCII, after those in `before`. -/
def insertionsFrom (before : List Char) : List Char → List Insertion
  | [] => []
  | c :: rest =>
    let others := insertionsFrom (before ++ [c]) rest
    if c.toNat < 128 then others
    else ⟨c.toNat, before.countP (·.toNat ≤ c.toNat)⟩ :: others

def insertions (cs : List Char) : List Insertion :=
  (insertionsFrom [] cs).mergeSort fun a b => a.code ≤ b.code

/-- Where the insertions have come to: the next one may be of this code, at this place. -/
structure Progress where
  code : Nat
  place : Nat
  bias : Nat
  isFirst : Bool
  deriving Repr, DecidableEq, Inhabited

def start : Progress := ⟨128, 0, 72, true⟩

/-- Writes insertions into a text that has `count` characters so far. -/
def write (count : Nat) (p : Progress) : List Insertion → List Char
  | [] => []
  | x :: rest =>
    let n := (x.code - p.code) * (count + 1) + x.place - p.place
    digits p.bias 36 n ++
      write (count + 1) ⟨x.code, x.place + 1, adapt p.isFirst n (count + 1), false⟩ rest

def encode (cs : List Char) : List Char :=
  let ascii := cs.filter fun c => c.toNat < 128
  (if ascii.isEmpty then [] else ascii ++ ['-']) ++ write ascii.length start (insertions cs)

def char? (code : Nat) : Option Char := if code.isValidChar then some (Char.ofNat code) else none

def insert? (out : List Char) (p : Progress) (n : Nat) : Option (List Char × Progress) :=
  let count := out.length + 1
  let place := (p.place + n) % count
  let code := p.code + (p.place + n) / count
  (char? code).map fun c =>
    (out.take place ++ c :: out.drop place, ⟨code, place + 1, adapt p.isFirst n count, false⟩)

/-- Reads insertions; `n` is the number that is being read, whose next digit has the threshold of
`weight` and is worth `unit`. -/
def read (out : List Char) (p : Progress) (weight unit n : Nat) : List Char → Option (List Char)
  | [] => if weight = 36 then some out else none
  | c :: rest => do
    let d ← digitValue? c
    let n := n + d * unit
    let t := threshold p.bias weight
    if d < t then
      let (out, p) ← insert? out p n
      read out p 36 1 0 rest
    else read out p (weight + 36) (unit * (36 - t)) n rest

/-- The last hyphen ends the ASCII characters, of which there must be one then. -/
def decode? (cs : List Char) : Option (List Char) :=
  if cs.contains '-' then
    let ascii := ((cs.reverse.dropWhile (· != '-')).drop 1).reverse
    if ascii.isEmpty then none
    else read ascii start 36 1 0 (cs.reverse.takeWhile (· != '-')).reverse
  else read [] start 36 1 0 cs

end Depot.Text.Punycode
