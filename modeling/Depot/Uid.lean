import Depot.Text.Digit
import Depot.Time

namespace Depot

/-- A 128-bit identifier, as a number. -/
structure Uid where
  value : Nat
  deriving Repr, DecidableEq, Inhabited

namespace Uid

def text (u : Uid) : String :=
  let ds := Text.hexDigits 32 u.value
  String.ofList (ds.take 8 ++ '-' :: ((ds.drop 8).take 4 ++ '-' :: ((ds.drop 12).take 4 ++
    '-' :: ((ds.drop 16).take 4 ++ '-' :: ds.drop 20))))

def ofHex? (ds : List Char) : Option Uid :=
  if ds.length = 32 then
    (Text.hexNumber? ds).map Uid.mk
  else none

def ofHyphenated? (cs : List Char) : Option Uid :=
  if cs.length = 36 && [8, 13, 18, 23].all (fun i => cs[i]? == some '-') then
    ofHex? (cs.take 8 ++ (cs.drop 9).take 4 ++ (cs.drop 14).take 4 ++ (cs.drop 19).take 4 ++ cs.drop 24)
  else none

/-- Reads the four spellings of an identifier: 32 digits, hyphenated, in braces, and as a URN. -/
def ofText? (s : String) : Option Uid :=
  let cs := s.toList
  if cs.length = 32 then ofHex? cs
  else if cs.length = 36 then ofHyphenated? cs
  else if cs.length = 38 && cs.head? == some '{' && cs.getLast? == some '}' then
    ofHyphenated? ((cs.drop 1).take 36)
  else if cs.length = 45 && cs.take 9 == "urn:uuid:".toList then ofHyphenated? (cs.drop 9)
  else none

/-- The identifier of the draw `n`. It stands for a random one: nothing is to rest on it but that no two
draws give the same. -/
def drawn (n : Nat) : Uid := ⟨0x7d3a51c6e04b4f0f9b2c000000000000 + n⟩

end Uid

/-- The referral code of the draw `n`: ten capital hexadecimal digits. -/
def referralCode (n : Nat) : String :=
  String.ofList ((Text.hexDigits 10 n).map Char.toUpper)

end Depot
