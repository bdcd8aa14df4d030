import Depot.Text.Direction
import Depot.Text.Domain.Mapping
import Depot.Text.Joining
import Depot.Text.Punycode

namespace Depot.Text

def isAscii (cs : List Char) : Bool := cs.all fun c => c.toNat < 128

def asciiMark : List Char := ['x', 'n', '-', '-']

def label? (cs : List Char) : Option (List Char) :=
  if asciiMark.isPrefixOf cs then
    (Punycode.decode? (cs.drop 4)).filter fun label =>
      !isAscii label && composed label == label && label.all isPlainSpelled
  else some cs

/-- A label does not begin with a mark, and its joiners have a reason. -/
def isWellFormedLabel (cs : List Char) : Bool := !cs.head?.any isMark && joinersFit [] cs

def asciiLabel (cs : List Char) : List Char :=
  if isAscii cs then cs else asciiMark ++ Punycode.encode cs

/-- If anything runs from right to left then each label keeps its direction. -/
def domainToAscii? (cs : List Char) : Option (List Char) := do
  let spelled ← cs.mapM spelling?
  let labels ← (pieces (· == '.') (composed spelled.flatten)).mapM label?
  if labels.all isWellFormedLabel && (!labels.any runsBothWays || labels.all keepsDirection) then
    some (['.'].intercalate (labels.map asciiLabel))
  else none

end Depot.Text
