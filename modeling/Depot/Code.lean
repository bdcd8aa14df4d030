import Depot.Time

namespace Depot

namespace Code

def organization : String := "ORG"

def role : String := "ROLE"

def container : String := "CNT"

def pallet : String := "PLT"

end Code

/-- The number takes at least five places; the sign of a negative one is the first of them. -/
def sequenceCode (letters : String) (number : Int) : String :=
  letters ++ (if number < 0 then "-" ++ padded 4 number.natAbs else padded 5 number.natAbs)

end Depot
