import Depot.Http.Message
import Depot.Text.Bytes
import Depot.Text.Digit
import Depot.Text.Pieces

namespace Depot.Http

/-- A percent sign with two hexadecimal digits stands for a byte, everything else for itself. -/
def percentDecoded : List UInt8 → List UInt8
  | 37 :: a :: b :: rest =>
    match Text.hexValue? (Char.ofNat a.toNat), Text.hexValue? (Char.ofNat b.toNat) with
    | some x, some y => UInt8.ofNat (x * 16 + y) :: percentDecoded rest
    | _, _ => 37 :: percentDecoded (a :: b :: rest)
  | c :: rest => c :: percentDecoded rest
  | [] => []

def percentDecode? (s : String) : Option String := Text.ofUtf8? (percentDecoded (Text.utf8 s))

/-- A name and a value around the first equals sign; a cookie needs both and a name that is not
empty. -/
def cookiePair? (cs : List Char) : Option (String × String) :=
  match cs.dropWhile (· != '=') with
  | [] => none
  | _ :: value => do
    let name := Text.trim (String.ofList (cs.takeWhile (· != '=')))
    if name.isEmpty then none
    else
      let name ← percentDecode? name
      let value ← percentDecode? (Text.trim (String.ofList value))
      some (name, value)

namespace Request

def cookies (r : Request) : List (String × String) :=
  (r.headersNamed "cookie").flatMap fun value =>
    (Text.pieces (· == ';') value.toList).filterMap cookiePair?

/-- The value of the last cookie of that name. -/
def cookie? (r : Request) (name : String) : Option String :=
  (r.cookies.reverse.find? (·.1 == name)).map (·.2)

end Request

end Depot.Http
