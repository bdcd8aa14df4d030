import Depot.Error
import Depot.Text.Bytes

namespace Depot

/-- `digest` is a hash made from a password; `text` is any other text in its place, against which
nothing can be checked. -/
inductive PasswordHash where
  | digest (cost : Int) (key : List UInt8)
  | text (s : String)
  deriving Repr, DecidableEq, Inhabited

/-- A hash made from a password is shown by its cost only. -/
def PasswordHash.shown : PasswordHash → String
  | .digest cost _ => "<bcrypt cost " ++ toString cost ++ ">"
  | .text s => s

namespace Password

/-- The 72 bytes that a hash depends on: the password and a closing zero, repeated. -/
def key (password : String) : List UInt8 :=
  let bytes := Text.utf8 password ++ [0]
  (List.range 72).map fun i => bytes.getD (i % bytes.length) 0

/-- Hashes a password; the work factor must lie between 4 and 31. -/
def hash (cost : Int) (password : String) : Except Error PasswordHash :=
  if 4 ≤ cost && cost ≤ 31 then .ok (.digest cost (key password))
  else .error (.hashing (.cost cost))

def verify (password : String) : PasswordHash → Except Error Bool
  | .digest _ k => .ok (key password == k)
  | .text _ => .error (.hashing .malformed)

end Password

end Depot
