import Depot.Http.Message

namespace Depot.Http

/-- The parts of a media type before its parameters, in lower case. -/
structure MediaType where
  type : String
  subtype : String
  suffix : Option String
  deriving Repr, DecidableEq, Inhabited

namespace MediaType

def isToken (c : Char) : Bool :=
  ('a' ≤ c && c ≤ 'z') || ('A' ≤ c && c ≤ 'Z') || Text.isDigit c ||
    "!#$%&'*+-.^_`|~".toList.contains c

def isQuotable (c : Char) : Bool := 31 < c.toNat && c.toNat != 127

def closeQuote? : List Char → Option (List Char)
  | [] => none
  | c :: rest =>
    if c = '"' then some rest
    else if isQuotable c then closeQuote? rest
    else none

/-- The rest after a quoted value of at least one character, which may be a quote itself. -/
def closeValue? : List Char → Option (List Char)
  | [] => none
  | c :: rest => if isQuotable c then closeQuote? rest else none

def skipParameter? (cs : List Char) : Option (List Char) :=
  match cs.takeWhile isToken, cs.dropWhile isToken with
  | _ :: _, '=' :: '"' :: rest => do
    let rest ← closeValue? rest
    match rest.dropWhile (· == ' ') with
    | [] => some []
    | ';' :: rest => some rest
    | _ => none
  | _ :: _, '=' :: rest =>
    match rest.takeWhile isToken, rest.dropWhile isToken with
    | _, [] => some []
    | _ :: _, ';' :: rest => some rest
    | _, _ => none
  | _, _ => none

def areParameters (fuel : Nat) (cs : List Char) : Bool :=
  match fuel with
  | 0 => true
  | fuel + 1 =>
    match cs.dropWhile (· == ' ') with
    | [] => true
    | cs =>
      match skipParameter? cs with
      | some rest => areParameters fuel rest
      | none => false

def lowercase (cs : List Char) : String := String.ofList (cs.map Char.toLower)

/-- A subtype and what follows its last plus sign. -/
def splitSuffix (cs : List Char) : List Char × Option (List Char) :=
  match (cs.drop 1).reverse.dropWhile (· != '+') with
  | [] => (cs, none)
  | _ :: before =>
    (cs.take (before.length + 1), some (cs.drop (before.length + 2)))

def ofText? (s : String) : Option MediaType :=
  let cs := s.toList
  match cs.takeWhile isToken, cs.dropWhile isToken with
  | t :: ts, '/' :: rest =>
    match rest.takeWhile isToken, rest.dropWhile isToken with
    | [], _ => none
    | sub, params =>
      if params.isEmpty || (params.head? == some ';' && areParameters params.length (params.drop 1)) then
        let (sub, suffix) := splitSuffix sub
        some ⟨lowercase (t :: ts), lowercase sub, suffix.map lowercase⟩
      else none
  | _, _ => none

/-- JSON itself, or a type of its own that is written in JSON. -/
def isJson (m : MediaType) : Bool :=
  m.type == "application" && (m.subtype == "json" || m.suffix == some "json")

end MediaType

def Request.carriesJson (r : Request) : Bool :=
  ((r.header? "content-type").bind MediaType.ofText?).any MediaType.isJson

end Depot.Http
