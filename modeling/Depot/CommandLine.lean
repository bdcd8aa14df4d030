namespace Depot

inductive Command where
  | serve
  | seed
  deriving Repr, DecidableEq, Inhabited

def Command.about : Command → String
  | .serve => "Sobe o servidor HTTP (padrão)"
  | .seed => "Cria o administrador da plataforma a partir de SEED_ADMIN_*"

/-- Why no command is run: the help or the version is asked for, or the arguments are wrong. -/
inductive Refusal where
  | help
  | version
  | unknownArgument
  | unknownCommand
  | unneededValue
  deriving Repr, DecidableEq, Inhabited

def Refusal.text : Refusal → String
  | .help =>
    "Backend multi-tenant de contêineres e paletes\n\nUsage: palletrack [COMMAND]\n\n" ++
      "  serve  " ++ Command.serve.about ++ "\n  seed   " ++ Command.seed.about
  | .version => "palletrack 0.1.0"
  | .unknownArgument => "error: unexpected argument"
  | .unknownCommand => "error: unrecognized subcommand"
  | .unneededValue => "error: unexpected value"

def Refusal.exitCode : Refusal → UInt32
  | .help | .version => 0
  | .unknownArgument | .unknownCommand | .unneededValue => 2

namespace Command

def ofName? (s : String) : Option Command :=
  if s == "serve" then some .serve else if s == "seed" then some .seed else none

/-- The names in the place of a command, the one that asks for help with them among them. -/
def isName (s : String) : Bool := (ofName? s).isSome || s == "help"

/-- An argument with a hyphen in front, other than the hyphen alone. -/
def isFlag (s : String) : Bool :=
  match s.toList with
  | '-' :: _ :: _ => true
  | _ => false

/-- What a flag leads to. Only the program itself has a version. -/
def refusalOfFlag (versioned : Bool) (s : String) : Refusal :=
  match s.toList with
  | '-' :: '-' :: long =>
    let name := String.ofList (long.takeWhile (· != '='))
    if name == "help" || (versioned && name == "version") then
      if long.contains '=' then .unneededValue
      else if name == "help" then .help else .version
    else .unknownArgument
  | '-' :: 'h' :: _ => .help
  | '-' :: 'V' :: _ => if versioned then .version else .unknownArgument
  | _ => .unknownArgument

def readRest (c : Command) : List String → Except Refusal (Option Command)
  | [] | ["--"] => .ok (some c)
  | s :: _ => if isFlag s && s != "--" then .error (refusalOfFlag false s) else .error .unknownArgument

def readHelp : List String → Refusal
  | [] => .help
  | [s] => if isName s then .help else .unknownCommand
  | _ => .unknownCommand

def readOperands : List String → Except Refusal (Option Command)
  | [] => .ok none
  | s :: _ => .error (if isName s then .unknownArgument else .unknownCommand)

def read : List String → Except Refusal (Option Command)
  | [] => .ok none
  | s :: rest =>
    match ofName? s with
    | some c => c.readRest rest
    | none =>
      if s == "help" then .error (readHelp rest)
      else if s == "--" then readOperands rest
      else if isFlag s then .error (refusalOfFlag true s)
      else .error .unknownCommand

end Command

end Depot
