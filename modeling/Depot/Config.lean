import Depot.Loader
import Depot.Operation.Accounts
import Depot.Text.Integer

namespace Depot

structure Config where
  serverAddress : String
  databaseUrl : String
  secret : String
  tokenHours : Int
  requestSeconds : Nat
  maxConnections : Nat
  loader : Loader.Config
  adminEmail : Option String
  adminPassword : Option String
  adminPhone : String
  deriving Repr, DecidableEq, Inhabited

namespace Config

/-- Why the settings cannot be used. -/
inductive Fault where
  | noDatabase
  | noSecret
  | number (name value : String) (fault : Text.IntegerFault)
  deriving Repr, DecidableEq, Inhabited

def Fault.text : Fault → String
  | .noDatabase => "DATABASE_URL deve ser definida: environment variable not found"
  | .noSecret => "JWT_SECRET deve ser definido: environment variable not found"
  | .number name value fault => name ++ " inválida: " ++ value ++ ": " ++ fault.text

abbrev Environment := String → Option String

/-- A number from the environment, or the default if the variable is not set. -/
def number (env : Environment) (r : Text.IntegerRange) (name : String) (default : Int) :
    Except Fault Int :=
  match env name with
  | none => .ok default
  | some value =>
    match r.read value with
    | .ok n => .ok n
    | .error fault => .error (.number name value fault)

def names : List String :=
  ["DATABASE_URL", "JWT_SECRET", "TOKEN_TTL_HOURS", "REQUEST_TIMEOUT_SECS", "DB_MAX_CONNECTIONS",
    "LOADER_WAIT_MS", "LOADER_MAX_BATCH", "SERVER_ADDRESS", "SEED_ADMIN_EMAIL", "SEED_ADMIN_PASSWORD",
    "SEED_ADMIN_PHONE"]

/-- Reads the settings; the first one that is missing or wrong is told. -/
def ofEnvironment (env : Environment) : Except Fault Config := do
  let some databaseUrl := env "DATABASE_URL" | .error .noDatabase
  let some secret := env "JWT_SECRET" | .error .noSecret
  let tokenHours ← number env .signed64 "TOKEN_TTL_HOURS" 168
  let requestSeconds ← number env .natural64 "REQUEST_TIMEOUT_SECS" 10
  let maxConnections ← number env .natural32 "DB_MAX_CONNECTIONS" 5
  let wait ← number env .natural64 "LOADER_WAIT_MS" 1
  let maxBatch ← number env .natural64 "LOADER_MAX_BATCH" 100
  pure
    { serverAddress := (env "SERVER_ADDRESS").getD "0.0.0.0:3000"
      databaseUrl
      secret
      tokenHours
      requestSeconds := requestSeconds.toNat
      maxConnections := maxConnections.toNat
      loader := ⟨wait.toNat, maxBatch.toNat⟩
      adminEmail := env "SEED_ADMIN_EMAIL"
      adminPassword := env "SEED_ADMIN_PASSWORD"
      adminPhone := (env "SEED_ADMIN_PHONE").getD "+0000000000" }

/-- The greatest span of time that can be handled, in milliseconds. -/
def longest : Nat := 0x7FFFFFFFFFFFFFFF

def hashCost : Int := 12

/-- What logging in depends on; tokens cannot last for more than the longest span. -/
def accounts? (c : Config) : Option Operation.Accounts.Settings :=
  if c.tokenHours.natAbs * 3600000 ≤ longest then some ⟨c.secret, c.tokenHours * 3600, hashCost⟩
  else none

end Config

end Depot
