import Depot.Sql.Script
import Depot.Text.Bytes
import Depot.Text.Digit
import Depot.Token.Sha256

namespace Depot.Sql

/-- A numbered change of the tables. -/
structure Migration where
  version : Int
  description : String
  sql : String
  deriving Repr, DecidableEq, Inhabited

namespace Migration

def checksum (m : Migration) : String :=
  String.ofList ((Token.Sha256.digest (Text.utf8 m.sql)).flatMap fun b => Text.hexDigits 2 b.toNat)

def initial : Migration where
  version := 20250101000000
  description := "init"
  sql := "-- Organizações (tenants)
CREATE TABLE organizations (
    id BIGSERIAL PRIMARY KEY,
    code TEXT NOT NULL UNIQUE,
    name TEXT NOT NULL,
    website TEXT,
    is_archived BOOLEAN NOT NULL DEFAULT FALSE,
    created_at TIMESTAMPTZ NOT NULL DEFAULT NOW(),
    updated_at TIMESTAMPTZ NOT NULL DEFAULT NOW()
);

-- Cargos: conjunto de permissões (nomes do catálogo) dentro de uma organização
CREATE TABLE roles (
    id BIGSERIAL PRIMARY KEY,
    code TEXT NOT NULL UNIQUE,
    name TEXT NOT NULL,
    permissions TEXT[] NOT NULL DEFAULT '\x7b\x7d',
    is_org_admin BOOLEAN NOT NULL DEFAULT FALSE,
    is_archived BOOLEAN NOT NULL DEFAULT FALSE,
    organization_id BIGINT NOT NULL REFERENCES organizations(id) ON DELETE CASCADE,
    created_at TIMESTAMPTZ NOT NULL DEFAULT NOW(),
    updated_at TIMESTAMPTZ NOT NULL DEFAULT NOW()
);

CREATE INDEX idx_roles_organization_id ON roles(organization_id);

CREATE TABLE users (
    id BIGSERIAL PRIMARY KEY,
    first_name TEXT NOT NULL,
    last_name TEXT NOT NULL,
    email TEXT NOT NULL,
    phone TEXT NOT NULL,
    is_admin BOOLEAN NOT NULL DEFAULT FALSE,
    is_member BOOLEAN NOT NULL DEFAULT FALSE,
    is_customer BOOLEAN NOT NULL DEFAULT FALSE,
    password_hash TEXT NOT NULL,
    organization_id BIGINT REFERENCES organizations(id) ON DELETE CASCADE,
    role_id BIGINT REFERENCES roles(id) ON DELETE RESTRICT,
    created_at TIMESTAMPTZ NOT NULL DEFAULT NOW(),
    updated_at TIMESTAMPTZ NOT NULL DEFAULT NOW(),
    CONSTRAINT users_email_key UNIQUE (email),
    CONSTRAINT users_phone_key UNIQUE (phone),
    -- Exatamente um tipo por usuário
    CONSTRAINT users_single_kind CHECK ((is_admin::int + is_member::int + is_customer::int) = 1),
    CONSTRAINT users_member_scope CHECK (NOT is_member OR (organization_id IS NOT NULL AND role_id IS NOT NULL))
);

CREATE INDEX idx_users_organization_id ON users(organization_id);

-- Perfil de cliente (1:1 com users)
CREATE TABLE profiles (
    user_id BIGINT PRIMARY KEY REFERENCES users(id) ON DELETE CASCADE,
    date_of_birth TEXT,
    referral_code TEXT UNIQUE,
    wallet_points BIGINT NOT NULL DEFAULT 0,
    created_at TIMESTAMPTZ NOT NULL DEFAULT NOW(),
    updated_at TIMESTAMPTZ NOT NULL DEFAULT NOW()
);

CREATE TABLE containers (
    id BIGSERIAL PRIMARY KEY,
    uid UUID NOT NULL UNIQUE,
    code TEXT NOT NULL UNIQUE,
    description TEXT,
    is_archived BOOLEAN NOT NULL DEFAULT FALSE,
    organization_id BIGINT REFERENCES organizations(id) ON DELETE CASCADE,
    created_by_id BIGINT NOT NULL REFERENCES users(id),
    created_at TIMESTAMPTZ NOT NULL DEFAULT NOW(),
    updated_at TIMESTAMPTZ NOT NULL DEFAULT NOW()
);

CREATE INDEX idx_containers_organization_id ON containers(organization_id);

CREATE TABLE pallets (
    id BIGSERIAL PRIMARY KEY,
    uid UUID NOT NULL UNIQUE,
    code TEXT NOT NULL UNIQUE,
    description TEXT,
    is_archived BOOLEAN NOT NULL DEFAULT FALSE,
    organization_id BIGINT REFERENCES organizations(id) ON DELETE CASCADE,
    container_id BIGINT REFERENCES containers(id) ON DELETE SET NULL,
    created_by_id BIGINT NOT NULL REFERENCES users(id),
    created_at TIMESTAMPTZ NOT NULL DEFAULT NOW(),
    updated_at TIMESTAMPTZ NOT NULL DEFAULT NOW()
);

CREATE INDEX idx_pallets_organization_id ON pallets(organization_id);
CREATE INDEX idx_pallets_container_id ON pallets(container_id);
"

def all : List Migration := [initial]

/-- What a database says of a migration that it has. -/
structure Applied where
  version : Int
  checksum : String
  deriving Repr, DecidableEq, Inhabited

def applied : RowKind Applied where
  table := "_sqlx_migrations"
  columns := [("version", .int), ("checksum", .text)]
  ofCells?
    | [.int version, .text checksum] => some ⟨version, checksum⟩
    | _ => none
  missing := DatabaseFault.noRow.toError

def unfinished : RowKind Int where
  table := "_sqlx_migrations"
  columns := [("version", .int)]
  ofCells?
    | [.int version] => some version
    | _ => none
  missing := DatabaseFault.noRow.toError

def databaseName : RowKind String where
  table := ""
  columns := [("current_database", .text)]
  ofCells?
    | [.text name] => some name
    | _ => none
  missing := DatabaseFault.noRow.toError

def fail {α : Type} (why : String) : Script α := .fail (.internal why)

/-- Sends a statement whose reply does not matter, as long as it is not refused. -/
def send (sql : String) (params : List Param) : Script Unit := do
  let _ ← Script.reply DatabaseFault.toError ⟨sql, params, []⟩
  pure ()

/-- A number of its own for each database, under which its migrations exclude each other. -/
def lockKey (database : String) : Int :=
  (Text.utf8 database).foldl (fun n b => (n * 31 + b.toNat) % 0x8000000000000000) 7

def withLockKey (function : String) : Script Unit := do
  let name ← Script.first DatabaseFault.toError databaseName
    (databaseName.statement "SELECT current_database()" [])
  send ("SELECT " ++ function ++ "($1)") [.int (lockKey name)]

def createRecords : String :=
  "CREATE TABLE IF NOT EXISTS _sqlx_migrations ( version BIGINT PRIMARY KEY, description TEXT NOT NULL, installed_on TIMESTAMPTZ NOT NULL DEFAULT now(), success BOOLEAN NOT NULL, checksum BYTEA NOT NULL, execution_time BIGINT NOT NULL );"

/-- A migration that was begun and not finished forbids all others. -/
def checkFinished : Script Unit := do
  match ← Script.first? DatabaseFault.toError unfinished (unfinished.statement
      "SELECT version FROM _sqlx_migrations WHERE success = false ORDER BY version LIMIT 1" []) with
  | some _ => fail "a migration was left half done"
  | none => pure ()

/-- Each migration that the database has must be a known one. -/
def checkKnown (ms : List Migration) (present : List Applied) : Script Unit :=
  if present.all fun a => ms.any (·.version == a.version) then pure ()
  else fail "the database has a migration that is not known"

def recordStatement : String :=
  "INSERT INTO _sqlx_migrations ( version, description, success, checksum, execution_time ) VALUES ( $1, $2, TRUE, $3, -1 )"

def apply (m : Migration) : Script Unit := do
  Script.transaction do
    send m.sql []
    send recordStatement [.int m.version, .text m.description, .text m.checksum]
  send "UPDATE _sqlx_migrations SET execution_time = $1 WHERE version = $2" [.int 0, .int m.version]

/-- Applies what is missing; what is there must not present changed. -/
def applyMissing (present : List Applied) : List Migration → Script Unit
  | [] => pure ()
  | m :: rest => do
    match present.find? (·.version == m.version) with
    | some a => if a.checksum = m.checksum then pure () else fail "a migration was changed"
    | none => apply m
    applyMissing present rest

def run (ms : List Migration) : Script Unit := do
  withLockKey "pg_advisory_lock"
  send createRecords []
  checkFinished
  let present ← Script.all applied
    (applied.statement "SELECT version, checksum FROM _sqlx_migrations ORDER BY version" [])
  checkKnown ms present
  applyMissing present ms
  withLockKey "pg_advisory_unlock"

end Migration

end Depot.Sql
