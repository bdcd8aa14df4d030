import Depot.Code
import Depot.Program
import Depot.Sql.Script

namespace Depot.Sql

open Store Script

variable {α σ : Type}

def plain : DatabaseFault → Error := DatabaseFault.toError

def guarded : DatabaseFault → Error := DatabaseFault.toWriteError

namespace RowKind

def selectBy (k : RowKind α) (column : String) (p : Param) : Script α :=
  found plain k (k.statement ("SELECT * FROM " ++ k.table ++ " WHERE " ++ column ++ " = $1") [p])

def selectMany (k : RowKind α) (column : String) (ids : List Id) : Script (List α) :=
  all k (k.statement ("SELECT * FROM " ++ k.table ++ " WHERE " ++ column ++ " = ANY($1)") [.ints ids])

def selectAll (k : RowKind α) : Script (List α) :=
  all k (k.statement ("SELECT * FROM " ++ k.table ++ " ORDER BY id") [])

/-- The rows that meet a condition on one parameter, in the order of their numbers. -/
def selectWhere (k : RowKind α) (condition : String) (p : Param) : Script (List α) :=
  all k (k.statement ("SELECT * FROM " ++ k.table ++ " WHERE " ++ condition ++ " ORDER BY id") [p])

def nextId (k : RowKind α) : Script Id :=
  first plain sequence
    ⟨"SELECT nextval(pg_get_serial_sequence($1, 'id'))", [.text k.table], sequence.columns⟩

def insert (k : RowKind α) (columns values : String) (params : List Param) : Script α :=
  first guarded k (k.statement ("INSERT INTO " ++ k.table ++ " (" ++ columns ++ ") VALUES (" ++
    values ++ ") RETURNING *") params)

def update (k : RowKind α) (blame : DatabaseFault → Error) (assignments : String)
    (params : List Param) : Script α :=
  found blame k (k.statement ("UPDATE " ++ k.table ++ " SET " ++ assignments ++
    ", updated_at = NOW() WHERE id = $1 RETURNING *") params)

def delete (k : RowKind α) (id : Id) : Script Unit :=
  transaction (touch guarded k.missing
    ⟨"DELETE FROM " ++ k.table ++ " WHERE id = $1", [.int id], []⟩)

end RowKind

/-- The organization, its administrators' role and its first member, in this order. -/
def register (o : NewOrganization) (owner : NewAccount) : Script (Organization × Role × User) := do
  let organizationId ← organizations.nextId
  let organization ← organizations.insert "id, code, name, website" "$1, $2, $3, $4"
    [.int organizationId, .text (sequenceCode Code.organization organizationId), .text o.name,
      .ofText? o.website]
  let roleId ← roles.nextId
  let role ← roles.insert "id, code, name, permissions, is_org_admin, organization_id"
    "$1, $2, $3, '\x7b\x7d', TRUE, $4"
    [.int roleId, .text (sequenceCode Code.role roleId), .text Role.ownerName, .int organization.id]
  let user ← users.insert
    " first_name, last_name, email, phone, password_hash, is_member, organization_id, role_id "
    "$1, $2, $3, $4, $5, TRUE, $6, $7"
    [.text owner.firstName, .text owner.lastName, .text owner.email, .text owner.phone,
      .hash owner.passwordHash, .int organization.id, .int role.id]
  pure (organization, role, user)

def insertRole (r : NewRole) : Script Role := do
  let id ← roles.nextId
  roles.insert "id, code, name, permissions, is_org_admin, organization_id" "$1, $2, $3, $4, $5, $6"
    [.int id, .text (sequenceCode Code.role id), .text r.name, .texts r.permissions,
      .bool r.isOrgAdmin, .int r.organizationId]

def insertUser (u : NewUser) : Script User :=
  users.insert
    " first_name, last_name, email, phone, password_hash, is_admin, is_member, is_customer, organization_id, role_id "
    "$1, $2, $3, $4, $5, $6, $7, $8, $9, $10"
    [.text u.account.firstName, .text u.account.lastName, .text u.account.email,
      .text u.account.phone, .hash u.account.passwordHash, .bool u.kind.isAdmin,
      .bool u.kind.isMember, .bool u.kind.isCustomer, .ofInt? u.kind.organization?,
      .ofInt? u.kind.role?]

def insertCustomer (drawn : Nat) (a : NewAccount) : Script (User × Profile) := do
  let user ← users.insert "first_name, last_name, email, phone, password_hash, is_customer"
    "$1, $2, $3, $4, $5, TRUE"
    [.text a.firstName, .text a.lastName, .text a.email, .text a.phone, .hash a.passwordHash]
  let profile ← profiles.insert "user_id, referral_code" "$1, $2"
    [.int user.id, .text (referralCode drawn)]
  pure (user, profile)

def insertContainer (drawn : Nat) (c : NewContainer) : Script Container := do
  let id ← containers.nextId
  containers.insert "id, uid, code, description, organization_id, created_by_id"
    "$1, $2, $3, $4, $5, $6"
    [.int id, .uid (Uid.drawn drawn), .text (sequenceCode Code.container id),
      .ofText? c.description, .int c.organizationId, .int c.createdById]

def insertPallet (drawn : Nat) (p : NewPallet) : Script Pallet := do
  let id ← pallets.nextId
  pallets.insert " id, uid, code, description, organization_id, container_id, created_by_id "
    "$1, $2, $3, $4, $5, $6, $7"
    [.int id, .uid (Uid.drawn drawn), .text (sequenceCode Code.pallet id), .ofText? p.description,
      .int p.organizationId, .ofInt? p.containerId, .int p.createdById]

def organizationScript : (c : OrganizationCall) → Script c.Answer
  | .byId id => organizations.selectBy "id" (.int id)
  | .byCode code => organizations.selectBy "code" (.text code)
  | .many ids => organizations.selectMany "id" ids
  | .list => organizations.selectAll
  | .register o owner => transaction (register o owner)
  | .update o =>
    transaction (organizations.update plain "name = $2, website = $3, is_archived = $4"
      [.int o.id, .text o.name, .ofText? o.website, .bool o.isArchived])
  | .delete id => organizations.delete id

def roleScript : (c : RoleCall) → Script c.Answer
  | .byId id => roles.selectBy "id" (.int id)
  | .byCode code => roles.selectBy "code" (.text code)
  | .many ids => roles.selectMany "id" ids
  | .list => roles.selectAll
  | .ofOrganization o => roles.selectWhere "organization_id = $1" (.int o)
  | .insert r => transaction (insertRole r)
  | .update r =>
    transaction (roles.update plain "name = $2, permissions = $3, is_archived = $4"
      [.int r.id, .text r.name, .texts r.permissions, .bool r.isArchived])
  | .delete id => roles.delete id

def userScript (drawn : Nat) : (c : UserCall) → Script c.Answer
  | .byId id => users.selectBy "id" (.int id)
  | .byEmail email => users.selectBy "email" (.text email)
  | .byPhone phone => users.selectBy "phone" (.text phone)
  | .many ids => users.selectMany "id" ids
  | .list filter =>
    all users (users.statement ("SELECT * FROM users WHERE NOT ($1 OR $2 OR $3) " ++
        "OR ($1 AND is_admin) OR ($2 AND is_member) OR ($3 AND is_customer) ORDER BY id")
      [.bool filter.isAdmin, .bool filter.isMember, .bool filter.isCustomer])
  | .ofOrganization o => users.selectWhere "is_member AND organization_id = $1" (.int o)
  | .insert u => transaction (insertUser u)
  | .insertCustomer a => transaction (insertCustomer drawn a)
  | .update u =>
    transaction (users.update guarded
      "first_name = $2, last_name = $3, email = $4, phone = $5"
      [.int u.id, .text u.firstName, .text u.lastName, .text u.email, .text u.phone])
  | .updatePassword id hash =>
    transaction (touch plain users.missing
      ⟨"UPDATE users SET password_hash = $2, updated_at = NOW() WHERE id = $1",
        [.int id, .hash hash], []⟩)
  | .delete id => users.delete id

def profileScript : (c : ProfileCall) → Script c.Answer
  | .byUser id => profiles.selectBy "user_id" (.int id)
  | .many ids => profiles.selectMany "user_id" ids

def containerScript (drawn : Nat) : (c : ContainerCall) → Script c.Answer
  | .byId id => containers.selectBy "id" (.int id)
  | .byUid uid => containers.selectBy "uid" (.uid uid)
  | .byCode code => containers.selectBy "code" (.text code)
  | .many ids => containers.selectMany "id" ids
  | .list => containers.selectAll
  | .ofOrganization o => containers.selectWhere "organization_id = $1" (.int o)
  | .insert c => transaction (insertContainer drawn c)
  | .update c =>
    transaction (containers.update plain "description = $2, is_archived = $3"
      [.int c.id, .ofText? c.description, .bool c.isArchived])
  | .delete id => containers.delete id

def palletScript (drawn : Nat) : (c : PalletCall) → Script c.Answer
  | .byId id => pallets.selectBy "id" (.int id)
  | .byUid uid => pallets.selectBy "uid" (.uid uid)
  | .byCode code => pallets.selectBy "code" (.text code)
  | .list => pallets.selectAll
  | .ofOrganization o => pallets.selectWhere "organization_id = $1" (.int o)
  | .ofContainer c => pallets.selectWhere "container_id = $1" (.int c)
  | .ofContainers cs => pallets.selectWhere "container_id = ANY($1)" (.ints cs)
  | .insert p => transaction (insertPallet drawn p)
  | .update p =>
    transaction (pallets.update guarded "description = $2, container_id = $3, is_archived = $4"
      [.int p.id, .ofText? p.description, .ofInt? p.containerId, .bool p.isArchived])
  | .delete id => pallets.delete id

/-- What is sent for a call; `drawn` is the draw that a new row may use. -/
def script (drawn : Nat) : (c : Call) → Script c.Answer
  | .organizations c => organizationScript c
  | .roles c => roleScript c
  | .users c => userScript drawn c
  | .profiles c => profileScript c
  | .containers c => containerScript drawn c
  | .pallets c => palletScript drawn c

/-- A database, and the number of identifiers drawn. -/
structure Connection (σ : Type) where
  state : σ
  drawn : Nat

def handle (db : Database σ) : Program.Handler (Connection σ) := fun c conn =>
  let (r, s) := (script conn.drawn c).run db conn.state
  (r, ⟨s, conn.drawn + 1⟩)

end Depot.Sql
