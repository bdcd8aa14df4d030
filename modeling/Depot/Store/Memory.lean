import Depot.Code
import Depot.Program

namespace Depot.Store

variable {α : Type}

/-- Rows, and the number of the last one inserted. -/
structure Table (α : Type) where
  rows : List α
  sequence : Nat
  deriving Repr, DecidableEq

instance : Inhabited (Table α) := ⟨⟨[], 0⟩⟩

namespace Table

def nextId (t : Table α) : Id := t.sequence + 1

def insert (t : Table α) (row : α) : Table α := ⟨t.rows ++ [row], t.sequence + 1⟩

end Table

/-- Changes the first row that meets the condition and gives it back with all rows. -/
def modifyFirst? (p : α → Bool) (f : α → α) : List α → Option (α × List α)
  | [] => none
  | x :: xs =>
    if p x then some (f x, f x :: xs)
    else (modifyFirst? p f xs).map fun (y, ys) => (y, x :: ys)

/-- What is fetched in batches. -/
inductive BatchName where
  | users
  | profiles
  | organizations
  | roles
  | containers
  | containerPallets
  deriving Repr, DecidableEq, Inhabited

def BatchName.text : BatchName → String
  | .users => "users"
  | .profiles => "profiles"
  | .organizations => "organizations"
  | .roles => "roles"
  | .containers => "containers"
  | .containerPallets => "container_pallets"

def BatchName.all : List BatchName :=
  [.users, .profiles, .organizations, .roles, .containers, .containerPallets]

def BatchName.ofText? (s : String) : Option BatchName := BatchName.all.find? (·.text == s)

/-- The tables, the number of identifiers drawn, the time of the clock, and a record of every fetch
of many keys. -/
structure Memory where
  organizations : Table Organization
  roles : Table Role
  users : Table User
  profiles : List Profile
  containers : Table Container
  pallets : Table Pallet
  drawn : Nat
  clock : Timestamp
  batches : List (BatchName × List Id)
  batchesFail : Bool
  deriving Inhabited

namespace Memory

def empty (clock : Timestamp) : Memory :=
  ⟨⟨[], 0⟩, ⟨[], 0⟩, ⟨[], 0⟩, [], ⟨[], 0⟩, ⟨[], 0⟩, 0, clock, [], false⟩

def batchesOf (m : Memory) (name : BatchName) : List (List Id) :=
  (m.batches.filter (·.1 == name)).map (·.2)

def find (rows : List α) (p : α → Bool) (missing : Error) : Except Error α :=
  match rows.find? p with
  | some row => .ok row
  | none => .error missing

/-- Records a fetch of many keys, and lets it fail if batches fail. -/
def fetch (m : Memory) (name : BatchName) (keys : List Id) (rows : List α) :
    Except Error (List α) × Memory :=
  let m' := { m with batches := m.batches ++ [(name, keys)] }
  if m.batchesFail then (.error (.internal (name.text ++ " batch failed")), m') else (.ok rows, m')

/-- An account needs an e-mail address and a phone of its own; the address is looked at first. -/
def checkAccount (users : List User) (email phone : String) : Except Error Unit :=
  if users.any (·.email == email) then .error .emailTaken
  else if users.any (·.phone == phone) then .error .phoneTaken
  else .ok ()

def userRow (id : Id) (account : NewAccount) (kind : Kind) (now : Timestamp) : User :=
  { id, firstName := account.firstName, lastName := account.lastName, email := account.email,
    phone := account.phone, isAdmin := kind.isAdmin, isMember := kind.isMember,
    isCustomer := kind.isCustomer, passwordHash := account.passwordHash,
    organizationId := kind.organization?, roleId := kind.role?, createdAt := now, updatedAt := now }

def organizationRow (id : Id) (o : NewOrganization) (now : Timestamp) : Organization :=
  ⟨id, sequenceCode Code.organization id, o.name, o.website, false, now, now⟩

def roleRow (id : Id) (r : NewRole) (now : Timestamp) : Role :=
  ⟨id, sequenceCode Code.role id, r.name, r.permissions, r.isOrgAdmin, false, r.organizationId,
    now, now⟩

def containerRow (id : Id) (uid : Uid) (c : NewContainer) (now : Timestamp) : Container :=
  ⟨id, uid, sequenceCode Code.container id, c.description, false, some c.organizationId,
    c.createdById, now, now⟩

def palletRow (id : Id) (uid : Uid) (p : NewPallet) (now : Timestamp) : Pallet :=
  ⟨id, uid, sequenceCode Code.pallet id, p.description, false, some p.organizationId,
    p.containerId, p.createdById, now, now⟩

def addRole (m : Memory) (role : NewRole) : Role × Memory :=
  let row := roleRow m.roles.nextId role m.clock
  (row, { m with roles := m.roles.insert row })

def addContainer (m : Memory) (container : NewContainer) : Container × Memory :=
  let row := containerRow m.containers.nextId (Uid.drawn m.drawn) container m.clock
  (row, { m with containers := m.containers.insert row, drawn := m.drawn + 1 })

def addPallet (m : Memory) (pallet : NewPallet) : Pallet × Memory :=
  let row := palletRow m.pallets.nextId (Uid.drawn m.drawn) pallet m.clock
  (row, { m with pallets := m.pallets.insert row, drawn := m.drawn + 1 })

def insertUser (m : Memory) (account : NewAccount) (kind : Kind) : Except Error User × Memory :=
  match checkAccount m.users.rows account.email account.phone with
  | .error e => (.error e, m)
  | .ok _ =>
    let user := userRow m.users.nextId account kind m.clock
    (.ok user, { m with users := m.users.insert user })

def insertCustomer (m : Memory) (account : NewAccount) : Except Error (User × Profile) × Memory :=
  match m.insertUser account .customer with
  | (.error e, m) => (.error e, m)
  | (.ok user, m) =>
    let profile : Profile := ⟨user.id, none, some (referralCode m.drawn), 0, m.clock, m.clock⟩
    (.ok (user, profile), { m with profiles := m.profiles ++ [profile], drawn := m.drawn + 1 })

/-- An organization, its administrators' role and its first member, or none of them. -/
def register (m : Memory) (organization : NewOrganization) (owner : NewAccount) :
    Except Error (Organization × Role × User) × Memory :=
  match checkAccount m.users.rows owner.email owner.phone with
  | .error e => (.error e, m)
  | .ok _ =>
    let o := organizationRow m.organizations.nextId organization m.clock
    let r := roleRow m.roles.nextId ⟨Role.ownerName, [], true, o.id⟩ m.clock
    let u := userRow m.users.nextId owner (.member o.id r.id) m.clock
    (.ok (o, r, u),
      { m with
        organizations := m.organizations.insert o
        roles := m.roles.insert r
        users := m.users.insert u })

/-- Writes the name, the address and the phone of a user, unless another user has one of the last
two. -/
def updateUser (m : Memory) (user : User) : Except Error User × Memory :=
  if m.users.rows.any (fun u => u.id != user.id && u.email == user.email) then
    (.error .emailTaken, m)
  else if m.users.rows.any (fun u => u.id != user.id && u.phone == user.phone) then
    (.error .phoneTaken, m)
  else
    let change (row : User) : User :=
      { row with
        firstName := user.firstName
        lastName := user.lastName
        email := user.email
        phone := user.phone }
    match modifyFirst? (·.id == user.id) change m.users.rows with
    | none => (.error Error.noUser, m)
    | some (row, rows) => (.ok row, { m with users := { m.users with rows := rows } })

def withoutId (rows : List α) (id : α → Id) (gone : Id) : Option (List α) :=
  if rows.any (fun row => id row == gone) then some (rows.filter (fun row => id row != gone)) else none

def organizationCall (m : Memory) : (c : OrganizationCall) → Except Error c.Answer × Memory
  | .byId id => (find m.organizations.rows (·.id == id) Error.noOrganization, m)
  | .byCode code => (find m.organizations.rows (·.code == code) Error.noOrganization, m)
  | .many ids => m.fetch .organizations ids (m.organizations.rows.filter (ids.contains ·.id))
  | .list => (.ok m.organizations.rows, m)
  | .register organization owner => m.register organization owner
  | .update o =>
    match modifyFirst? (·.id == o.id) (fun _ => o) m.organizations.rows with
    | none => (.error Error.noOrganization, m)
    | some (row, rows) =>
      (.ok row, { m with organizations := { m.organizations with rows := rows } })
  | .delete id =>
    match withoutId m.organizations.rows (·.id) id with
    | none => (.error Error.noOrganization, m)
    | some rows => (.ok (), { m with organizations := { m.organizations with rows := rows } })

def roleCall (m : Memory) : (c : RoleCall) → Except Error c.Answer × Memory
  | .byId id => (find m.roles.rows (·.id == id) Error.noRole, m)
  | .byCode code => (find m.roles.rows (·.code == code) Error.noRole, m)
  | .many ids => m.fetch .roles ids (m.roles.rows.filter (ids.contains ·.id))
  | .list => (.ok m.roles.rows, m)
  | .ofOrganization organization =>
    (.ok (m.roles.rows.filter (·.organizationId == organization)), m)
  | .insert role =>
    let (row, m) := m.addRole role
    (.ok row, m)
  | .update r =>
    let change (row : Role) : Role :=
      { row with name := r.name, permissions := r.permissions, isArchived := r.isArchived }
    match modifyFirst? (·.id == r.id) change m.roles.rows with
    | none => (.error Error.noRole, m)
    | some (row, rows) => (.ok row, { m with roles := { m.roles with rows := rows } })
  | .delete id =>
    match withoutId m.roles.rows (·.id) id with
    | none => (.error Error.noRole, m)
    | some rows => (.ok (), { m with roles := { m.roles with rows := rows } })

def userCall (m : Memory) : (c : UserCall) → Except Error c.Answer × Memory
  | .byId id => (find m.users.rows (·.id == id) Error.noUser, m)
  | .byEmail email => (find m.users.rows (·.email == email) Error.noUser, m)
  | .byPhone phone => (find m.users.rows (·.phone == phone) Error.noUser, m)
  | .many ids => m.fetch .users ids (m.users.rows.filter (ids.contains ·.id))
  | .list filter => (.ok (m.users.rows.filter filter.admits), m)
  | .ofOrganization organization =>
    (.ok (m.users.rows.filter fun u => u.isMember && u.organizationId == some organization), m)
  | .insert user => m.insertUser user.account user.kind
  | .insertCustomer account => m.insertCustomer account
  | .update user => m.updateUser user
  | .updatePassword id hash =>
    match modifyFirst? (·.id == id) (fun u : User => { u with passwordHash := hash }) m.users.rows with
    | none => (.error Error.noUser, m)
    | some (_, rows) => (.ok (), { m with users := { m.users with rows := rows } })
  | .delete id =>
    match withoutId m.users.rows (·.id) id with
    | none => (.error Error.noUser, m)
    | some rows => (.ok (), { m with users := { m.users with rows := rows } })

def profileCall (m : Memory) : (c : ProfileCall) → Except Error c.Answer × Memory
  | .byUser id => (find m.profiles (·.userId == id) Error.noProfile, m)
  | .many ids => m.fetch .profiles ids (m.profiles.filter (ids.contains ·.userId))

def containerCall (m : Memory) : (c : ContainerCall) → Except Error c.Answer × Memory
  | .byId id => (find m.containers.rows (·.id == id) Error.noContainer, m)
  | .byUid uid => (find m.containers.rows (·.uid == uid) Error.noContainer, m)
  | .byCode code => (find m.containers.rows (·.code == code) Error.noContainer, m)
  | .many ids => m.fetch .containers ids (m.containers.rows.filter (ids.contains ·.id))
  | .list => (.ok m.containers.rows, m)
  | .ofOrganization organization =>
    (.ok (m.containers.rows.filter (·.organizationId == some organization)), m)
  | .insert container =>
    let (row, m) := m.addContainer container
    (.ok row, m)
  | .update c =>
    let change (row : Container) : Container :=
      { row with description := c.description, isArchived := c.isArchived }
    match modifyFirst? (·.id == c.id) change m.containers.rows with
    | none => (.error Error.noContainer, m)
    | some (row, rows) => (.ok row, { m with containers := { m.containers with rows := rows } })
  | .delete id =>
    match withoutId m.containers.rows (·.id) id with
    | none => (.error Error.noContainer, m)
    | some rows => (.ok (), { m with containers := { m.containers with rows := rows } })

def palletCall (m : Memory) : (c : PalletCall) → Except Error c.Answer × Memory
  | .byId id => (find m.pallets.rows (·.id == id) Error.noPallet, m)
  | .byUid uid => (find m.pallets.rows (·.uid == uid) Error.noPallet, m)
  | .byCode code => (find m.pallets.rows (·.code == code) Error.noPallet, m)
  | .list => (.ok m.pallets.rows, m)
  | .ofOrganization organization =>
    (.ok (m.pallets.rows.filter (·.organizationId == some organization)), m)
  | .ofContainer container => (.ok (m.pallets.rows.filter (·.containerId == some container)), m)
  | .ofContainers containers =>
    m.fetch .containerPallets containers
      (m.pallets.rows.filter fun p => p.containerId.any containers.contains)
  | .insert pallet =>
    let (row, m) := m.addPallet pallet
    (.ok row, m)
  | .update p =>
    let change (row : Pallet) : Pallet :=
      { row with
        description := p.description
        containerId := p.containerId
        isArchived := p.isArchived }
    match modifyFirst? (·.id == p.id) change m.pallets.rows with
    | none => (.error Error.noPallet, m)
    | some (row, rows) => (.ok row, { m with pallets := { m.pallets with rows := rows } })
  | .delete id =>
    match withoutId m.pallets.rows (·.id) id with
    | none => (.error Error.noPallet, m)
    | some rows => (.ok (), { m with pallets := { m.pallets with rows := rows } })

def handle : Program.Handler Memory
  | .organizations c, m => m.organizationCall c
  | .roles c, m => m.roleCall c
  | .users c, m => m.userCall c
  | .profiles c, m => m.profileCall c
  | .containers c, m => m.containerCall c
  | .pallets c, m => m.palletCall c

end Memory

/-- Tables of which some cannot be reached: every call to these fails before it does anything. -/
structure Site where
  memory : Memory
  down : List TableName
  deriving Inhabited

def Site.handle : Program.Handler Site := fun c s =>
  if s.down.contains c.table then (.error (.database .unavailable), s)
  else
    let (r, m) := Memory.handle c s.memory
    (r, { s with memory := m })

end Depot.Store
