import Depot.Proofs.Ownership
import Depot.Proofs.Program

namespace Depot.Store

def Call.IsRead : Call → Prop
  | .organizations (.byId _) | .organizations (.byCode _) | .organizations (.many _)
  | .organizations .list => True
  | .roles (.byId _) | .roles (.byCode _) | .roles (.many _) | .roles .list
  | .roles (.ofOrganization _) => True
  | .users (.byId _) | .users (.byEmail _) | .users (.byPhone _) | .users (.many _)
  | .users (.list _) | .users (.ofOrganization _) => True
  | .profiles _ => True
  | .containers (.byId _) | .containers (.byUid _) | .containers (.byCode _) | .containers (.many _)
  | .containers .list | .containers (.ofOrganization _) => True
  | .pallets (.byId _) | .pallets (.byUid _) | .pallets (.byCode _) | .pallets .list
  | .pallets (.ofOrganization _) | .pallets (.ofContainer _) | .pallets (.ofContainers _) => True
  | _ => False

def Call.IsLookup : Call → Prop
  | .organizations (.many _) | .roles (.many _) | .users (.many _) | .profiles (.many _)
  | .containers (.many _) | .pallets (.ofContainers _) => False
  | c => c.IsRead

theorem Call.IsLookup.isRead {c : Call} (h : c.IsLookup) : c.IsRead := by
  unfold IsLookup at h
  split at h
  all_goals first
    | exact h
    | exact h.elim

end Depot.Store

namespace Depot.Operation

open Program Store

/-- Everything that can be asked for: the open operations, the accounts of administrators, and what
a principal asks for. -/
inductive Act where
  | seedAdmin (email phone password : String)
  | registerAdmin (r : Registration)
  | registerCustomer (r : Registration)
  | registerOrganization (r : OrganizationRegistration)
  | registerMember (p : Principal) (r : MemberRegistration)
  | login (now : Int) (door : Accounts.Door) (c : Credentials)
  | job (p : Principal) (j : Job)

/-- What an act gives back: rows, and the session of a login. -/
structure Reply where
  rows : List Row
  session : Option Accounts.Session
  deriving DecidableEq

def Value.rows : Value → List Row
  | .done => []
  | .row r => [r]
  | .page _ rows => rows

namespace Act

def caller? : Act → Option Principal
  | .registerMember p _ | .job p _ => some p
  | _ => none

def perform (s : Accounts.Settings) : Act → Program Reply
  | .seedAdmin email phone password => do
    let u ← Accounts.seedAdmin s email phone password
    pure ⟨(u.map Row.user).toList, none⟩
  | .registerAdmin r => do
    let u ← Accounts.registerAdmin s r
    pure ⟨[.user u], none⟩
  | .registerCustomer r => do
    let (u, q) ← Accounts.registerCustomer s r
    pure ⟨[.user u, .profile q], none⟩
  | .registerOrganization r => do
    let (o, role, u) ← Accounts.registerOrganization s r
    pure ⟨[.organization o, .role role, .user u], none⟩
  | .registerMember p r => do
    let u ← Accounts.registerMember s p r
    pure ⟨[.user u], none⟩
  | .login now door c => do
    let t ← Accounts.login s now door c
    pure ⟨[], some t⟩
  | .job p j => do
    let v ← j.perform s p
    pure ⟨v.rows, none⟩

end Act

section

variable (s : Accounts.Settings) (seen : List Memory)

/-- The writes of an operation that a principal asks for. -/
inductive Job.Licensed (p : Principal) : Job → Call → Prop
  | organizationUpdate {o : Organization} {name : String} {website : Option String}
    (hname : ¬ Text.isBlankText name) (ho : p.Granted seen (.organization o)) :
    Licensed p (.organizationUpdate o.id name website)
      (.organizations (.update { o with name := Text.trim name, website := website }))
  | organizationArchive {o : Organization} {archived : Bool} (harchived : o.isArchived ≠ archived)
    (ho : p.Granted seen (.organization o)) :
    Licensed p (.organizationArchive o.id archived)
      (.organizations (.update { o with isArchived := archived }))
  | organizationDelete {id : Id} (hp : p.isAdmin) :
    Licensed p (.organizationDelete id) (.organizations (.delete id))
  | roleCreate {c : Roles.Creation} {own : Id} (hname : ¬ Text.isBlankText c.name)
    (hpermissions : c.isOrgAdmin = false → Permission.known c.permissions ≠ [])
    (howner : p.owningTenant c.organizationId = .ok own)
    (hadmin : p.isAdmin → ∃ o, Stored seen (.organization o) ∧ o.id = own)
    (hadministers : c.isOrgAdmin → p.Administers seen) :
    Licensed p (.roleCreate c)
      (.roles (.insert ⟨Text.trim c.name,
        if c.isOrgAdmin then [] else Permission.known c.permissions, c.isOrgAdmin, own⟩))
  | roleUpdate {c : Roles.Change} {r : Role} (hname : ¬ Text.isBlankText c.name)
    (hpermissions : c.permissions ≠ []) (hr : p.Granted seen (.role r)) (hid : r.id = c.id) :
    Licensed p (.roleUpdate c)
      (.roles (.update
        { r with
          name := Text.trim c.name
          permissions := if r.isOrgAdmin then r.permissions else Permission.known c.permissions
          isArchived := c.isArchived }))
  | roleDelete {id : Id} (hp : p.isAdmin) : Licensed p (.roleDelete id) (.roles (.delete id))
  | userUpdate {u : User} {c : Users.Change} (hu : p.Granted seen (.user u)) :
    Licensed p (.userUpdate u.id c) (.users (.update (c.apply u)))
  | userDelete {id : Id} (hp : p.isAdmin) : Licensed p (.userDelete id) (.users (.delete id))
  | changePassword {u : User} {old new : String} {hash : PasswordHash} (hu : Stored seen (.user u))
    (hid : u.id = p.id) (hold : Accounts.checkPassword old u = .ok ())
    (hlength : 6 ≤ (Text.utf8 new).length) (hnew : old ≠ new)
    (hhash : Password.hash s.hashCost new = .ok hash) :
    Licensed p (.changePassword old new) (.users (.updatePassword u.id hash))
  | containerCreate {c : Containers.Creation} {own : Id}
    (howner : p.owningTenant c.organizationId = .ok own) :
    Licensed p (.containerCreate c) (.containers (.insert ⟨c.description, own, p.id⟩))
  | containerUpdate {c : Container} {description : Option String}
    (hc : p.Granted seen (.container c)) :
    Licensed p (.containerUpdate c.id description)
      (.containers (.update { c with description := description }))
  | containerArchive {c : Container} {archived : Bool} (harchived : c.isArchived ≠ archived)
    (hc : p.Granted seen (.container c)) :
    Licensed p (.containerArchive c.id archived)
      (.containers (.update { c with isArchived := archived }))
  | containerDelete {id : Id} (hp : p.isAdmin) :
    Licensed p (.containerDelete id) (.containers (.delete id))
  | palletCreate {c : Pallets.Creation} {own : Id}
    (howner : p.owningTenant c.organizationId = .ok own)
    (hcontainer : ∀ id, c.containerId = some id →
      ∃ x, Stored seen (.container x) ∧ x.id = id ∧ x.organizationId = some own) :
    Licensed p (.palletCreate c)
      (.pallets (.insert ⟨c.description, own, c.containerId, p.id⟩))
  | palletUpdate {c : Pallets.Change} {x : Pallet} (hx : p.Granted seen (.pallet x))
    (hid : x.id = c.id)
    (hcontainer : ∀ id own, c.containerId ≠ x.containerId → c.containerId = some id →
      x.organizationId = some own →
      ∃ y, Stored seen (.container y) ∧ y.id = id ∧ y.organizationId = some own) :
    Licensed p (.palletUpdate c)
      (.pallets (.update { x with description := c.description, containerId := c.containerId }))
  | palletArchive {x : Pallet} {archived : Bool} (harchived : x.isArchived ≠ archived)
    (hx : p.Granted seen (.pallet x)) :
    Licensed p (.palletArchive x.id archived) (.pallets (.update { x with isArchived := archived }))
  | palletDelete {id : Id} (hp : p.isAdmin) : Licensed p (.palletDelete id) (.pallets (.delete id))

/-- The calls of an act: it may read whatever it likes. -/
inductive Act.Licensed : Act → Call → Prop
  | read {a : Act} {c : Call} (hc : c.IsRead) : Licensed a c
  | seedAdmin {email phone password : String} {account : NewAccount}
    (haccount : Accounts.account s ⟨"Super", "Admin", email, phone, password⟩ = .ok account) :
    Licensed (.seedAdmin email phone password) (.users (.insert ⟨account, .admin⟩))
  | registerAdmin {r : Registration} {account : NewAccount}
    (haccount : Accounts.account s r = .ok account) :
    Licensed (.registerAdmin r) (.users (.insert ⟨account, .admin⟩))
  | registerCustomer {r : Registration} {account : NewAccount}
    (haccount : Accounts.account s r = .ok account) :
    Licensed (.registerCustomer r) (.users (.insertCustomer account))
  | registerOrganization {r : OrganizationRegistration} {account : NewAccount}
    (haccount : Accounts.account s r.owner = .ok account) :
    Licensed (.registerOrganization r)
      (.organizations (.register ⟨Text.trim r.name, Text.nonBlank? r.website⟩ account))
  | registerMember {p : Principal} {r : MemberRegistration} {own : Id} {role : Role}
    {account : NewAccount} (howner : p.owningTenant r.organizationId = .ok own)
    (ho : ∃ o, Stored seen (.organization o) ∧ o.id = own) (hrole : Stored seen (.role role))
    (hid : role.id = r.roleId) (horganization : role.organizationId = own)
    (hadministers : role.isOrgAdmin → p.Administers seen)
    (haccount : Accounts.account s r.account = .ok account) :
    Licensed (.registerMember p r) (.users (.insert ⟨account, .member own role.id⟩))
  | job {p : Principal} {j : Job} {c : Call} (hj : j.Licensed s seen p c) : Licensed (.job p j) c

end

end Depot.Operation
