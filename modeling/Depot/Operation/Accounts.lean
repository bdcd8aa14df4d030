import Depot.Authorization
import Depot.Registration
import Depot.Tenancy
import Depot.Token.Claims

namespace Depot.Operation.Accounts

open Store Program

/-- The secret that tokens are signed with, the seconds that they last, and the work factor of
password hashes. -/
structure Settings where
  secret : String
  ttl : Int
  hashCost : Int
  deriving Repr, DecidableEq, Inhabited

/-- The kind of user that a login route is for. -/
inductive Door where
  | admin
  | member
  | customer
  deriving Repr, DecidableEq, Inhabited

def Door.admits : Door → User → Bool
  | .admin, u => u.isAdmin
  | .member, u => u.isMember
  | .customer, u => u.isCustomer

structure Session where
  principal : Principal
  token : String
  deriving Repr, DecidableEq, Inhabited

def Session.toJson (s : Session) : Json :=
  .obj [("auther", s.principal.flags.toJson), ("token", .str s.token)]

/-- Looks a user up by the e-mail address if one is given, else by the phone. -/
def findUser (c : Credentials) : Program User :=
  match Text.nonBlank? c.email with
  | some email => call (.users (.byEmail (normalizeEmail email)))
  | none =>
    match c.phone.filter (!·.isEmpty) with
    | some phone => call (.users (.byPhone phone))
    | none => throw (.badRequest "email or phone is required")

def wrongPassword : Error := .badRequest "wrong password"

def checkPassword (password : String) (u : User) : Except Error Unit := do
  let right ← Password.verify password u.passwordHash
  if right then .ok () else .error wrongPassword

/-- A user of another kind than the door's is answered like nobody at all. -/
def login (s : Settings) (now : Int) (door : Door) (c : Credentials) : Program Session := do
  let u ← findUser c
  if !door.admits u then
    throw .noUser
  checkPassword c.password u
  let p ← u.principal
  let token ← Token.issue s.secret s.ttl now p
  pure ⟨p, token⟩

/-- The account of a registration, with its texts trimmed, the address in its canonical form, and a
hash in place of the password. -/
def account (s : Settings) (r : Registration) : Except Error NewAccount := do
  let hash ← Password.hash s.hashCost r.password
  pure ⟨Text.trim r.firstName, Text.trim r.lastName, normalizeEmail r.email, Text.trim r.phone, hash⟩

def registerAdmin (s : Settings) (r : Registration) : Program User := do
  let a ← account s r
  call (.users (.insert ⟨a, .admin⟩))

def registerCustomer (s : Settings) (r : Registration) : Program (User × Profile) := do
  let a ← account s r
  call (.users (.insertCustomer a))

/-- A member's organization is the caller's own unless an administrator names it, the role must
belong to it, and only who administers may hand out a role that does. -/
def registerMember (s : Settings) (p : Principal) (r : MemberRegistration) : Program User := do
  let organization ← p.owningTenant r.organizationId
  let _ ← call (.organizations (.byId organization))
  let role ← call (.roles (.byId r.roleId))
  if role.organizationId ≠ organization then
    throw (.badRequest "role does not belong to the organization")
  if role.isOrgAdmin then
    let administers ← Authorization.administers p
    if !administers then
      throw .notPermitted
  let a ← account s r.account
  call (.users (.insert ⟨a, .member organization role.id⟩))

def registerOrganization (s : Settings) (r : OrganizationRegistration) :
    Program (Organization × Role × User) := do
  let a ← account s r.owner
  call (.organizations (.register ⟨Text.trim r.name, Text.nonBlank? r.website⟩ a))

/-- The old password is checked before anything is said about the new one. -/
def changePassword (s : Settings) (p : Principal) (old new : String) : Program Unit := do
  let u ← call (.users (.byId p.id))
  checkPassword old u
  if (Text.utf8 new).length < 6 then
    throw (.badRequest "password must have at least 6 characters")
  if old = new then
    throw (.badRequest "new password must be different from the current one")
  let hash ← Password.hash s.hashCost new
  call (.users (.updatePassword u.id hash))

/-- Creates the platform's administrator unless the address is taken. -/
def seedAdmin (s : Settings) (email phone password : String) : Program (Option User) :=
  .ask (.users (.byEmail (normalizeEmail email))) fun
    | .ok _ => pure none
    | .error (.notFound _) => do
      let u ← registerAdmin s ⟨"Super", "Admin", email, phone, password⟩
      pure (some u)
    | .error e => throw e

end Depot.Operation.Accounts
