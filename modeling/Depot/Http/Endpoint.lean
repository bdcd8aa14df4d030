import Depot.Operation.Accounts

namespace Depot.Http

open Operation

inductive Endpoint where
  | health
  | document
  | permissions
  | login (door : Accounts.Door)
  | registerAdmin
  | registerMember
  | registerCustomer
  | registerOrganization
  | logout
  | console
  | query
  deriving Repr, DecidableEq, Inhabited

namespace Endpoint

def all : List Endpoint :=
  [.health, .document, .permissions, .login .admin, .login .member, .login .customer,
    .registerAdmin, .registerMember, .registerCustomer, .registerOrganization, .logout, .console,
    .query]

def path : Endpoint → String
  | health => "/api/health"
  | document => "/api/docs/openapi.json"
  | permissions => "/api/auth/permissions"
  | login .admin => "/api/auth/admin/login"
  | login .member => "/api/auth/member/login"
  | login .customer => "/api/auth/customer/login"
  | registerAdmin => "/api/auth/admin/register"
  | registerMember => "/api/auth/member/register"
  | registerCustomer => "/api/auth/customer/register"
  | registerOrganization => "/api/auth/organization/register"
  | logout => "/api/auth/logout"
  | console => "/api/gql"
  | query => "/api/gql/query"

def isPost : Endpoint → Bool
  | login _ | registerAdmin | registerMember | registerCustomer | registerOrganization | query => true
  | health | document | permissions | logout | console => false

/-- What can be fetched can also be asked for its head alone. -/
def answers (e : Endpoint) (method : String) : Bool :=
  if e.isPost then method == "POST" else method == "GET" || method == "HEAD"

def ofPath? (path : String) : Option Endpoint := all.find? (·.path == path)

end Endpoint

end Depot.Http
