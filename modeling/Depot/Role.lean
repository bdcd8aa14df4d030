import Depot.Json
import Depot.Permission
import Depot.Principal
import Depot.Uid

namespace Depot

structure Role where
  id : Id
  code : String
  name : String
  permissions : List String
  isOrgAdmin : Bool
  isArchived : Bool
  organizationId : Id
  createdAt : Timestamp
  updatedAt : Timestamp
  deriving Repr, DecidableEq, Inhabited

structure NewRole where
  name : String
  permissions : List String
  isOrgAdmin : Bool
  organizationId : Id
  deriving Repr, DecidableEq, Inhabited

namespace Role

def ownerName : String := "Org Admin"

/-- An organization's administrator may do everything, any other role what it lists by name. -/
def grants (r : Role) (p : Permission) : Bool :=
  r.isOrgAdmin || r.permissions.any (· == p.name)

def toJson (r : Role) : Json :=
  .obj [("id", .int r.id), ("code", .str r.code), ("name", .str r.name),
    ("permissions", Json.ofList .str r.permissions), ("isOrgAdmin", .bool r.isOrgAdmin),
    ("isArchived", .bool r.isArchived), ("organizationId", .int r.organizationId),
    ("createdAt", .str r.createdAt.text), ("updatedAt", .str r.updatedAt.text)]

end Role

end Depot
