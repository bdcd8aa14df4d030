import Depot.Json
import Depot.Principal
import Depot.Uid

namespace Depot

structure Organization where
  id : Id
  code : String
  name : String
  website : Option String
  isArchived : Bool
  createdAt : Timestamp
  updatedAt : Timestamp
  deriving Repr, DecidableEq, Inhabited

structure NewOrganization where
  name : String
  website : Option String
  deriving Repr, DecidableEq, Inhabited

def Organization.toJson (o : Organization) : Json :=
  .obj [("id", .int o.id), ("code", .str o.code), ("name", .str o.name),
    ("website", Json.ofOption .str o.website), ("isArchived", .bool o.isArchived),
    ("createdAt", .str o.createdAt.text), ("updatedAt", .str o.updatedAt.text)]

end Depot
