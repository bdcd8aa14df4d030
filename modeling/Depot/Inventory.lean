import Depot.Json
import Depot.Principal
import Depot.Uid

namespace Depot

structure Container where
  id : Id
  uid : Uid
  code : String
  description : Option String
  isArchived : Bool
  organizationId : Option Id
  createdById : Id
  createdAt : Timestamp
  updatedAt : Timestamp
  deriving Repr, DecidableEq, Inhabited

structure NewContainer where
  description : Option String
  organizationId : Id
  createdById : Id
  deriving Repr, DecidableEq, Inhabited

structure Pallet where
  id : Id
  uid : Uid
  code : String
  description : Option String
  isArchived : Bool
  organizationId : Option Id
  containerId : Option Id
  createdById : Id
  createdAt : Timestamp
  updatedAt : Timestamp
  deriving Repr, DecidableEq, Inhabited

structure NewPallet where
  description : Option String
  organizationId : Id
  containerId : Option Id
  createdById : Id
  deriving Repr, DecidableEq, Inhabited

/-- The pallets that stand in one container. -/
structure ContainerPallets where
  containerId : Id
  pallets : List Pallet
  deriving Repr, DecidableEq, Inhabited

def Container.toJson (c : Container) : Json :=
  .obj [("id", .int c.id), ("uid", .str c.uid.text), ("code", .str c.code),
    ("description", Json.ofOption .str c.description), ("isArchived", .bool c.isArchived),
    ("organizationId", Json.ofOption .int c.organizationId), ("createdById", .int c.createdById),
    ("createdAt", .str c.createdAt.text), ("updatedAt", .str c.updatedAt.text)]

def Pallet.toJson (p : Pallet) : Json :=
  .obj [("id", .int p.id), ("uid", .str p.uid.text), ("code", .str p.code),
    ("description", Json.ofOption .str p.description), ("isArchived", .bool p.isArchived),
    ("organizationId", Json.ofOption .int p.organizationId),
    ("containerId", Json.ofOption .int p.containerId), ("createdById", .int p.createdById),
    ("createdAt", .str p.createdAt.text), ("updatedAt", .str p.updatedAt.text)]

end Depot
