import Depot.Store.Memory

namespace Depot.Store.Memory

def addOrganization (m : Memory) (name : String) : Organization × Memory :=
  let row := organizationRow m.organizations.nextId ⟨name, none⟩ m.clock
  (row, { m with organizations := m.organizations.insert row })

def numberedAccount (n : Nat) : NewAccount :=
  ⟨"User" ++ toString n, "Test", "user" ++ toString n ++ "@example.com", "+55110000" ++ padded 4 n,
    .text ""⟩

def addUser (m : Memory) (kind : Kind) : Except Error User × Memory :=
  m.insertUser (numberedAccount (m.users.sequence + 1)) kind

def orphanContainer (m : Memory) (id : Id) : Memory :=
  let change (row : Container) : Container :=
    if row.id == id then { row with organizationId := none } else row
  { m with containers := { m.containers with rows := m.containers.rows.map change } }

def orphanPallet (m : Memory) (id : Id) : Memory :=
  let change (row : Pallet) : Pallet :=
    if row.id == id then { row with organizationId := none } else row
  { m with pallets := { m.pallets with rows := m.pallets.rows.map change } }

/-- All tables; of the profiles only those of users that there are. -/
def toJson (m : Memory) : Json :=
  .obj [("organizations", Json.ofList Organization.toJson m.organizations.rows),
    ("roles", Json.ofList Role.toJson m.roles.rows), ("users", Json.ofList User.toJson m.users.rows),
    ("profiles", Json.ofList Profile.toJson (m.users.rows.filterMap fun u =>
      m.profiles.find? (·.userId == u.id))),
    ("containers", Json.ofList Container.toJson m.containers.rows),
    ("pallets", Json.ofList Pallet.toJson m.pallets.rows)]

end Depot.Store.Memory
