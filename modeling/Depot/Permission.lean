namespace Depot

inductive Action where
  | create
  | read
  | update
  | delete
  deriving Repr, DecidableEq, Inhabited

inductive Subject where
  | organization
  | role
  | user
  | categoryOne
  | categoryTwo
  | sku
  | order
  | contract
  | distributor
  | container
  | pallet
  | carton
  | product
  | task
  | purchaseRecord
  | consumerOrder
  | trackAction
  deriving Repr, DecidableEq, Inhabited

def Action.name : Action → String
  | .create => "Create"
  | .read => "Read"
  | .update => "Update"
  | .delete => "Delete"

def Subject.name : Subject → String
  | .organization => "Organization"
  | .role => "Role"
  | .user => "User"
  | .categoryOne => "Category One"
  | .categoryTwo => "Category Two"
  | .sku => "SKU"
  | .order => "Order"
  | .contract => "Contract"
  | .distributor => "Distributor"
  | .container => "Container"
  | .pallet => "Pallet"
  | .carton => "Carton"
  | .product => "Product"
  | .task => "Task"
  | .purchaseRecord => "Purchase Record"
  | .consumerOrder => "Consumer Order"
  | .trackAction => "Track Action"

/-- Something that a role may allow. Nobody is granted the creation of organizations: they register
themselves. -/
structure Permission where
  action : Action
  subject : Subject
  grantable : ¬(action = .create ∧ subject = .organization) := by decide
  deriving DecidableEq

namespace Permission

def name (p : Permission) : String := p.action.name ++ " " ++ p.subject.name

def readOrganization : Permission := { action := .read, subject := .organization }

def updateOrganization : Permission := { action := .update, subject := .organization }

def deleteOrganization : Permission := { action := .delete, subject := .organization }

def createRole : Permission := { action := .create, subject := .role }

def readRole : Permission := { action := .read, subject := .role }

def updateRole : Permission := { action := .update, subject := .role }

def deleteRole : Permission := { action := .delete, subject := .role }

def createUser : Permission := { action := .create, subject := .user }

def readUser : Permission := { action := .read, subject := .user }

def updateUser : Permission := { action := .update, subject := .user }

def deleteUser : Permission := { action := .delete, subject := .user }

def createContainer : Permission := { action := .create, subject := .container }

def readContainer : Permission := { action := .read, subject := .container }

def updateContainer : Permission := { action := .update, subject := .container }

def deleteContainer : Permission := { action := .delete, subject := .container }

def createPallet : Permission := { action := .create, subject := .pallet }

def readPallet : Permission := { action := .read, subject := .pallet }

def updatePallet : Permission := { action := .update, subject := .pallet }

def deletePallet : Permission := { action := .delete, subject := .pallet }

def onSubject (s : Subject) (h : s ≠ .organization) : List Permission :=
  [⟨.create, s, fun c => h c.2⟩, ⟨.read, s, fun c => h c.2⟩, ⟨.update, s, fun c => h c.2⟩,
    ⟨.delete, s, fun c => h c.2⟩]

def catalog : List Permission :=
  [readOrganization, updateOrganization, deleteOrganization] ++
  onSubject .role (by decide) ++ onSubject .user (by decide) ++
  onSubject .categoryOne (by decide) ++ onSubject .categoryTwo (by decide) ++
  onSubject .sku (by decide) ++ onSubject .order (by decide) ++ onSubject .contract (by decide) ++
  onSubject .distributor (by decide) ++ onSubject .container (by decide) ++
  onSubject .pallet (by decide) ++ onSubject .carton (by decide) ++
  onSubject .product (by decide) ++ onSubject .task (by decide) ++
  onSubject .purchaseRecord (by decide) ++ onSubject .consumerOrder (by decide) ++
  onSubject .trackAction (by decide)

def names : List String := catalog.map name

def ofName? (s : String) : Option Permission := catalog.find? (·.name == s)

def distinct (requested : List String) : List String := requested.eraseDups

/-- The distinct names that the catalog knows, in the order of the request. -/
def known (requested : List String) : List String :=
  (distinct requested).filter (fun s => names.contains s)

end Permission

end Depot
