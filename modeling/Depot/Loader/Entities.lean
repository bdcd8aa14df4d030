import Depot.Loader
import Depot.Store.Memory

namespace Depot.Loader

open Store

/-- A row that was loaded by its key; the pallets of a container are loaded by the container's. -/
inductive Entity where
  | user (u : User)
  | profile (p : Profile)
  | organization (o : Organization)
  | role (r : Role)
  | container (c : Container)
  | pallets (g : ContainerPallets)
  deriving Repr, DecidableEq

def Entity.toJson : Entity → Json
  | .user u => u.toJson
  | .profile p => p.toJson
  | .organization o => o.toJson
  | .role r => r.toJson
  | .container c => c.toJson
  | .pallets g =>
    .obj [("containerId", .int g.containerId), ("pallets", Json.ofList Pallet.toJson g.pallets)]

/-- A key of one of the loaders. -/
structure Ref where
  name : BatchName
  key : Id
  deriving Repr, DecidableEq, Inhabited

/-- The pallets of each container that was asked for, none where there are none. -/
def groupByContainer (containers : List Id) (pallets : List Pallet) : List ContainerPallets :=
  containers.map fun id => ⟨id, pallets.filter (·.containerId == some id)⟩

def fetchRows (name : BatchName) (keys : List Id) : Program (List (Id × Entity)) :=
  match name with
  | .users => return (← Program.call (.users (.many keys))).map fun u => (u.id, .user u)
  | .profiles => return (← Program.call (.profiles (.many keys))).map fun p => (p.userId, .profile p)
  | .organizations =>
    return (← Program.call (.organizations (.many keys))).map fun o => (o.id, .organization o)
  | .roles => return (← Program.call (.roles (.many keys))).map fun r => (r.id, .role r)
  | .containers =>
    return (← Program.call (.containers (.many keys))).map fun c => (c.id, .container c)
  | .containerPallets =>
    return (groupByContainer keys (← Program.call (.pallets (.ofContainers keys)))).map fun g =>
      (g.containerId, .pallets g)

/-- The loaders of one request. -/
structure Loaders where
  users : State Entity
  profiles : State Entity
  organizations : State Entity
  roles : State Entity
  containers : State Entity
  containerPallets : State Entity

namespace Loaders

def empty : Loaders := ⟨.empty, .empty, .empty, .empty, .empty, .empty⟩

def get (l : Loaders) : BatchName → State Entity
  | .users => l.users
  | .profiles => l.profiles
  | .organizations => l.organizations
  | .roles => l.roles
  | .containers => l.containers
  | .containerPallets => l.containerPallets

def set (l : Loaders) (name : BatchName) (s : State Entity) : Loaders :=
  match name with
  | .users => { l with users := s }
  | .profiles => { l with profiles := s }
  | .organizations => { l with organizations := s }
  | .roles => { l with roles := s }
  | .containers => { l with containers := s }
  | .containerPallets => { l with containerPallets := s }

/-- A round under way: the batches that are closed, in that order, and the answers so far. -/
structure Round where
  loaders : Loaders
  closed : List (BatchName × Batch)
  answers : List (Nat × Result Entity)

def Round.load (c : Config) (r : Round) (number : Nat) (ref : Ref) : Round :=
  let l := (r.loaders.get ref.name).load c number ref.key
  { loaders := r.loaders.set ref.name l.state
    closed := r.closed ++ l.closed.toList.map fun b => (ref.name, b)
    answers := r.answers ++ l.answer.toList.map fun v => (number, .ok v) }

def Round.close (r : Round) (name : BatchName) : Round :=
  let s := r.loaders.get name
  match s.pending with
  | none => r
  | some b =>
    { r with
      loaders := r.loaders.set name { s with pending := none }
      closed := r.closed ++ [(name, b)] }

def Round.fetch (r : Round) (name : BatchName) (b : Batch) : Program Round := do
  let outcome ← (fetchRows name b.keys).attempt
  let (s, answers) := (r.loaders.get name).settle b (match outcome with
    | .ok rows => .rows rows
    | .error e => .failed e)
  pure { r with loaders := r.loaders.set name s, answers := r.answers ++ answers }

def Round.fetchAll (r : Round) : List (BatchName × Batch) → Program Round
  | [] => pure r
  | (name, b) :: rest => do
    let r ← r.fetch name b
    r.fetchAll rest

def Round.answer (r : Round) (number : Nat) : Result Entity :=
  match r.answers.find? (·.1 == number) with
  | some (_, result) => result
  | none => .error State.dropped

def loadAll (c : Config) (l : Loaders) (refs : List Ref) :
    Program (Loaders × List (Result Entity)) := do
  let numbers := List.range refs.length
  let r := (numbers.zip refs).foldl (fun r (n, ref) => r.load c n ref) ⟨l, [], []⟩
  let r := BatchName.all.foldl Round.close r
  let r ← r.fetchAll r.closed
  pure (r.loaders, numbers.map r.answer)

end Loaders

end Depot.Loader
