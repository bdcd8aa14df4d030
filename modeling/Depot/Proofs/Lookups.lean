import Depot.Loader.Entities
import Depot.Proofs.Profiles

namespace Depot.Loader

open Store

def Ref.lookUp (ref : Ref) : Program Entity :=
  match ref.name with
  | .users => return .user (← Program.call (.users (.byId ref.key)))
  | .profiles => return .profile (← Program.call (.profiles (.byUser ref.key)))
  | .organizations => return .organization (← Program.call (.organizations (.byId ref.key)))
  | .roles => return .role (← Program.call (.roles (.byId ref.key)))
  | .containers => return .container (← Program.call (.containers (.byId ref.key)))
  | .containerPallets =>
    return .pallets ⟨ref.key, ← Program.call (.pallets (.ofContainer ref.key))⟩

def Result.ofLookup : Except Error Entity → Result Entity
  | .ok e => .ok (some e)
  | .error (.notFound _) => .ok none
  | .error e => .error e

def Ref.answer (m : Memory) (ref : Ref) : Result Entity :=
  Result.ofLookup (ref.lookUp.run Memory.handle m).1

end Depot.Loader

namespace Depot.Store

/-- In each table that is loaded from, rows differ in their keys. -/
structure Memory.Keyed (m : Memory) : Prop where
  users : (m.users.rows.map (·.id)).Nodup
  profiles : (m.profiles.map (·.userId)).Nodup
  organizations : (m.organizations.rows.map (·.id)).Nodup
  roles : (m.roles.rows.map (·.id)).Nodup
  containers : (m.containers.rows.map (·.id)).Nodup

theorem Memory.Keyed.batches {m : Memory} (hm : m.Keyed) (batches : List (BatchName × List Id)) :
    Memory.Keyed { m with batches := batches } :=
  ⟨hm.users, hm.profiles, hm.organizations, hm.roles, hm.containers⟩

end Depot.Store

namespace Depot.Operation

open Store

theorem Run.keyed {s : Accounts.Settings} {es : List Event} {m : Memory} (h : Run s es m) :
    m.Keyed where
  users := h.sound.users.nodup
  profiles := h.attended.nodup
  organizations := h.sound.organizations.nodup
  roles := h.sound.roles.nodup
  containers := h.sound.containers.nodup

end Depot.Operation

namespace Depot.Loader

open Program Store

section Fetches

variable {α : Type} {rows : List α} {keys : List Id} {id : Id}

theorem find?_reverse {key : α → Id} (h : (rows.map key).Nodup) (id : Id) :
    rows.reverse.find? (key · == id) = rows.find? (key · == id) := by
  cases hfind : rows.find? (key · == id) with
  | none =>
    refine List.find?_eq_none.2 fun x hx => ?_
    exact List.find?_eq_none.1 hfind x (List.mem_reverse.1 hx)
  | some x =>
    have hx := List.mem_of_find?_eq_some hfind
    have hkey : key x = id := by simpa using List.find?_some hfind
    cases hback : rows.reverse.find? (key · == id) with
    | none =>
      have hnone := List.find?_eq_none.1 hback x (List.mem_reverse.2 hx)
      exact absurd (beq_iff_eq.2 hkey) hnone
    | some y =>
      have hy := List.mem_reverse.1 (List.mem_of_find?_eq_some hback)
      have hkey' : key y = id := by simpa using List.find?_some hback
      rw [List.inj_on_of_nodup_map h hy hx (hkey'.trans hkey.symm)]

theorem lastValue_fetched {key : α → Id} {row : α → Entity} (h : (rows.map key).Nodup)
    (hid : id ∈ keys) :
    State.lastValue ((rows.filter (keys.contains <| key ·)).map fun a => (key a, row a)) id =
      (rows.find? (key · == id)).map row := by
  have hmany : ∀ a, decide (keys.contains (key a) = true ∧ (key a == id) = true) = (key a == id) := by
    intro a
    by_cases ha : key a = id
    · simp [ha, hid]
    · simp [ha]
  rw [State.lastValue, ← List.map_reverse, List.find?_map, Option.map_map]
  simp only [Function.comp_def]
  rw [find?_reverse (h.sublist (List.filter_sublist.map key)), List.find?_filter]
  simp only [hmany]

theorem lastValue_graph {row : Id → Entity} (hid : id ∈ keys) :
    State.lastValue (keys.map fun k => (k, row k)) id = some (row id) := by
  have hfind : keys.reverse.find? (· == id) = some id := by
    cases hback : keys.reverse.find? (· == id) with
    | none =>
      have hnone := List.find?_eq_none.1 hback id (List.mem_reverse.2 hid)
      exact absurd (beq_self_eq_true id) hnone
    | some k =>
      have hk : k = id := by simpa using List.find?_some hback
      rw [hk]
  rw [State.lastValue, ← List.map_reverse, List.find?_map]
  simp only [Function.comp_def, hfind]
  rfl

theorem filter_content {pallets : List Pallet} (hid : id ∈ keys) :
    (pallets.filter fun x => x.containerId.any keys.contains).filter (·.containerId == some id) =
      pallets.filter (·.containerId == some id) := by
  rw [List.filter_filter]
  apply List.filter_congr
  intro x _
  by_cases hx : x.containerId = some id
  · simp [hx, hid]
  · simp [hx]

end Fetches

variable {m : Memory}

theorem answer_of_find {α : Type} {name : BatchName} {id : Id} {row : α → Entity} {rows : List α}
    {p : α → Bool} {entity : String}
    (h : ((⟨name, id⟩ : Ref).lookUp.run Memory.handle m).1 =
      (Memory.find rows p (.notFound entity)).map row) :
    Ref.answer m ⟨name, id⟩ = .ok ((rows.find? p).map row) := by
  rw [Ref.answer, h, Memory.find]
  cases rows.find? p <;> rfl

theorem run_lookUp_row {c : Call} {row : c.Answer → Entity} (m : Memory) :
    (((call c).bind fun a => .done (row a)).run Memory.handle m).1 =
      (Memory.handle c m).1.map row := by
  rw [run_bind, run_call]
  obtain ⟨r, n⟩ := Memory.handle c m
  cases r <;> rfl

theorem answer_users (m : Memory) (id : Id) :
    Ref.answer m ⟨.users, id⟩ = .ok ((m.users.rows.find? (·.id == id)).map .user) :=
  answer_of_find (run_lookUp_row m)

theorem answer_profiles (m : Memory) (id : Id) :
    Ref.answer m ⟨.profiles, id⟩ = .ok ((m.profiles.find? (·.userId == id)).map .profile) :=
  answer_of_find (run_lookUp_row m)

theorem answer_organizations (m : Memory) (id : Id) :
    Ref.answer m ⟨.organizations, id⟩ =
      .ok ((m.organizations.rows.find? (·.id == id)).map .organization) :=
  answer_of_find (run_lookUp_row m)

theorem answer_roles (m : Memory) (id : Id) :
    Ref.answer m ⟨.roles, id⟩ = .ok ((m.roles.rows.find? (·.id == id)).map .role) :=
  answer_of_find (run_lookUp_row m)

theorem answer_containers (m : Memory) (id : Id) :
    Ref.answer m ⟨.containers, id⟩ = .ok ((m.containers.rows.find? (·.id == id)).map .container) :=
  answer_of_find (run_lookUp_row m)

theorem answer_containerPallets (m : Memory) (id : Id) :
    Ref.answer m ⟨.containerPallets, id⟩ =
      .ok (some (.pallets ⟨id, m.pallets.rows.filter (·.containerId == some id)⟩)) := rfl

theorem answer_batches (m : Memory) (batches : List (BatchName × List Id)) (ref : Ref) :
    Ref.answer { m with batches := batches } ref = Ref.answer m ref := by
  obtain ⟨name, id⟩ := ref
  cases name with
  | users => rw [answer_users, answer_users]
  | profiles => rw [answer_profiles, answer_profiles]
  | organizations => rw [answer_organizations, answer_organizations]
  | roles => rw [answer_roles, answer_roles]
  | containers => rw [answer_containers, answer_containers]
  | containerPallets => rfl

theorem exists_answer (m : Memory) (ref : Ref) : ∃ v, Ref.answer m ref = .ok v := by
  obtain ⟨name, id⟩ := ref
  cases name with
  | users => exact ⟨_, answer_users m id⟩
  | profiles => exact ⟨_, answer_profiles m id⟩
  | organizations => exact ⟨_, answer_organizations m id⟩
  | roles => exact ⟨_, answer_roles m id⟩
  | containers => exact ⟨_, answer_containers m id⟩
  | containerPallets => exact ⟨_, rfl⟩

theorem Ref.found_or_not (ref : Ref) (m : Memory) :
    (∃ row, (ref.lookUp.run Memory.handle m).1 = .ok row ∧ ref.answer m = .ok (some row)) ∨
      ∃ entity, (ref.lookUp.run Memory.handle m).1 = .error (.notFound entity) ∧
        ref.answer m = .ok none := by
  obtain ⟨v, hv⟩ := exists_answer m ref
  rw [Ref.answer] at hv ⊢
  cases hlookup : (ref.lookUp.run Memory.handle m).1 with
  | ok row => exact .inl ⟨row, rfl, rfl⟩
  | error e =>
    rw [hlookup] at hv
    cases e with
    | notFound entity => exact .inr ⟨entity, rfl, rfl⟩
    | _ => cases hv

theorem run_fetch {α : Type} (hb : m.batchesFail = false) (name : BatchName) (keys : List Id)
    (rows : List α) :
    m.fetch name keys rows = (.ok rows, { m with batches := m.batches ++ [(name, keys)] }) := by
  simp [Memory.fetch, hb]

theorem run_bind_of_eq_ok {α β : Type} {p : Program α} {f : α → Program β} {a : α} {n : Memory}
    (h : p.run Memory.handle m = (.ok a, n)) :
    (p.bind f).run Memory.handle m = (f a).run Memory.handle n := by
  rw [run_bind, h]

theorem run_call_map {α : Type} {c : Call} {f : c.Answer → α} {n : Memory} {a : c.Answer}
    (h : Memory.handle c m = (.ok a, n)) :
    ((call c).bind fun a => .done (f a)).run Memory.handle m = (.ok (f a), n) :=
  run_bind_of_eq_ok ((run_call c m).trans h)

theorem run_fetchRows (hm : m.Keyed) (hb : m.batchesFail = false) (name : BatchName)
    (keys : List Id) :
    ∃ rows, (fetchRows name keys).run Memory.handle m =
        (.ok rows, { m with batches := m.batches ++ [(name, keys)] }) ∧
      ∀ id ∈ keys, .ok (State.lastValue rows id) = Ref.answer m ⟨name, id⟩ := by
  cases name with
  | users =>
    refine ⟨_, run_call_map (run_fetch hb .users keys _), fun id hid => ?_⟩
    rw [answer_users]
    exact congrArg Except.ok (lastValue_fetched hm.users hid)
  | profiles =>
    refine ⟨_, run_call_map (run_fetch hb .profiles keys _), fun id hid => ?_⟩
    rw [answer_profiles]
    exact congrArg Except.ok (lastValue_fetched hm.profiles hid)
  | organizations =>
    refine ⟨_, run_call_map (run_fetch hb .organizations keys _), fun id hid => ?_⟩
    rw [answer_organizations]
    exact congrArg Except.ok (lastValue_fetched hm.organizations hid)
  | roles =>
    refine ⟨_, run_call_map (run_fetch hb .roles keys _), fun id hid => ?_⟩
    rw [answer_roles]
    exact congrArg Except.ok (lastValue_fetched hm.roles hid)
  | containers =>
    refine ⟨_, run_call_map (run_fetch hb .containers keys _), fun id hid => ?_⟩
    rw [answer_containers]
    exact congrArg Except.ok (lastValue_fetched hm.containers hid)
  | containerPallets =>
    refine ⟨_, run_call_map (run_fetch hb .containerPallets keys _), fun id hid => ?_⟩
    rw [answer_containerPallets, groupByContainer, List.map_map]
    refine congrArg Except.ok ((lastValue_graph hid).trans ?_)
    exact congrArg (fun xs => some (Entity.pallets ⟨id, xs⟩)) (filter_content hid)

end Depot.Loader
