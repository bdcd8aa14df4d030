import Depot.Proofs.Edits

namespace Depot.Store

variable {α : Type} [Record α]

open Record

def Table.replace (t : Table α) (v : α) : Table α :=
  ⟨t.rows.map fun w => if key w = key v then v else w, t.sequence⟩

namespace Table

variable {t : Table α} {u v w : α}

theorem replace_self (hs : t.Sound) (hv : v ∈ t.rows) : t.replace v = t := by
  have hrows : (t.rows.map fun w => if key w = key v then v else w) = t.rows := by
    refine (List.map_congr_left fun w hw => ?_).trans (List.map_id t.rows)
    split
    · rename_i hkey
      exact hs.eq_of_key hv hw hkey.symm
    · rfl
  rw [replace, hrows]

theorem replace_replace (hkey : key w = key v) : (t.replace v).replace w = t.replace w := by
  have hrows : ∀ u : α, (if key (if key u = key v then v else u) = key w then w
      else if key u = key v then v else u) = if key u = key w then w else u := by
    intro u
    rw [hkey]
    by_cases hu : key u = key v
    · simp [hu]
    · simp [hu]
  simp only [replace, List.map_map, Function.comp_def, hrows]

theorem modifyFirst?_eq_replace {g : α → α} (hs : t.Sound) (hu : u ∈ t.rows) (hkey : key v = key u)
    (hg : g u = v) :
    modifyFirst? (key · == key v) g t.rows = some (v, (t.replace v).rows) := by
  have hrows : (t.rows.map fun w => if key w = key u then g w else w) = (t.replace v).rows := by
    refine List.map_congr_left fun w hw => ?_
    rw [hkey]
    split
    · rename_i hsame
      rw [hs.eq_of_key hw hu hsame, hg]
    · rfl
  rw [hkey, modifyFirst?_eq_map hs.nodup hu, hg, hrows]

end Table

end Depot.Store

namespace Depot.Operation

def Row.archived? : Row → Option Bool
  | .organization o => some o.isArchived
  | .container c => some c.isArchived
  | .pallet x => some x.isArchived
  | _ => none

variable {row : Row} {archived : Bool}

theorem Row.archived?_archived (h : row.archived? ≠ none) :
    (row.archived archived).archived? = some archived := by
  cases row
  all_goals first
    | rfl
    | exact absurd rfl h

theorem Row.archived_key (row : Row) (archived : Bool) : (row.archived archived).key = row.key := by
  cases row <;> rfl

theorem Row.archived_archived {b : Bool} (h : row.archived? = some b) :
    (row.archived archived).archived b = row := by
  cases row
  all_goals first
    | cases h
      rfl
    | cases h

theorem Row.owns_archived {p : Principal} (h : p.Owns row) : p.Owns (row.archived archived) := by
  obtain ⟨id, kind⟩ := p
  cases kind <;> cases row <;> exact h

end Depot.Operation

namespace Depot.Store

open Operation

def Memory.withRow (m : Memory) : Row → Memory
  | .organization o => { m with organizations := m.organizations.replace o }
  | .container c => { m with containers := m.containers.replace c }
  | .pallet x => { m with pallets := m.pallets.replace x }
  | _ => m

/-- A number that has been given out already, if the key is that of a row with a flag. -/
def Memory.Numbered (m : Memory) : RowType × Id → Prop
  | (.organization, id) => id ≤ m.organizations.sequence
  | (.container, id) => id ≤ m.containers.sequence
  | (.pallet, id) => id ≤ m.pallets.sequence
  | _ => True

theorem Call.put?_of_changed {c : Call} {row : Row} {id : Id}
    (h : c.footprint row.key.1 = .changed id) (hflag : row.archived? ≠ none) : c.put? ≠ none := by
  cases c with
  | organizations c | roles c | users c | profiles c | containers c | pallets c =>
    cases c <;> cases row
    all_goals first
      | exact absurd rfl hflag
      | cases h <;> exact nofun

namespace Memory

variable {m n : Memory} {row old : Row} {key : RowType × Id}

theorem withRow_self (hs : m.Sound) (h : m.Holds row) : m.withRow row = m := by
  cases row with
  | organization o => simp only [withRow, Table.replace_self hs.organizations h]
  | container c => simp only [withRow, Table.replace_self hs.containers h]
  | pallet x => simp only [withRow, Table.replace_self hs.pallets h]
  | role | user | profile => rfl

theorem withRow_archived_withRow (archived : Bool) :
    (m.withRow (row.archived archived)).withRow row = m.withRow row := by
  cases row with
  | organization o =>
    exact congrArg (fun t => { m with organizations := t })
      (Table.replace_replace (v := { o with isArchived := archived }) (w := o) rfl)
  | container c =>
    exact congrArg (fun t => { m with containers := t })
      (Table.replace_replace (v := { c with isArchived := archived }) (w := c) rfl)
  | pallet x =>
    exact congrArg (fun t => { m with pallets := t })
      (Table.replace_replace (v := { x with isArchived := archived }) (w := x) rfl)
  | role | user | profile => rfl

theorem withRow_clock (now : Timestamp) :
    ({ m with clock := now } : Memory).withRow row = { m.withRow row with clock := now } := by
  cases row <;> rfl

theorem holds_withRow_archived (h : m.Holds row) (archived : Bool) :
    (m.withRow (row.archived archived)).Holds (row.archived archived) := by
  cases row with
  | organization | container | pallet => exact List.mem_map.2 ⟨_, h, if_pos rfl⟩
  | role | user | profile => exact h

theorem of_holds_withRow (hflag : old.archived? ≠ none) (h : (m.withRow old).Holds row) :
    row = old ∨ m.Holds row ∧ row.key ≠ old.key := by
  have split {α : Type} [Record α] {t : Table α} {v w : α} (hw : w ∈ (t.replace v).rows) :
      w = v ∨ w ∈ t.rows ∧ Record.key w ≠ Record.key v := by
    obtain ⟨u, hu, rfl⟩ := List.mem_map.1 hw
    split
    · exact .inl rfl
    · rename_i hne
      exact .inr ⟨hu, hne⟩
  cases old with
  | organization o =>
    cases row with
    | organization o' =>
      exact (split h).imp (congrArg _) fun h => ⟨h.1, fun hkey => h.2 (congrArg Prod.snd hkey)⟩
    | _ => exact .inr ⟨h, nofun⟩
  | container c =>
    cases row with
    | container c' =>
      exact (split h).imp (congrArg _) fun h => ⟨h.1, fun hkey => h.2 (congrArg Prod.snd hkey)⟩
    | _ => exact .inr ⟨h, nofun⟩
  | pallet x =>
    cases row with
    | pallet x' =>
      exact (split h).imp (congrArg _) fun h => ⟨h.1, fun hkey => h.2 (congrArg Prod.snd hkey)⟩
    | _ => exact .inr ⟨h, nofun⟩
  | role | user | profile => exact absurd rfl hflag

theorem holds_iff_mem : m.Holds row ↔ row ∈ m.rowsOf row.key.1 := by
  cases row <;> simp [Holds, rowsOf, Row.key]

theorem numbered_of_holds (hs : m.Sound) (h : m.Holds row) : m.Numbered row.key := by
  cases row with
  | organization o => exact (hs.organizations.bounds o h).2
  | container c => exact (hs.containers.bounds c h).2
  | pallet x => exact (hs.pallets.bounds x h).2
  | role | user | profile => trivial

theorem Numbered.later (h : m.Numbered key) (hlater : m.Later n) : n.Numbered key := by
  obtain ⟨type, id⟩ := key
  have later {k l : Nat} (hid : id ≤ k) (hle : k ≤ l) : id ≤ l :=
    Int.le_trans hid (Int.ofNat_le.2 hle)
  cases type with
  | organization => exact later h hlater.organizations.sequence
  | container => exact later h hlater.containers.sequence
  | pallet => exact later h hlater.pallets.sequence
  | role | user | profile => trivial

theorem of_added {c : Call} {x : c.Answer} (hx : (handle c m).1 = .ok x) (hrow : row ∈ c.rows x)
    (hadded : c.footprint row.key.1 = .added) (hflag : row.archived? ≠ none) :
    row.archived? = some false ∧ ¬ m.Numbered row.key := by
  have fresh (n : Nat) : ¬ (n + 1 : Int) ≤ n := by omega
  cases c with
  | organizations c =>
    cases c with
    | register new owner =>
      simp only [handle, organizationCall, register] at hx
      split at hx
      · cases hx
      · cases hx
        simp only [Call.rows, List.mem_cons, List.not_mem_nil, or_false] at hrow
        obtain rfl | rfl | rfl := hrow
        · exact ⟨rfl, fresh _⟩
        · exact absurd rfl hflag
        · exact absurd rfl hflag
    | update o =>
      obtain rfl := List.mem_singleton.1 hrow
      cases hadded
    | _ => cases hrow
  | roles c =>
    cases c with
    | insert | update =>
      obtain rfl := List.mem_singleton.1 hrow
      exact absurd rfl hflag
    | _ => cases hrow
  | users c =>
    cases c with
    | insert | update =>
      obtain rfl := List.mem_singleton.1 hrow
      exact absurd rfl hflag
    | insertCustomer account =>
      simp only [Call.rows, List.mem_cons, List.not_mem_nil, or_false] at hrow
      obtain rfl | rfl := hrow <;> exact absurd rfl hflag
    | _ => cases hrow
  | profiles c => cases c <;> cases hrow
  | containers c =>
    cases c with
    | insert new =>
      cases hx
      obtain rfl := List.mem_singleton.1 hrow
      exact ⟨rfl, fresh _⟩
    | update c =>
      obtain rfl := List.mem_singleton.1 hrow
      cases hadded
    | _ => cases hrow
  | pallets c =>
    cases c with
    | insert new =>
      cases hx
      obtain rfl := List.mem_singleton.1 hrow
      exact ⟨rfl, fresh _⟩
    | update x =>
      obtain rfl := List.mem_singleton.1 hrow
      cases hadded
    | _ => cases hrow

theorem of_after {x : c.Answer} (hs : m.Sound) (hread : ¬ c.IsRead)
    (hx : (handle c m).1 = .ok x) (hc : c.put? = none)
    (hrow : (handle c m).2.Holds row) (hflag : row.archived? ≠ none) :
    m.Holds row ∨ row.archived? = some false ∧ ¬ m.Numbered row.key := by
  have hdone := handle_footprint hs hread hx row.key.1
  rw [holds_iff_mem] at hrow ⊢
  cases hfootprint : c.footprint row.key.1 with
  | kept =>
    rw [hfootprint] at hdone
    exact .inl (hdone ▸ hrow)
  | added =>
    rw [hfootprint] at hdone
    obtain ⟨new, hnew, hrows⟩ := hdone
    rw [hrows] at hrow
    obtain hrow | hrow := List.mem_append.1 hrow
    · exact .inl hrow
    · obtain rfl := List.mem_singleton.1 hrow
      exact .inr (of_added hx hnew hfootprint hflag)
  | removed id =>
    rw [hfootprint] at hdone
    obtain ⟨before, gone, after, -, hrows, hrows'⟩ := hdone
    rw [hrows', List.mem_append] at hrow
    rw [hrows, List.mem_append]
    exact .inl (hrow.imp_right (List.mem_cons_of_mem gone))
  | changed id => exact absurd hc (Call.put?_of_changed hfootprint hflag)

section Put

variable (hs : m.Sound)
include hs

theorem put_organization {o u : Organization} (hold : m.Holds (.organization u))
    (halike : (Row.organization o).Alike (.organization u)) :
    handle (.organizations (.update o)) m = (.ok o, m.withRow (.organization o)) := by
  have hkey : Record.key o = Record.key u := (congrArg Prod.snd halike.key :)
  have hmodify : modifyFirst? (·.id == o.id) (fun _ => o) m.organizations.rows =
      some (o, (m.organizations.replace o).rows) :=
    Table.modifyFirst?_eq_replace hs.organizations hold hkey rfl
  simp only [handle, organizationCall, hmodify]
  rfl

theorem put_container {c u : Container} (hold : m.Holds (.container u))
    (halike : (Row.container c).Alike (.container u)) :
    handle (.containers (.update c)) m = (.ok c, m.withRow (.container c)) := by
  have hkey : Record.key c = Record.key u := (congrArg Prod.snd halike.key :)
  let change (row : Container) : Container :=
    { row with description := c.description, isArchived := c.isArchived }
  have hwritten : change u = c := by
    have heq := (Row.container.inj halike.origin.symm :)
    cases u
    cases c
    simpa [change, Record.origin] using heq
  have hmodify : modifyFirst? (·.id == c.id) change m.containers.rows =
      some (c, (m.containers.replace c).rows) :=
    Table.modifyFirst?_eq_replace hs.containers hold hkey hwritten
  simp only [handle, containerCall]
  rw [hmodify]
  rfl

theorem put_pallet {x u : Pallet} (hold : m.Holds (.pallet u))
    (halike : (Row.pallet x).Alike (.pallet u)) :
    handle (.pallets (.update x)) m = (.ok x, m.withRow (.pallet x)) := by
  have hkey : Record.key x = Record.key u := (congrArg Prod.snd halike.key :)
  let change (row : Pallet) : Pallet :=
    { row with
      description := x.description
      containerId := x.containerId
      isArchived := x.isArchived }
  have hwritten : change u = x := by
    have heq := (Row.pallet.inj halike.origin.symm :)
    cases u
    cases x
    simpa [change, Record.origin] using heq
  have hmodify : modifyFirst? (·.id == x.id) change m.pallets.rows =
      some (x, (m.pallets.replace x).rows) :=
    Table.modifyFirst?_eq_replace hs.pallets hold hkey hwritten
  simp only [handle, palletCall]
  rw [hmodify]
  rfl

theorem handle_put {c : Call} (hc : c.put? = some row) (hold : m.Holds old)
    (halike : row.Alike old) : (handle c m).2 = m.withRow row := by
  cases c with
  | organizations c =>
    cases c with
    | update o =>
      cases hc
      cases old with
      | organization u => rw [put_organization hs hold halike]
      | _ => cases halike.key
    | _ => cases hc
  | containers c =>
    cases c with
    | update c =>
      cases hc
      cases old with
      | container u => rw [put_container hs hold halike]
      | _ => cases halike.key
    | _ => cases hc
  | pallets c =>
    cases c with
    | update x =>
      cases hc
      cases old with
      | pallet u => rw [put_pallet hs hold halike]
      | _ => cases halike.key
    | _ => cases hc
  | _ => cases hc

end Put

end Memory

end Depot.Store
