import Depot.Proofs.Footprint

namespace Depot.Operation

open Store

def Row.origin : Row → Row
  | .organization o => .organization (Record.origin o)
  | .role r => .role (Record.origin r)
  | .user u => .user (Record.origin u)
  | .profile q => .profile q
  | .container c => .container (Record.origin c)
  | .pallet x => .pallet (Record.origin x)

/-- The same row, apart from what can change. -/
structure Row.Alike (row old : Row) : Prop where
  key : row.key = old.key
  origin : row.origin = old.origin

theorem Row.Alike.trans_symm {v w old : Row} (hv : v.Alike old) (hw : w.Alike old) : v.Alike w :=
  ⟨hv.key.trans hw.key.symm, hv.origin.trans hw.origin.symm⟩

def Row.archived (archived : Bool) : Row → Row
  | .organization o => .organization { o with isArchived := archived }
  | .container c => .container { c with isArchived := archived }
  | .pallet x => .pallet { x with isArchived := archived }
  | row => row

namespace Job

def edits? : Job → Option (RowType × Id)
  | .organizationUpdate id _ _ | .organizationArchive id _ => some (.organization, id)
  | .containerUpdate id _ | .containerArchive id _ => some (.container, id)
  | .palletUpdate c => some (.pallet, c.id)
  | .palletArchive id _ => some (.pallet, id)
  | _ => none

def edit : Job → Row → Row
  | .organizationUpdate _ name website, .organization o =>
    .organization { o with name := Text.trim name, website := website }
  | .containerUpdate _ description, .container c =>
    .container { c with description := description }
  | .palletUpdate c, .pallet x =>
    .pallet { x with description := c.description, containerId := c.containerId }
  | .organizationArchive _ archived, row | .containerArchive _ archived, row
  | .palletArchive _ archived, row => row.archived archived
  | _, row => row

/-- The updates that the edits by archiving may come between. -/
inductive Updates : RowType × Id → Job → Prop
  | organization (id : Id) (name : String) (website : Option String) :
    Updates (.organization, id) (.organizationUpdate id name website)
  | container (id : Id) (description : Option String) :
    Updates (.container, id) (.containerUpdate id description)
  | pallet (c : Pallets.Change) : Updates (.pallet, c.id) (.palletUpdate c)

inductive Archives : RowType × Id → Job → Prop
  | organization (id : Id) : Archives (.organization, id) (.organizationArchive id true)
  | container (id : Id) : Archives (.container, id) (.containerArchive id true)
  | pallet (id : Id) : Archives (.pallet, id) (.palletArchive id true)

variable {key : RowType × Id} {j : Job}

theorem Updates.edits? (h : j.Updates key) : j.edits? = some key := by
  cases h <;> rfl

theorem Archives.edits? (h : j.Archives key) : j.edits? = some key := by
  cases h <;> rfl

theorem Archives.edit (h : j.Archives key) (row : Row) : j.edit row = row.archived true := by
  cases h <;> rfl

theorem Updates.edit_archived (h : j.Updates key) (row : Row) :
    j.edit (row.archived true) = (j.edit row).archived true := by
  cases h <;> cases row <;> rfl

theorem edit_alike (j : Job) (row : Row) : (j.edit row).Alike row := by
  constructor
  · cases j <;> cases row <;> rfl
  · cases j <;> cases row <;> rfl

end Job

end Depot.Operation

namespace Depot.Store

open Operation

def Memory.row? (m : Memory) (key : RowType × Id) : Option Row :=
  (m.rowsOf key.1).find? (·.key == key)

def Call.put? : Call → Option Row
  | .organizations (.update o) => some (.organization o)
  | .containers (.update c) => some (.container c)
  | .pallets (.update x) => some (.pallet x)
  | _ => none

theorem find?_modifyFirst? {α : Type} {p : α → Bool} {f : α → α} {rows : List α} {x : α}
    (h : rows.find? p = some x) (hf : p (f x)) :
    ∃ rows', modifyFirst? p f rows = some (f x, rows') ∧ rows'.find? p = some (f x) := by
  induction rows with
  | nil => cases h
  | cons y ys ih =>
    by_cases hy : p y
    · obtain rfl : y = x := by simpa [List.find?_cons, hy] using h
      exact ⟨f y :: ys, by simp [modifyFirst?, hy], by simp [hf]⟩
    · obtain ⟨rows', hrows', hfind⟩ := ih (by simpa [List.find?_cons, hy] using h)
      exact ⟨y :: rows', by simp [modifyFirst?, hy, hrows'], by simp [hy, hfind]⟩

namespace Memory

variable {m : Memory} {id : Id}

theorem find?_key {α : Type} (f : α → Row) {type : RowType} {k : α → Id}
    (hf : ∀ x, (f x).key = (type, k x)) (rows : List α) :
    (rows.map f).find? (·.key == (type, id)) = (rows.find? (k · == id)).map f := by
  have hkey : ∀ x, ((f x).key == (type, id)) = (k x == id) := by
    intro x
    rw [hf, Bool.eq_iff_iff]
    simp
  simp only [List.find?_map, Function.comp_def, hkey]

theorem key_of_row? {key : RowType × Id} {row : Row} (h : m.row? key = some row) : row.key = key := by
  simpa using List.find?_some h

theorem row?_organization :
    m.row? (.organization, id) = (m.organizations.rows.find? (·.id == id)).map .organization :=
  find?_key .organization (fun _ => rfl) _

theorem row?_container :
    m.row? (.container, id) = (m.containers.rows.find? (·.id == id)).map .container :=
  find?_key .container (fun _ => rfl) _

theorem row?_pallet :
    m.row? (.pallet, id) = (m.pallets.rows.find? (·.id == id)).map .pallet :=
  find?_key .pallet (fun _ => rfl) _

theorem row?_put {c : Call} {key : RowType × Id} {row old : Row} (hc : c.put? = some row)
    (hold : m.row? key = some old) (halike : row.Alike old) :
    (handle c m).2.row? key = some row := by
  obtain rfl : row.key = key := halike.key.trans (key_of_row? hold)
  cases c with
  | organizations c =>
    cases c with
    | update o =>
      cases hc
      simp only [Row.key, row?_organization] at hold ⊢
      obtain ⟨x, hx, rfl⟩ := Option.map_eq_some_iff.1 hold
      obtain ⟨rows', hrows', hfind⟩ := find?_modifyFirst? (f := fun _ => o) hx (by simp)
      simp [handle, organizationCall, hrows', hfind]
    | _ => cases hc
  | containers c =>
    cases c with
    | update c =>
      cases hc
      simp only [Row.key, row?_container] at hold ⊢
      obtain ⟨x, hx, rfl⟩ := Option.map_eq_some_iff.1 hold
      have hid := List.find?_some hx
      obtain ⟨rows', hrows', hfind⟩ := find?_modifyFirst?
        (f := fun row : Container =>
          { row with description := c.description, isArchived := c.isArchived }) hx hid
      have hwritten : { x with description := c.description, isArchived := c.isArchived } = c := by
        have heq := (Row.container.inj halike.origin.symm :)
        cases x
        cases c
        simpa [Record.origin] using heq
      rw [hwritten] at hrows' hfind
      simp only [handle, containerCall, hrows', hfind, Option.map_some]
    | _ => cases hc
  | pallets c =>
    cases c with
    | update c =>
      cases hc
      simp only [Row.key, row?_pallet] at hold ⊢
      obtain ⟨x, hx, rfl⟩ := Option.map_eq_some_iff.1 hold
      have hid := List.find?_some hx
      obtain ⟨rows', hrows', hfind⟩ := find?_modifyFirst?
        (f := fun row : Pallet =>
          { row with
            description := c.description
            containerId := c.containerId
            isArchived := c.isArchived }) hx hid
      have hwritten : { x with
          description := c.description
          containerId := c.containerId
          isArchived := c.isArchived } = c := by
        have heq := (Row.pallet.inj halike.origin.symm :)
        cases x
        cases c
        simpa [Record.origin] using heq
      rw [hwritten] at hrows' hfind
      simp only [handle, palletCall, hrows', hfind, Option.map_some]
    | _ => cases hc
  | _ => cases hc

end Memory

end Depot.Store

namespace Depot.Program

open Operation Store

variable {α β : Type} {row : Row} {key : RowType × Id} {f : Row → Row} {p : Program α}

def Over : Program α → Prop
  | .ask _ _ => False
  | _ => True

/-- What is left puts that row, after some lookups and with its last call, unless it fails. -/
inductive Commits (row : Row) : Program α → Prop
  | fail (e : Error) : Commits row (.fail e)
  | look {c : Call} {next : Except Error c.Answer → Program α} (hc : c.IsLookup)
    (hnext : ∀ r, Commits row (next r)) : Commits row (.ask c next)
  | put {c : Call} {next : Except Error c.Answer → Program α} (hc : c.put? = some row)
    (hnext : ∀ r, (next r).Over) : Commits row (.ask c next)

/-- A program that reads the row of that key and then puts it again, changed in one way. -/
inductive Edits (key : RowType × Id) (f : Row → Row) : Program α → Prop
  | fail (e : Error) : Edits key f (.fail e)
  | read {c : Call} {next : Except Error c.Answer → Program α} (hc : c.IsLookup)
    (hnext : ∀ (m : Memory) row, m.row? key = some row →
      Commits (f row) (next (Memory.handle c m).1)) : Edits key f (.ask c next)

theorem over_ofExcept (r : Except Error α) : (ofExcept r).Over := by
  cases r <;> trivial

theorem Over.map {g : α → β} (h : p.Over) : (p.bind fun a => .done (g a)).Over := by
  cases p with
  | ask => exact h.elim
  | done | fail => trivial

namespace Commits

theorem ofExcept_bind {r : Except Error α} {next : α → Program β}
    (h : ∀ a, r = .ok a → Commits row (next a)) : Commits row ((Program.ofExcept r).bind next) := by
  cases r with
  | ok a => exact h a rfl
  | error e => exact .fail e

theorem call {c : Call} (hc : c.put? = some row) : Commits row (call c) := .put hc over_ofExcept

theorem map {g : α → β} (h : Commits row p) : Commits row (p.bind fun a => .done (g a)) := by
  induction h with
  | fail e => exact .fail e
  | look hc _ ih => exact .look hc ih
  | put hc hnext => exact .put hc fun r => (hnext r).map

theorem not_done {a : α} : ¬ Commits row (.done a) := by
  rintro ⟨⟩

end Commits

namespace Edits

theorem not_done {a : α} : ¬ Edits key f (.done a) := by
  rintro ⟨⟩

theorem map {g : α → β} (h : Edits key f p) : Edits key f (p.bind fun a => .done (g a)) := by
  cases h with
  | fail e => exact .fail e
  | read hc hnext => exact .read hc fun m row hrow => (hnext m row hrow).map

theorem ite {c : Prop} [Decidable c] {e : Error} (h : Edits key f p) :
    Edits key f (if c then .fail e else p) := by
  split
  · exact .fail e
  · exact h

theorem get {c : Call} {visible : c.Answer → Except Error c.Answer} {g : c.Answer → Row}
    {next : c.Answer → Program α} (hc : c.IsLookup)
    (hfound : ∀ (m : Memory) row, m.row? key = some row →
      ∃ a, row = g a ∧ (Memory.handle c m).1 = .ok a)
    (hvisible : ∀ a b, visible a = .ok b → b = a) (hnext : ∀ a, Commits (f (g a)) (next a)) :
    Edits key f (((call c).bind fun a => Program.ofExcept (visible a)).bind next) := by
  refine .read hc fun m row hrow => ?_
  obtain ⟨a, rfl, ha⟩ := hfound m row hrow
  rw [ha]
  refine .ofExcept_bind fun b hb => ?_
  rw [hvisible a b hb]
  exact hnext a

end Edits

end Depot.Program

namespace Depot.Operation

open Program Store

variable {p : Principal} {id : Id}

theorem found_of_row? {α : Type} {rows : List α} {row : α → Row} {q : α → Bool} {missing : Error}
    {r : Row} (h : (rows.find? q).map row = some r) :
    ∃ a, r = row a ∧ Memory.find rows q missing = .ok a := by
  obtain ⟨a, ha, rfl⟩ := Option.map_eq_some_iff.1 h
  exact ⟨a, rfl, by rw [Memory.find, ha]⟩

theorem Organizations.get_edits {f : Row → Row} {next : Organization → Program Organization}
    (hnext : ∀ o, Commits (f (.organization o)) (next o)) :
    Edits (.organization, id) f ((get p id).bind next) := by
  refine .get (g := .organization) trivial (fun m r hr => ?_)
    (fun _ _ h => (visible_eq_ok.1 h).1) hnext
  rw [Memory.row?_organization] at hr
  exact found_of_row? hr

theorem Containers.get_edits {f : Row → Row} {next : Container → Program Container}
    (hnext : ∀ c, Commits (f (.container c)) (next c)) :
    Edits (.container, id) f ((get p id).bind next) := by
  refine .get (g := .container) trivial (fun m r hr => ?_)
    (fun _ _ h => (visible_eq_ok.1 h).1) hnext
  rw [Memory.row?_container] at hr
  exact found_of_row? hr

theorem Pallets.get_edits {f : Row → Row} {next : Pallet → Program Pallet}
    (hnext : ∀ x, Commits (f (.pallet x)) (next x)) :
    Edits (.pallet, id) f ((get p id).bind next) := by
  refine .get (g := .pallet) trivial (fun m r hr => ?_)
    (fun _ _ h => (visible_eq_ok.1 h).1) hnext
  rw [Memory.row?_pallet] at hr
  exact found_of_row? hr

theorem guard_commits {α : Type} {row : Row} {c : Prop} [Decidable c] {e : Error} {q : Program α}
    (h : Commits row q) : Commits row (if c then .fail e else q) := by
  split
  · exact .fail e
  · exact h

theorem Pallets.requireContainer_commits {row : Row} {container own : Id} {q : Program Pallet}
    (h : Commits row q) : Commits row ((requireContainer container own).bind fun _ => q) := by
  refine .look trivial fun r => ?_
  dsimp only
  split
  · split
    · exact h
    · exact .fail _
  · exact .fail _
  · exact .fail _

theorem Pallets.update_edits (c : Change) :
    Edits (.pallet, c.id) (Job.palletUpdate c).edit (update p c) := by
  refine get_edits fun x => ?_
  have write : Commits ((Job.palletUpdate c).edit (.pallet x)) (call (.pallets (.update
      { x with description := c.description, containerId := c.containerId }))) := .call rfl
  dsimp only
  split
  · split
    · exact requireContainer_commits write
    · exact write
  · exact write

variable (s : Accounts.Settings)

theorem Job.perform_edits {j : Job} {key : RowType × Id} (hj : j.edits? = some key) :
    Edits key j.edit (j.perform s p) := by
  cases j with
  | organizationUpdate id name website =>
    cases hj
    exact .map (.ite (Organizations.get_edits fun _ => .call rfl))
  | organizationArchive id archived =>
    cases hj
    exact .map (Organizations.get_edits fun _ => guard_commits (.call rfl))
  | containerUpdate id description =>
    cases hj
    exact .map (Containers.get_edits fun _ => .call rfl)
  | containerArchive id archived =>
    cases hj
    exact .map (Containers.get_edits fun _ => guard_commits (.call rfl))
  | palletUpdate c =>
    cases hj
    exact .map (Pallets.update_edits c)
  | palletArchive id archived =>
    cases hj
    exact .map (Pallets.get_edits fun _ => guard_commits (.call rfl))
  | _ => cases hj

theorem Act.perform_edits {j : Job} {key : RowType × Id} (hj : j.edits? = some key) :
    Edits key j.edit ((Act.job p j).perform s) :=
  (Job.perform_edits s hj).map

end Depot.Operation
