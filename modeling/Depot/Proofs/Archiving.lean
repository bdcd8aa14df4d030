import Depot.Proofs.Flags
import Depot.Proofs.Traceless
import Mathlib.Data.List.Chain

namespace Depot.Operation

open Program Store

/-- The row that the operation archives or takes back, with the flag that it gives it. -/
def Job.toggle? : Job → Option ((RowType × Id) × Bool)
  | .organizationArchive id archived => some ((.organization, id), archived)
  | .containerArchive id archived => some ((.container, id), archived)
  | .palletArchive id archived => some ((.pallet, id), archived)
  | _ => none

/-- The flag that the row of that key was given, if the event archived it or took it back. -/
def Event.toggle? (key : RowType × Id) (e : Event) : Option Bool :=
  match e.act, e.outcome with
  | .job _ j, .ok _ => j.toggle?.bind fun (row, archived) => if row = key then some archived else none
  | _, _ => none

/-- The calls that archived the row of that key, `true`, and those that took it back, `false`; the
latest one first. -/
def toggles (es : List Event) (key : RowType × Id) : List Bool := es.filterMap (Event.toggle? key)

def RowType.noun : RowType → String
  | .organization => "organization"
  | .role => "role"
  | .user => "user"
  | .profile => "profile"
  | .container => "container"
  | .pallet => "pallet"

/-- What is answered to who archives what is archived, or takes back what is not. -/
def RowType.refusal (type : RowType) (archived : Bool) : Error :=
  .badRequest (type.noun ++ if archived then " is already archived" else " is not archived")

variable {s : Accounts.Settings} {es : List Event} {m n : Memory} {seen : List Memory}
variable {p : Principal} {a : Act} {c : Call} {row old : Row} {key : RowType × Id}
variable {archived : Bool} {given : List Bool} {j : Job} {reply : Reply}

theorem Row.archived?_of_toggle (h : j.toggle? = some (row.key, archived)) : row.archived? ≠ none := by
  cases row with
  | role | user | profile => cases j <;> cases h
  | _ => nofun

theorem Job.edits_of_toggle (h : j.toggle? = some (key, archived)) : j.edits? = some key := by
  cases j
  all_goals first
    | exact (congrArg (Option.map Prod.fst) h :)
    | cases h

theorem Job.edit_of_toggle (h : j.toggle? = some (key, archived)) (row : Row) :
    j.edit row = row.archived archived := by
  cases j <;> cases h <;> rfl

theorem Job.edit_archived? (h : j.toggle? = none) (row : Row) :
    (j.edit row).archived? = row.archived? := by
  cases j <;> cases h <;> cases row <;> rfl

theorem Job.edit_flag (j : Job) (h : old.archived? ≠ none) : (j.edit old).archived? ≠ none := by
  cases hj : j.toggle? with
  | none => rwa [edit_archived? hj]
  | some given =>
    rw [edit_of_toggle hj, Row.archived?_archived h]
    nofun

theorem Job.IsQuery.toggle?_eq_none (h : j.IsQuery) : j.toggle? = none := by
  cases j
  all_goals first
    | rfl
    | exact h.elim

/-- Who writes a row with a flag has read it and writes it changed; who archives it has found it not
archived, and who takes it back has found it archived. -/
theorem Job.Licensed.put (h : j.Licensed s seen p c) (hc : c.put? = some row) :
    ∃ old, p.Granted seen old ∧ row = j.edit old ∧ j.edits? = some old.key ∧ old.archived? ≠ none ∧
      ∀ archived, j.toggle? = some (old.key, archived) → old.archived? = some !archived := by
  cases h with
  | organizationUpdate hname ho =>
    cases hc
    exact ⟨_, ho, rfl, rfl, nofun, nofun⟩
  | organizationArchive harchived ho =>
    cases hc
    refine ⟨_, ho, rfl, rfl, nofun, fun b hb => ?_⟩
    cases hb
    exact congrArg some (Bool.eq_not.2 harchived)
  | containerUpdate hx =>
    cases hc
    exact ⟨_, hx, rfl, rfl, nofun, nofun⟩
  | containerArchive harchived hx =>
    cases hc
    refine ⟨_, hx, rfl, rfl, nofun, fun b hb => ?_⟩
    cases hb
    exact congrArg some (Bool.eq_not.2 harchived)
  | palletUpdate hx hid hcontainer =>
    cases hc
    exact ⟨_, hx, rfl, congrArg (fun id => some (RowType.pallet, id)) hid.symm, nofun, nofun⟩
  | palletArchive harchived hx =>
    cases hc
    refine ⟨_, hx, rfl, rfl, nofun, fun b hb => ?_⟩
    cases hb
    exact congrArg some (Bool.eq_not.2 harchived)
  | _ => cases hc

theorem Act.Licensed.job_of_put (h : Act.Licensed s seen a c) (hread : ¬ c.IsRead)
    (hc : c.put? = some row) : ∃ p j, a = .job p j ∧ j.Licensed s seen p c := by
  cases h with
  | read hc' => exact absurd hc' hread
  | job hj => exact ⟨_, _, rfl, hj⟩
  | _ => cases hc

theorem Act.Licensed.toggle?_eq_none (h : Act.Licensed s seen (.job p j) c) (hread : ¬ c.IsRead)
    (hc : c.put? = none) : j.toggle? = none := by
  cases h with
  | read hc' => exact absurd hc' hread
  | job hj =>
    cases hj
    all_goals first
      | rfl
      | cases hc

/-- How the row of a key stands to the flags that it was given, the latest one first. -/
structure Told (m : Memory) (key : RowType × Id) (given : List Bool) : Prop where
  alternate : (given ++ [false]).IsChain (· ≠ ·)
  last : ∀ row, m.Holds row → row.key = key → row.archived? ≠ none →
    row.archived? = some (given.headD false)
  numbered : given ≠ [] → m.Numbered key

namespace Told

theorem kept (h : Told m key given) (hlater : m.Later n)
    (hrows : ∀ row, n.Holds row → row.key = key → row.archived? ≠ none →
      (∃ old, m.Holds old ∧ old.key = key ∧ row.archived? = old.archived?) ∨
        row.archived? = some false ∧ ¬ m.Numbered key) : Told n key given := by
  refine ⟨h.alternate, fun row hrow hkey hflag => ?_, fun hgiven => (h.numbered hgiven).later hlater⟩
  obtain ⟨old, hold, hkey', hsame⟩ | ⟨hnew, hfresh⟩ := hrows row hrow hkey hflag
  · rw [hsame] at hflag ⊢
    exact h.last old hold hkey' hflag
  · have hnone : given = [] := not_not.1 (mt h.numbered hfresh)
    rw [hnew, hnone]
    rfl

theorem toggled (h : Told m key given) (hlater : m.Later n) (hs : m.Sound) (hold : m.Holds old)
    (hkey : old.key = key) (hflag : old.archived? = some !archived)
    (hrows : ∀ row, n.Holds row → row.key = key → row = old.archived archived) :
    Told n key (archived :: given) := by
  have hsome : old.archived? ≠ none := by simp [hflag]
  have hlast : given.headD false = !archived := by
    have heq := h.last old hold hkey hsome
    rw [hflag] at heq
    exact (Option.some.inj heq).symm
  refine ⟨?_, fun row hrow hkey' _ => ?_, fun _ => ?_⟩
  · rw [List.cons_append, List.isChain_cons]
    refine ⟨fun b hb => ?_, h.alternate⟩
    have hb' : b = given.headD false := by cases given <;> simp_all
    rw [hb', hlast]
    cases archived <;> simp
  · rw [hrows row hrow hkey', Row.archived?_archived hsome]
    rfl
  · exact (hkey ▸ Memory.numbered_of_holds hs hold).later hlater

end Told

theorem toggles_cons (e : Event) (es : List Event) (key : RowType × Id) :
    toggles (e :: es) key = (e.toggle? key).toList ++ toggles es key := by
  unfold toggles
  cases h : e.toggle? key <;> simp [h]

theorem toggle?_event_of_error {e : Error} (h : (a.event s m).outcome = .error e) :
    (a.event s m).toggle? key = none := by
  unfold Event.toggle?
  rw [h]
  cases (a.event s m).act <;> rfl

theorem toggle?_event_of_ok (h : ((Act.job p j).event s m).outcome = .ok reply) :
    ((Act.job p j).event s m).toggle? key =
      j.toggle?.bind fun (row, archived) => if row = key then some archived else none := by
  unfold Event.toggle?
  rw [h]
  rfl

theorem toggle?_event_of_none (h : ∀ p j, a = .job p j → j.toggle? = none) :
    (a.event s m).toggle? key = none := by
  unfold Event.toggle?
  cases a with
  | job p j =>
    have hj := h p j rfl
    split
    · rename_i j' _ hact _
      cases hact
      rw [hj]
      rfl
    · rfl
  | _ => rfl

theorem Told.act (h : Told m key (toggles es key)) (hrun : Run s es m) (a : Act) :
    Told (a.event s m).after key (toggles (a.event s m :: es) key) := by
  have hlater := hrun.later a
  have hs := hrun.sound
  rw [toggles_cons]
  have unchanged (hafter : (a.event s m).after = m) (htoggle : (a.event s m).toggle? key = none) :
      Told (a.event s m).after key (((a.event s m).toggle? key).toList ++ toggles es key) := by
    rw [hafter, htoggle]
    exact h
  obtain ⟨e, herror, hafter⟩ | ⟨reply, hrest, -, hafter⟩ |
    ⟨c, seen, hseen, hread, hc, f, -, houtcome, hafter⟩ := a.event_cases s m
  · exact unchanged hafter (toggle?_event_of_error herror)
  · refine unchanged hafter (toggle?_event_of_none ?_)
    rintro p j rfl
    exact Job.IsQuery.toggle?_eq_none hrest
  cases hx : (Memory.handle c m).1 with
  | error e =>
    rw [hx] at houtcome
    exact unchanged (hafter.trans (Memory.handle_eq_of_error hread hx))
      (toggle?_event_of_error houtcome)
  | ok x =>
    rw [hx] at houtcome
    cases hput : c.put? with
    | none =>
      rw [toggle?_event_of_none fun p j ha => (ha ▸ hc).toggle?_eq_none hread hput]
      refine h.kept hlater fun row hrow hkey hflag => ?_
      rw [hafter] at hrow
      obtain hrow | ⟨hnew, hfresh⟩ := Memory.of_after hs hread hx hput hrow hflag
      · exact .inl ⟨row, hrow, hkey, rfl⟩
      · exact .inr ⟨hnew, hkey ▸ hfresh⟩
    | some row =>
      obtain ⟨p, j, rfl, hj⟩ := hc.job_of_put hread hput
      obtain ⟨old, ⟨n, hn, hold, -⟩, rfl, hedits, hflag, htoggle⟩ := hj.put hput
      obtain rfl := List.mem_singleton.1 (hseen hn)
      have halike := j.edit_alike old
      have hafter := hafter.trans (Memory.handle_put hs hput hold halike)
      have hrows {row : Row} (hrow : ((Act.job p j).event s n).after.Holds row) :
          row = j.edit old ∨ n.Holds row ∧ row.key ≠ old.key := by
        rw [hafter] at hrow
        exact halike.key ▸ Memory.of_holds_withRow (j.edit_flag hflag) hrow
      rw [toggle?_event_of_ok houtcome]
      cases hj : j.toggle? with
      | none =>
        refine h.kept hlater fun row hrow hkey _ => .inl ?_
        obtain rfl | ⟨hrow, -⟩ := hrows hrow
        · exact ⟨old, hold, halike.key.symm.trans hkey, j.edit_archived? hj old⟩
        · exact ⟨row, hrow, hkey, rfl⟩
      | some given =>
        obtain ⟨key', archived⟩ := given
        obtain rfl : key' = old.key := Option.some.inj ((j.edits_of_toggle hj).symm.trans hedits)
        by_cases hkey : old.key = key
        · have hgiven : ((some (old.key, archived)).bind fun (row, archived) =>
              if row = key then some archived else none) = some archived := if_pos hkey
          rw [hgiven]
          refine h.toggled hlater hs hold hkey (htoggle archived hj) fun row hrow hkey' => ?_
          obtain rfl | ⟨-, hne⟩ := hrows hrow
          · exact j.edit_of_toggle hj old
          · exact absurd (hkey'.trans hkey.symm) hne
        · have hgiven : ((some (old.key, archived)).bind fun (row, archived) =>
              if row = key then some archived else none) = none := if_neg hkey
          rw [hgiven]
          refine h.kept hlater fun row hrow hkey' _ => .inl ?_
          obtain rfl | ⟨hrow, -⟩ := hrows hrow
          · exact absurd (halike.key.symm.trans hkey') hkey
          · exact ⟨row, hrow, hkey', rfl⟩

theorem Run.told (h : Run s es m) (key : RowType × Id) : Told m key (toggles es key) := by
  induction h with
  | start clock =>
    refine ⟨List.isChain_singleton _, fun row hrow => ?_, fun h => absurd rfl h⟩
    cases row <;> exact absurd hrow List.not_mem_nil
  | @tick es m _ now ih =>
    refine ⟨ih.alternate, fun row hrow => ih.last row ?_, fun hgiven => ?_⟩
    · cases row <;> exact hrow
    · obtain ⟨type, id⟩ := key
      have hnumbered := ih.numbered hgiven
      cases type <;> exact hnumbered
  | act hrun a ih => exact ih.act hrun a

section Services

variable (hs : m.Sound)
include hs

theorem Organizations.run_setArchived {o : Organization} (ho : m.Holds (.organization o))
    (hown : p.Owns (.organization o)) (archived : Bool) :
    (setArchived p o.id archived).run Memory.handle m =
      if o.isArchived = archived then (.error (RowType.organization.refusal archived), m)
      else (.ok { o with isArchived := archived },
        m.withRow (.organization { o with isArchived := archived })) := by
  have hget : (get p o.id).run Memory.handle m = (.ok o, m) :=
    run_guarded_call (congrArg (·, m) (find_own hs.organizations.nodup ho .noOrganization))
      (visible_eq_ok.2 ⟨rfl, hown⟩)
  have halike := (Job.organizationArchive o.id archived).edit_alike (.organization o)
  simp only [setArchived, bind_eq, run_bind, hget]
  split
  · cases archived <;> rfl
  · exact (run_call _ m).trans (Memory.put_organization hs ho halike)

theorem Containers.run_setArchived {c : Container} (hc : m.Holds (.container c))
    (hown : p.Owns (.container c)) (archived : Bool) :
    (setArchived p c.id archived).run Memory.handle m =
      if c.isArchived = archived then (.error (RowType.container.refusal archived), m)
      else (.ok { c with isArchived := archived },
        m.withRow (.container { c with isArchived := archived })) := by
  have hget : (get p c.id).run Memory.handle m = (.ok c, m) :=
    run_guarded_call (congrArg (·, m) (find_own hs.containers.nodup hc .noContainer))
      (visible_eq_ok.2 ⟨rfl, hown⟩)
  have halike := (Job.containerArchive c.id archived).edit_alike (.container c)
  simp only [setArchived, bind_eq, run_bind, hget]
  split
  · cases archived <;> rfl
  · exact (run_call _ m).trans (Memory.put_container hs hc halike)

theorem Pallets.run_setArchived {x : Pallet} (hx : m.Holds (.pallet x))
    (hown : p.Owns (.pallet x)) (archived : Bool) :
    (setArchived p x.id archived).run Memory.handle m =
      if x.isArchived = archived then (.error (RowType.pallet.refusal archived), m)
      else (.ok { x with isArchived := archived },
        m.withRow (.pallet { x with isArchived := archived })) := by
  have hget : (get p x.id).run Memory.handle m = (.ok x, m) :=
    run_guarded_call (congrArg (·, m) (find_own hs.pallets.nodup hx .noPallet))
      (visible_eq_ok.2 ⟨rfl, hown⟩)
  have halike := (Job.palletArchive x.id archived).edit_alike (.pallet x)
  simp only [setArchived, bind_eq, run_bind, hget]
  split
  · cases archived <;> rfl
  · exact (run_call _ m).trans (Memory.put_pallet hs hx halike)

end Services

theorem run_map_ite {α β : Type} {b b' : Prop} [Decidable b] [Decidable b'] {q : Program α} {f : α → β}
    {e : Error} {a : α} {n : Memory} (hb : b' ↔ b)
    (h : q.run Memory.handle m = if b then (.error e, m) else (.ok a, n)) :
    (q.bind fun a => .done (f a)).run Memory.handle m = if b' then (.error e, m) else (.ok (f a), n) := by
  rw [run_bind, h]
  by_cases hcase : b
  · rw [if_pos hcase, if_pos (hb.2 hcase)]
  · rw [if_neg hcase, if_neg (hcase ∘ hb.1)]
    rfl

theorem Job.run_toggle (s : Accounts.Settings) (hs : m.Sound) (hrow : m.Holds row)
    (hown : p.Owns row) (hj : j.toggle? = some (row.key, archived)) :
    (j.perform s p).run Memory.handle m =
      if row.archived? = some archived then (.error (row.type.refusal archived), m)
      else (.ok (.row (row.archived archived)), m.withRow (row.archived archived)) := by
  cases j with
  | organizationArchive id archived =>
    cases row with
    | organization o =>
      cases hj
      exact run_map_ite Option.some_inj (Organizations.run_setArchived hs hrow hown archived)
    | _ => cases hj
  | containerArchive id archived =>
    cases row with
    | container c =>
      cases hj
      exact run_map_ite Option.some_inj (Containers.run_setArchived hs hrow hown archived)
    | _ => cases hj
  | palletArchive id archived =>
    cases row with
    | pallet x =>
      cases hj
      exact run_map_ite Option.some_inj (Pallets.run_setArchived hs hrow hown archived)
    | _ => cases hj
  | _ => cases hj

theorem Act.event_toggle (s : Accounts.Settings) (hs : m.Sound) (hrow : m.Holds row)
    (hown : p.Owns row) (hj : j.toggle? = some (row.key, archived)) :
    let e := (Act.job p j).event s m
    (row.archived? = some archived →
      e.outcome = .error (row.type.refusal archived) ∧ e.after = m) ∧
    (row.archived? ≠ some archived →
      e.outcome = .ok ⟨[row.archived archived], none⟩ ∧ e.after = m.withRow (row.archived archived)) := by
  have hrun := Job.run_toggle s hs hrow hown hj
  simp only [Act.event, Act.perform, bind_eq, run_bind, hrun]
  refine ⟨fun hflag => ?_, fun hflag => ?_⟩
  · rw [if_pos hflag]
    exact ⟨rfl, rfl⟩
  · rw [if_neg hflag]
    exact ⟨rfl, rfl⟩

/-- How archiving goes along a run. -/
structure Alternates (s : Accounts.Settings) (es : List Event) (m : Memory) : Prop where
  /-- No two calls that went well on one row, one right after the other, did the same to it. -/
  alternate : ∀ key, (toggles es key).IsChain (· ≠ ·)
  first : ∀ key archived, (toggles es key).getLast? = some archived → archived = true
  flag : ∀ row, m.Holds row → row.archived? ≠ none →
    row.archived? = some ((toggles es row.key).headD false)
  refused : ∀ row p j archived, m.Holds row → p.Owns row → j.toggle? = some (row.key, archived) →
    archived = (toggles es row.key).headD false →
    ((Act.job p j).event s m).outcome = .error (row.type.refusal archived) ∧
      ((Act.job p j).event s m).after = m
  done : ∀ row p j archived, m.Holds row → p.Owns row → j.toggle? = some (row.key, archived) →
    archived ≠ (toggles es row.key).headD false →
    ((Act.job p j).event s m).outcome = .ok ⟨[row.archived archived], none⟩
  restored : ∀ row p q j j' now, m.Holds row → p.Owns row → q.Owns row →
    j.toggle? = some (row.key, true) → j'.toggle? = some (row.key, false) →
    row.archived? = some false →
    let e := (Act.job p j).event s m
    let e' := (Act.job q j').event s { e.after with clock := now }
    e.outcome = .ok ⟨[row.archived true], none⟩ ∧ e'.outcome = .ok ⟨[row], none⟩ ∧
      e'.after = { m with clock := now }

theorem archiving_alternates (h : Run s es m) : Alternates s es m where
  alternate key := (List.isChain_append.1 (h.told key).alternate).1
  first key archived hfirst := by
    have hne := (List.isChain_append.1 (h.told key).alternate).2.2 archived hfirst false rfl
    simpa using hne
  flag row hrow := (h.told row.key).last row hrow rfl
  refused row p j archived hrow hown hj hlast := by
    refine (Act.event_toggle s h.sound hrow hown hj).1 ?_
    rw [(h.told row.key).last row hrow rfl (Row.archived?_of_toggle hj), hlast]
  done row p j archived hrow hown hj hlast := by
    refine ((Act.event_toggle s h.sound hrow hown hj).2 fun hflag => hlast ?_).1
    rw [(h.told row.key).last row hrow rfl (Row.archived?_of_toggle hj)] at hflag
    exact (Option.some.inj hflag).symm
  restored row p q j j' now hrow hp hq hj hj' hflag := by
    intro e e'
    obtain ⟨houtcome, hafter⟩ := (Act.event_toggle s h.sound hrow hp hj).2 (by simp [hflag])
    have hsome : row.archived? ≠ none := by simp [hflag]
    have hrow' : ({ e.after with clock := now } : Memory).Holds (row.archived true) := by
      have hholds : e.after.Holds (row.archived true) :=
        hafter ▸ Memory.holds_withRow_archived hrow true
      cases row <;> exact hholds
    obtain ⟨houtcome', hafter'⟩ := (Act.event_toggle s ((h.act (.job p j)).tick now).sound hrow'
      (Row.owns_archived hq) (by rwa [Row.archived_key])).2
      (by simp [Row.archived?_archived hsome])
    rw [Row.archived_archived hflag] at houtcome' hafter'
    refine ⟨houtcome, houtcome', hafter'.trans ?_⟩
    rw [Memory.withRow_clock, hafter, Memory.withRow_archived_withRow, Memory.withRow_self h.sound hrow]

/-- A container is archived, refused a second time, described anew, taken back by an administrator and
archived again. -/
theorem container_is_archived_twice :
    ∃ (s : Accounts.Settings) (es : List Event) (m : Memory), Run s es m ∧
      (m.containers.rows.map fun c => (c.id, c.description, c.isArchived)) =
        [(1, some "tea", true)] ∧
      toggles es (.container, 1) = [true, false, true] ∧ Alternates s es m := by
  let s : Accounts.Settings := ⟨"k", 60, 4⟩
  let p : Principal := ⟨1, .member 1 1⟩
  let q : Principal := ⟨9, .admin⟩
  let founding : Act :=
    .registerOrganization ⟨"Acme", none, ⟨"Ada", "A", "ada@x.org", "1", "secret"⟩⟩
  have hrun := (((((((Run.start (s := s) ⟨0⟩).act founding).act
    (.job p (.containerCreate ⟨none, none⟩))).act (.job p (.containerArchive 1 true))).act
    (.job p (.containerArchive 1 true))).act (.job p (.containerUpdate 1 (some "tea")))).act
    (.job q (.containerArchive 1 false))).act (.job p (.containerArchive 1 true))
  refine ⟨s, _, _, hrun, ?_, ?_, archiving_alternates hrun⟩
  · decide +kernel
  · decide +kernel

end Depot.Operation
