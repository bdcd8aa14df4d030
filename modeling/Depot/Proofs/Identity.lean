import Depot.Proofs.Footprint
import Depot.Proofs.Uniqueness
import Mathlib.Tactic.Tauto

namespace Depot.Store

open Operation Record

/-- The numbers ascend from one up to that of the last row inserted, and each of them leads to its row. -/
structure Table.Numbered {α : Type} (t : Table α) (id : α → Id) (byId : Id → Except Error α) :
    Prop where
  ascending : (t.rows.map id).Pairwise (· < ·)
  bounds : ∀ x ∈ t.rows, 1 ≤ id x ∧ id x ≤ t.sequence
  found : ∀ x ∈ t.rows, byId (id x) = .ok x

/-- Every code is made of the number of its row and leads to the row. -/
structure Table.Coded {α : Type} (t : Table α) (id : α → Id) (letters : String) (code : α → String)
    (byCode : String → Except Error α) : Prop where
  made : ∀ x ∈ t.rows, code x = sequenceCode letters (id x)
  found : ∀ x ∈ t.rows, byCode (code x) = .ok x

/-- The names of all rows, with the lookups by them. -/
structure Memory.Named (m : Memory) : Prop where
  organizations : m.organizations.Numbered (·.id) fun id => (handle (.organizations (.byId id)) m).1
  organizationCodes : m.organizations.Coded (·.id) Code.organization (·.code) fun code =>
    (handle (.organizations (.byCode code)) m).1
  roles : m.roles.Numbered (·.id) fun id => (handle (.roles (.byId id)) m).1
  roleCodes : m.roles.Coded (·.id) Code.role (·.code) fun code => (handle (.roles (.byCode code)) m).1
  users : m.users.Numbered (·.id) fun id => (handle (.users (.byId id)) m).1
  containers : m.containers.Numbered (·.id) fun id => (handle (.containers (.byId id)) m).1
  containerCodes : m.containers.Coded (·.id) Code.container (·.code) fun code =>
    (handle (.containers (.byCode code)) m).1
  pallets : m.pallets.Numbered (·.id) fun id => (handle (.pallets (.byId id)) m).1
  palletCodes : m.pallets.Coded (·.id) Code.pallet (·.code) fun code =>
    (handle (.pallets (.byCode code)) m).1

section Names

variable {α : Type} [Record α] {t t' : Table α}

theorem Table.Sound.numbered (h : t.Sound) (missing : Error) :
    t.Numbered key fun id => Memory.find t.rows (key · == id) missing :=
  ⟨h.ascending, h.bounds, fun _ hx => find_own h.nodup hx missing⟩

theorem Table.Sound.coded (h : t.Sound) {code : α → String} {letters : String}
    (hcode : ∀ x ∈ t.rows, code x = sequenceCode letters (key x)) (missing : Error) :
    t.Coded key letters code fun c => Memory.find t.rows (code · == c) missing :=
  ⟨hcode, fun _ hx => find_own (h.codes hcode) hx missing⟩

theorem Table.Later.absent {row : α → Row} {type : RowType} {id : Id}
    (hrow : ∀ x, (row x).key = (type, key x)) (h : t.Later t') (hid : id ≤ t.sequence)
    (hgone : ∀ r ∈ t.rows.map row, r.key ≠ (type, id)) :
    ∀ r ∈ t'.rows.map row, r.key ≠ (type, id) := by
  intro r hr heq
  obtain ⟨x, hx, rfl⟩ := List.mem_map.1 hr
  have hkey : key x = id := congrArg Prod.snd ((hrow x).symm.trans heq)
  obtain ⟨old, hold, horigin⟩ := h.rows x hx (hkey.symm ▸ hid)
  apply hgone (row old) (List.mem_map_of_mem hold)
  rw [hrow, key_eq horigin, hkey]

theorem nodup_keys {row : α → Row} {type : RowType} (hrow : ∀ x, (row x).key = (type, key x))
    (h : t.Sound) : ((t.rows.map row).map Row.key).Nodup := by
  have hkeys : (t.rows.map row).map Row.key = (t.rows.map key).map (type, ·) := by
    simp only [List.map_map, Function.comp_def, hrow]
  rw [hkeys]
  exact h.nodup.map fun _ _ heq => congrArg Prod.snd heq

end Names

namespace Memory

variable {m n : Memory} {type : RowType} {id : Id} {row : Row}

theorem Sound.named (h : m.Sound) : m.Named where
  organizations := h.organizations.numbered _
  organizationCodes := h.organizations.coded h.organizations.born _
  roles := h.roles.numbered _
  roleCodes := h.roles.coded h.roles.born _
  users := h.users.numbered _
  containers := h.containers.numbered _
  containerCodes := h.containers.coded (fun c hc => (h.containers.born c hc).1) _
  pallets := h.pallets.numbered _
  palletCodes := h.pallets.coded (fun x hx => (h.pallets.born x hx).1) _

theorem holds_iff : m.Holds row ↔ row ∈ m.rowsOf row.key.1 := by
  cases row <;> simp [Holds, rowsOf, Row.key]

def given (m : Memory) : RowType → Nat
  | .organization => m.organizations.sequence
  | .role => m.roles.sequence
  | .user => m.users.sequence
  | .profile => 0
  | .container => m.containers.sequence
  | .pallet => m.pallets.sequence

theorem Later.given (h : m.Later n) (type : RowType) : m.given type ≤ n.given type := by
  cases type with
  | organization => exact h.organizations.sequence
  | role => exact h.roles.sequence
  | user => exact h.users.sequence
  | profile => exact Nat.le_refl 0
  | container => exact h.containers.sequence
  | pallet => exact h.pallets.sequence

theorem Sound.key_le (h : m.Sound) (htype : type ≠ .profile) (hrow : row ∈ m.rowsOf type) :
    row.key.2 ≤ m.given type := by
  cases type with
  | profile => exact absurd rfl htype
  | organization =>
    obtain ⟨o, ho, rfl⟩ := List.mem_map.1 hrow
    exact (h.organizations.bounds o ho).2
  | role =>
    obtain ⟨r, hr, rfl⟩ := List.mem_map.1 hrow
    exact (h.roles.bounds r hr).2
  | user =>
    obtain ⟨u, hu, rfl⟩ := List.mem_map.1 hrow
    exact (h.users.bounds u hu).2
  | container =>
    obtain ⟨c, hc, rfl⟩ := List.mem_map.1 hrow
    exact (h.containers.bounds c hc).2
  | pallet =>
    obtain ⟨x, hx, rfl⟩ := List.mem_map.1 hrow
    exact (h.pallets.bounds x hx).2

theorem Sound.nodup_rowsOf (h : m.Sound) (htype : type ≠ .profile) :
    ((m.rowsOf type).map Row.key).Nodup := by
  cases type with
  | profile => exact absurd rfl htype
  | organization => exact nodup_keys (fun _ => rfl) h.organizations
  | role => exact nodup_keys (fun _ => rfl) h.roles
  | user => exact nodup_keys (fun _ => rfl) h.users
  | container => exact nodup_keys (fun _ => rfl) h.containers
  | pallet => exact nodup_keys (fun _ => rfl) h.pallets

theorem Later.absent (h : m.Later n) (htype : type ≠ .profile) (hid : id ≤ m.given type)
    (hgone : ∀ row ∈ m.rowsOf type, row.key ≠ (type, id)) :
    ∀ row ∈ n.rowsOf type, row.key ≠ (type, id) := by
  cases type with
  | profile => exact absurd rfl htype
  | organization => exact h.organizations.absent (fun _ => rfl) hid hgone
  | role => exact h.roles.absent (fun _ => rfl) hid hgone
  | user => exact h.users.absent (fun _ => rfl) hid hgone
  | container => exact h.containers.absent (fun _ => rfl) hid hgone
  | pallet => exact h.pallets.absent (fun _ => rfl) hid hgone

end Memory

end Depot.Store

namespace Depot.Operation

open Program Store

def RowType.letters? : RowType → Option String
  | .organization => some Code.organization
  | .role => some Code.role
  | .container => some Code.container
  | .pallet => some Code.pallet
  | .user | .profile => none

def Row.code? : Row → Option String
  | .organization o => some o.code
  | .role r => some r.code
  | .container c => some c.code
  | .pallet x => some x.code
  | .user _ | .profile _ => none

variable {m n : Memory} {row row' : Row} {code : String}

theorem code?_eq (h : m.Sound) (hrow : m.Holds row) :
    row.code? = row.key.1.letters?.map (sequenceCode · row.key.2) := by
  cases row with
  | organization o => exact congrArg some (h.organizations.born o hrow)
  | role r => exact congrArg some (h.roles.born r hrow)
  | container c => exact congrArg some (h.containers.born c hrow).1
  | pallet x => exact congrArg some (h.pallets.born x hrow).1
  | user | profile => rfl

theorem type_eq_of_code {type type' : RowType} {letters letters' : String} {i j : Int}
    (h : type.letters? = some letters) (h' : type'.letters? = some letters')
    (heq : sequenceCode letters i = sequenceCode letters' j) : type = type' := by
  have hhead := congrArg (·.toList.head?) heq
  cases type <;> cases type' <;> cases h <;> cases h'
  all_goals first
    | rfl
    | simp [sequenceCode, Code.organization, Code.role, Code.container, Code.pallet] at hhead

/-- A code shows its number, whatever letters stand before it; the letters of a table stand before the codes
of no other one; and up to five digits, the codes stand in the order of their numbers. -/
theorem codes_show_number_table_and_order :
    (∀ (letters : String) (i j : Int),
        sequenceCode letters i = sequenceCode letters j → i = j) ∧
      (∀ (type type' : RowType) (letters letters' : String) (i j : Int),
        type.letters? = some letters → type'.letters? = some letters' → type ≠ type' →
          sequenceCode letters i ≠ sequenceCode letters' j) ∧
      ∀ (letters : String) (i j : Int), 0 ≤ i → i < 100000 → 0 ≤ j → j < 100000 →
        (sequenceCode letters i < sequenceCode letters j ↔ i < j) := by
  refine ⟨fun letters i j h => sequenceCode_injective h, ?_,
    fun letters i j hi hi' hj hj' => sequenceCode_lt_iff hi hi' hj hj'⟩
  intro type type' letters letters' i j h h' htype heq
  exact htype (type_eq_of_code h h' heq)

/-- The sign of a negative number takes the first of the five places. -/
theorem codes_of_negative_and_long_numbers :
    sequenceCode Code.pallet (-42) = "PLT-0042" ∧ sequenceCode Code.pallet 42 = "PLT00042" ∧
      sequenceCode Code.pallet 123456 = "PLT123456" ∧
      sequenceCode Code.pallet (-42) ≠ sequenceCode Code.pallet 42 ∧
      sequenceCode Code.pallet 123456 ≠ sequenceCode Code.pallet 23456 ∧
      sequenceCode Code.container 42 ≠ sequenceCode Code.pallet 42 ∧
      sequenceCode Code.container 9 < sequenceCode Code.container 10 := by
  obtain ⟨hnumber, htable, horder⟩ := codes_show_number_table_and_order
  refine ⟨by decide +kernel, by decide +kernel, by decide +kernel, fun h => ?_, fun h => ?_, ?_, ?_⟩
  · exact absurd (hnumber _ _ _ h) (by decide)
  · exact absurd (hnumber _ _ _ h) (by decide)
  · exact htable .container .pallet _ _ _ _ rfl rfl (by decide)
  · exact (horder _ _ _ (by decide) (by decide) (by decide) (by decide)).2 (by decide)

theorem key_eq_of_code (hm : m.Sound) (hn : n.Sound) (hrow : m.Holds row) (hrow' : n.Holds row')
    (h : row.code? = some code) (h' : row'.code? = some code) : row.key = row'.key := by
  rw [code?_eq hm hrow] at h
  rw [code?_eq hn hrow'] at h'
  obtain ⟨letters, hletters, rfl⟩ := Option.map_eq_some_iff.1 h
  obtain ⟨letters', hletters', heq⟩ := Option.map_eq_some_iff.1 h'
  have htype : row.key.1 = row'.key.1 := type_eq_of_code hletters hletters' heq.symm
  obtain rfl : letters = letters' := by
    rw [htype, hletters'] at hletters
    exact (Option.some.inj hletters).symm
  exact Prod.ext htype (sequenceCode_injective heq.symm)

namespace Footprint.Done

variable {answer rows rows' : List Row} {type : RowType} {id : Id}

theorem exists_of_removed (h : (removed id).Done answer type rows rows') :
    ∃ row ∈ rows, row.key = (type, id) := by
  obtain ⟨before, row, after, hkey, rfl, rfl⟩ := h
  exact ⟨row, by simp, hkey⟩

theorem absent_of_removed (h : (removed id).Done answer type rows rows')
    (hnodup : (rows.map Row.key).Nodup) : ∀ row ∈ rows', row.key ≠ (type, id) := by
  obtain ⟨before, gone, after, hkey, rfl, rfl⟩ := h
  intro row hrow heq
  rw [List.map_append, List.map_cons, List.nodup_middle, List.nodup_cons, ← List.map_append,
    hkey] at hnodup
  exact hnodup.1 (heq ▸ List.mem_map_of_mem hrow)

end Footprint.Done

variable {s : Accounts.Settings} {es later earlier : List Event} {e : Event}

theorem visited_since : e.after :: visited later m ⊆ visited (later ++ e :: earlier) m := by
  intro n hn
  simp only [visited, List.flatMap_append, List.flatMap_cons, List.mem_cons, List.mem_append] at hn ⊢
  tauto

theorem Run.since (h : Run s es m) (hes : es = later ++ e :: earlier) :
    ∃ m', Run s earlier m' ∧ e = e.act.event s m' ∧
      ∀ n ∈ e.after :: visited later m, e.after.Later n := by
  induction h generalizing later with
  | start clock => simp at hes
  | @tick es m h now ih =>
    obtain ⟨m', hm', he, hlater⟩ := ih hes
    refine ⟨m', hm', he, fun n hn => ?_⟩
    have hm : e.after.Later m := hlater m (by simp [visited])
    simp only [visited, List.mem_cons] at hn hlater
    obtain hn | rfl | hn := hn
    · exact hlater n (.inl hn)
    · exact ⟨hm.organizations, hm.roles, hm.users, hm.containers, hm.pallets⟩
    · exact hlater n (.inr (.inr hn))
  | @act es m h a ih =>
    cases later with
    | nil =>
      obtain ⟨rfl, rfl⟩ := List.cons.inj hes
      refine ⟨m, h, rfl, fun n hn => ?_⟩
      obtain rfl : n = (a.event s m).after := by simpa [visited] using hn
      exact .refl
    | cons e' later =>
      obtain ⟨rfl, rfl⟩ := List.cons.inj hes
      obtain ⟨m', hm', he, hlater⟩ := ih rfl
      refine ⟨m', hm', he, fun n hn => ?_⟩
      have hm : e.after.Later m := hlater m (by simp [visited])
      have hafter : e.after.Later (a.event s m).after := hm.trans (h.later a)
      simp only [visited, List.flatMap_cons, List.cons_append, List.nil_append,
        List.mem_cons] at hn hlater
      obtain hn | rfl | rfl | rfl | hn := hn
      · exact hlater n (.inl hn)
      · exact hafter
      · exact hm
      · exact hafter
      · exact hlater n (.inr (.inr hn))

def Row.lookups : Row → List Job
  | .organization o => [.organization (.id o.id), .organization (.code o.code)]
  | .role r => [.role (.id r.id), .role (.code r.code)]
  | .user u => [.user (.id u.id)]
  | .profile _ => []
  | .container c => [.container (.id c.id), .container (.code c.code)]
  | .pallet x => [.pallet (.id x.id), .pallet (.code x.code)]

theorem run_lookup {c : Call} {visible : c.Answer → Except Error c.Answer} {a : c.Answer}
    (hfound : (Memory.handle c m).1 = .ok a) (hc : c.IsLookup) (hvisible : visible a = .ok a)
    (row : c.Answer → Row) :
    (((call c).bind fun a => Program.ofExcept (visible a)).bind fun a =>
      .done (Value.row (row a))).run Memory.handle m = (.ok (.row (row a)), m) := by
  have hcall : Memory.handle c m = (.ok a, m) := Prod.ext hfound (hc.handle_eq m)
  simp only [run_bind, run_call, hcall, hvisible, run_ofExcept, run_done]

theorem run_lookups (h : m.Named) (s : Accounts.Settings) (hrow : m.Holds row) {p : Principal}
    (hp : p.Owns row) {j : Job} (hj : j ∈ row.lookups) :
    (j.perform s p).run Memory.handle m = (.ok (.row row), m) := by
  cases row with
  | organization o =>
    have hvisible := Organizations.visible_eq_ok.2 ⟨rfl, hp⟩
    simp only [Row.lookups, List.mem_cons, List.not_mem_nil, or_false] at hj
    obtain rfl | rfl := hj
    · exact run_lookup (h.organizations.found o hrow) trivial hvisible .organization
    · exact run_lookup (h.organizationCodes.found o hrow) trivial hvisible .organization
  | role r =>
    have hvisible := Roles.visible_eq_ok.2 ⟨rfl, hp⟩
    simp only [Row.lookups, List.mem_cons, List.not_mem_nil, or_false] at hj
    obtain rfl | rfl := hj
    · exact run_lookup (h.roles.found r hrow) trivial hvisible .role
    · exact run_lookup (h.roleCodes.found r hrow) trivial hvisible .role
  | user u =>
    have hvisible := Users.visible_eq_ok.2 ⟨rfl, hp⟩
    obtain rfl := List.mem_singleton.1 hj
    exact run_lookup (h.users.found u hrow) trivial hvisible .user
  | profile => exact absurd hj List.not_mem_nil
  | container c =>
    have hvisible := Containers.visible_eq_ok.2 ⟨rfl, hp⟩
    simp only [Row.lookups, List.mem_cons, List.not_mem_nil, or_false] at hj
    obtain rfl | rfl := hj
    · exact run_lookup (h.containers.found c hrow) trivial hvisible .container
    · exact run_lookup (h.containerCodes.found c hrow) trivial hvisible .container
  | pallet x =>
    have hvisible := Pallets.visible_eq_ok.2 ⟨rfl, hp⟩
    simp only [Row.lookups, List.mem_cons, List.not_mem_nil, or_false] at hj
    obtain rfl | rfl := hj
    · exact run_lookup (h.pallets.found x hrow) trivial hvisible .pallet
    · exact run_lookup (h.palletCodes.found x hrow) trivial hvisible .pallet

theorem Call.footprint_profile (c : Call) (id : Id) : c.footprint .profile ≠ .removed id := by
  cases c with
  | organizations c | roles c | users c | profiles c | containers c | pallets c =>
    cases c <;> exact nofun

theorem Run.deletes (h : Run s es m) {a : Act} {reply : Reply} {type : RowType} {id : Id}
    (hreply : (a.event s m).outcome = .ok reply) (hremoved : a.footprint reply type = .removed id) :
    type ≠ .profile ∧ (∃ row ∈ m.rowsOf type, row.key = (type, id)) ∧
      ∀ row ∈ (a.event s m).after.rowsOf type, row.key ≠ (type, id) := by
  obtain ⟨hrest, -⟩ | ⟨c, seen, hseen, hread, hc, x, hx, hrows, hafter⟩ := Act.event_of_ok s hreply
  · rw [hrest.footprint] at hremoved
    cases hremoved
  · have htype : type ≠ .profile := by
      rintro rfl
      rw [hc.footprint hread hrows] at hremoved
      exact Call.footprint_profile c id hremoved
    have hdone := (hc.leaves hread h.sound (h.faithful hseen hc) hx hrows).tables type
    rw [hremoved] at hdone
    rw [hafter]
    exact ⟨htype, hdone.exists_of_removed, hdone.absent_of_removed (h.sound.nodup_rowsOf htype)⟩

/-- Between deletions and creations in whatever order, every number and every code of a row leads to this
row and to no other; and those of a row that was deleted are not given to another one, as long as the
run goes on. -/
theorem names_are_given_once (h : Run s es m) :
    m.Named ∧
      (∀ row, m.Holds row → ∀ p : Principal, p.Owns row → ∀ j ∈ row.lookups,
        (j.perform s p).run Memory.handle m = (.ok (.row row), m)) ∧
      ∀ later e earlier reply type id, es = later ++ e :: earlier → e.outcome = .ok reply →
        e.act.footprint reply type = .removed id →
          ∃ gone, e.before.Holds gone ∧ gone.key = (type, id) ∧
            ∀ n ∈ e.after :: visited later m, ∀ row, n.Holds row →
              row.key ≠ (type, id) ∧ (gone.code?.isSome → row.code? ≠ gone.code?) := by
  have hnamed := h.sound.named
  refine ⟨hnamed, fun row hrow p hp j hj => run_lookups hnamed s hrow hp hj, ?_⟩
  intro later e earlier reply type id hes hreply hremoved
  obtain ⟨m', hm', he, hlater⟩ := h.since hes
  obtain ⟨states, hlineage, hstates, -⟩ := h.lineage
  have hbefore : e.before = m' := congrArg Event.before he
  have hafter : e.after = (e.act.event s m').after := congrArg Event.after he
  rw [he] at hreply
  obtain ⟨htype, ⟨gone, hgone, hkey⟩, habsent⟩ := hm'.deletes hreply hremoved
  have hid : id ≤ (m'.given type : Int) := by
    have hbound := hm'.sound.key_le htype hgone
    rwa [hkey] at hbound
  have hgiven : m'.given type ≤ e.after.given type := hafter ▸ (hm'.later e.act).given type
  have hid' : id ≤ (e.after.given type : Int) := Int.le_trans hid (by exact_mod_cast hgiven)
  rw [← hafter] at habsent
  have hheld : m'.Holds gone := Memory.holds_iff.2 (by rwa [hkey])
  refine ⟨gone, by rwa [hbefore], hkey, fun n hn row hrow => ?_⟩
  have hne : row.key ≠ (type, id) := by
    intro heq
    have hmem := Memory.holds_iff.1 hrow
    rw [heq] at hmem
    exact (hlater n hn).absent htype hid' habsent row hmem heq
  have hsound : n.Sound := hlineage.sound n (hstates (hes ▸ visited_since hn))
  refine ⟨hne, fun hsome heq => hne ?_⟩
  obtain ⟨code, hcode⟩ := Option.isSome_iff_exists.1 hsome
  rw [hcode] at heq
  rw [key_eq_of_code hsound hm'.sound hrow hheld heq hcode, hkey]

/-- The last of two containers is deleted and another one created: it is the third one. -/
theorem number_of_deleted_container_is_not_given_again :
    ∃ (s : Accounts.Settings) (later earlier : List Event) (e : Event) (m : Memory),
      Run s (later ++ e :: earlier) m ∧
        (e.before.containers.rows.map (·.code)) = ["CNT00001", "CNT00002"] ∧
        (m.containers.rows.map (·.code)) = ["CNT00001", "CNT00003"] ∧
        (∀ row, m.Holds row → row.key ≠ (.container, 2)) ∧
        ∀ c ∈ m.containers.rows, (Memory.handle (.containers (.byCode c.code)) m).1 = .ok c := by
  let s : Accounts.Settings := ⟨"k", 60, 4⟩
  let p : Principal := ⟨1, .member 1 1⟩
  let founding : Act :=
    .registerOrganization ⟨"Acme", none, ⟨"Ada", "A", "ada@x.org", "1", "secret"⟩⟩
  let creation : Act := .job p (.containerCreate ⟨none, none⟩)
  let deletion : Act := .job ⟨9, .admin⟩ (.containerDelete 2)
  have hbefore := (((Run.start (s := s) ⟨0⟩).act founding).act creation).act creation
  have hrun := (hbefore.act deletion).act creation
  obtain ⟨hnamed, -, hgone⟩ := names_are_given_once hrun
  obtain ⟨gone, -, -, habsent⟩ :=
    hgone [_] _ _ ⟨[], none⟩ .container 2 rfl (by decide +kernel) rfl
  refine ⟨s, [_], _, _, _, hrun, ?_, ?_, fun row hrow => ?_, hnamed.containerCodes.found⟩
  · decide +kernel
  · decide +kernel
  · exact (habsent _ (by simp [visited]) row hrow).1

end Depot.Operation
