import Depot.Proofs.Identity
import Depot.Proofs.Profiles
import Depot.Proofs.Sessions
import Depot.Proofs.Traceless

namespace Depot.Operation

open Program Store

def referring (type : RowType) (id : Option Id) : List (RowType × Id) := id.toList.map (type, ·)

def Row.references : Row → List (RowType × Id)
  | .organization _ => []
  | .role r => referring .organization (some r.organizationId)
  | .user u => referring .organization u.organizationId ++ referring .role u.roleId
  | .profile q => referring .user (some q.userId)
  | .container c => referring .organization c.organizationId
  | .pallet x => referring .organization x.organizationId ++ referring .container x.containerId

end Depot.Operation

namespace Depot

open Operation

def Principal.tenant? (p : Principal) (requested : Option Id) : Option Id :=
  match p.owningTenant requested with
  | .ok own => some own
  | .error _ => none

theorem Principal.tenant?_eq {p : Principal} {requested : Option Id} {own : Id}
    (h : p.owningTenant requested = .ok own) : p.tenant? requested = some own := by
  rw [tenant?, h]

def Principal.references (p : Principal) : List (RowType × Id) :=
  referring .organization p.organization? ++ referring .role p.role?

def Store.Memory.Has (m : Memory) (key : RowType × Id) : Prop := ∃ row, m.Holds row ∧ row.key = key

end Depot

namespace Depot.Operation

open Program Store

/-- The kind of the row that an act adds under an organization that it takes from the caller, and this
organization. -/
def Act.brings? : Act → Option (RowType × Id)
  | .job p (.roleCreate c) =>
    if p.isAdmin then none else (p.tenant? c.organizationId).map (.role, ·)
  | .job p (.containerCreate c) => (p.tenant? c.organizationId).map (.container, ·)
  | .job p (.palletCreate c) => (p.tenant? c.organizationId).map (.pallet, ·)
  | _ => none

/-- The rows that a new row refers to by the request, other than an organization that it brings along. -/
def Act.names : Act → List (RowType × Id)
  | .registerMember p r =>
    referring .organization (p.tenant? r.organizationId) ++
      referring .role (some r.roleId)
  | .job p (.roleCreate c) =>
    if p.isAdmin then referring .organization (p.tenant? c.organizationId) else []
  | .job _ (.palletCreate c) => referring .container c.containerId
  | _ => []

/-- The act added the row of the first key, and brought the organization of the second one along. -/
def Event.Brings (e : Event) (row key : RowType × Id) : Prop :=
  ∃ reply, e.outcome = .ok reply ∧ (∃ added ∈ reply.rows, added.key = row) ∧
    ∃ id, e.act.brings? = some (row.1, id) ∧ key = (.organization, id)

/-- An administrator took the row of that key out. -/
def Event.Deletes (e : Event) (key : RowType × Id) : Prop :=
  (∃ reply, e.outcome = .ok reply ∧ e.act.footprint reply key.1 = .removed key.2) ∧
    ∃ p, e.act.caller? = some p ∧ p.isAdmin

def Leads (es : List Event) (m : Memory) (key : RowType × Id) : Prop :=
  m.Has key ∨ ∃ e ∈ es, e.Deletes key

theorem mem_referring {type : RowType} {id : Option Id} {key : RowType × Id} :
    key ∈ referring type id ↔ ∃ i, id = some i ∧ key = (type, i) := by
  cases id <;> simp [referring]

end Depot.Operation

namespace Depot.Operation.Footprint.Done

variable {answer rows rows' : List Row} {type : RowType} {id : Id} {f : Footprint}

theorem has (h : f.Done answer type rows rows') (hf : f ≠ .removed id)
    (hkey : ∃ row ∈ rows, row.key = (type, id)) : ∃ row ∈ rows', row.key = (type, id) := by
  obtain ⟨row, hrow, hkey⟩ := hkey
  cases f with
  | kept =>
    have hrows : rows' = rows := h
    exact ⟨row, hrows ▸ hrow, hkey⟩
  | added =>
    obtain ⟨new, -, rfl⟩ := h
    exact ⟨row, List.mem_append_left _ hrow, hkey⟩
  | removed gone =>
    obtain ⟨before, out, after, hout, rfl, rfl⟩ := h
    have hne : row ≠ out := by
      rintro rfl
      exact hf (congrArg Footprint.removed (congrArg Prod.snd (hout.symm.trans hkey)))
    obtain hrow | hrow := List.mem_append.1 hrow
    · exact ⟨row, List.mem_append_left _ hrow, hkey⟩
    · exact ⟨row, List.mem_append_right _ ((List.mem_cons.1 hrow).resolve_left hne), hkey⟩
  | changed touched =>
    obtain ⟨before, old, new, after, hold, hnew, rfl, rfl⟩ := h
    obtain hrow | hrow := List.mem_append.1 hrow
    · exact ⟨row, List.mem_append_left _ hrow, hkey⟩
    · obtain rfl | hrow := List.mem_cons.1 hrow
      · exact ⟨new, by simp, hnew.trans (hold.symm.trans hkey)⟩
      · exact ⟨row, by simp [hrow], hkey⟩

theorem mem_of_removed (h : (removed id).Done answer type rows rows')
    (hnodup : (rows.map Row.key).Nodup) {row : Row} :
    row ∈ rows' ↔ row ∈ rows ∧ row.key ≠ (type, id) := by
  have habsent := h.absent_of_removed hnodup
  obtain ⟨before, out, after, hout, rfl, rfl⟩ := h
  refine ⟨fun hrow => ⟨?_, habsent row hrow⟩, fun ⟨hrow, hne⟩ => ?_⟩
  · obtain hrow | hrow := List.mem_append.1 hrow
    · exact List.mem_append_left _ hrow
    · exact List.mem_append_right _ (List.mem_cons_of_mem _ hrow)
  · obtain hrow | hrow := List.mem_append.1 hrow
    · exact List.mem_append_left _ hrow
    · obtain rfl | hrow := List.mem_cons.1 hrow
      · exact absurd hout hne
      · exact List.mem_append_right _ hrow

end Depot.Operation.Footprint.Done

namespace Depot.Store

open Operation Record

variable {m n : Memory} {key : RowType × Id} {c : Call}

theorem Stored.has {seen : List Memory} {row : Row} (h : Stored seen row) (hseen : seen ⊆ [m]) :
    m.Has row.key := by
  obtain ⟨n, hn, hrow⟩ := h
  obtain rfl := List.mem_singleton.1 (hseen hn)
  exact ⟨row, hrow, rfl⟩

namespace Memory

theorem has_iff : m.Has key ↔ ∃ row ∈ m.rowsOf key.1, row.key = key := by
  constructor
  · rintro ⟨row, hrow, rfl⟩
    exact ⟨row, holds_iff.1 hrow, rfl⟩
  · rintro ⟨row, hrow, rfl⟩
    exact ⟨row, holds_iff.2 hrow, rfl⟩

instance : Decidable (m.Has key) := decidable_of_iff _ has_iff.symm

instance (row : Row) : Decidable (m.Holds row) := decidable_of_iff _ holds_iff.symm

theorem holds_tick {now : Timestamp} {row : Row} :
    ({ m with clock := now } : Memory).Holds row ↔ m.Holds row := by
  cases row <;> exact Iff.rfl

theorem has_tick {now : Timestamp} : ({ m with clock := now } : Memory).Has key ↔ m.Has key := by
  simp only [Has, holds_tick]

theorem Has.handle (h : m.Has key) (hs : m.Sound) (hread : ¬ c.IsRead) {x : c.Answer}
    (hx : (handle c m).1 = .ok x) (hc : c.footprint key.1 ≠ .removed key.2) :
    (handle c m).2.Has key :=
  has_iff.2 ((handle_footprint hs hread hx key.1).has hc (has_iff.1 h))

theorem Has.handle_of_kept (h : m.Has key) (hs : m.Sound) (hread : ¬ c.IsRead) {x : c.Answer}
    (hx : (Memory.handle c m).1 = .ok x) (hc : c.footprint key.1 = .kept) :
    (Memory.handle c m).2.Has key :=
  h.handle hs hread hx (by simp [hc])

theorem register_holds {new : NewOrganization} {owner : NewAccount} {x : Organization × Role × User}
    (hx : (handle (.organizations (.register new owner)) m).1 = .ok x) :
    (handle (.organizations (.register new owner)) m).2.Has (.organization, m.organizations.nextId) ∧
      (handle (.organizations (.register new owner)) m).2.Has (.role, m.roles.nextId) := by
  simp only [handle, organizationCall, register] at hx ⊢
  cases hcheck : checkAccount m.users.rows owner.email owner.phone with
  | error e =>
    rw [hcheck] at hx
    cases hx
  | ok _ =>
    refine ⟨⟨.organization (organizationRow m.organizations.nextId new m.clock), ?_, rfl⟩,
      ⟨.role (roleRow m.roles.nextId ⟨Role.ownerName, [], true, m.organizations.nextId⟩ m.clock),
        ?_, rfl⟩⟩
    · exact List.mem_append_right _ List.mem_cons_self
    · exact List.mem_append_right _ List.mem_cons_self

end Memory

end Depot.Store

namespace Depot.Operation

open Program Store

variable {s : Accounts.Settings} {seen : List Memory} {a : Act} {c : Call} {m : Memory}
variable {key : RowType × Id}

/-- Where a reference of a row after a write comes from: the row had it before, or it leads to a row, or
the act brings the organization along with the new row. -/
inductive Refers (a : Act) (c : Call) (m : Memory) (added : List Row) (row : Row)
    (key : RowType × Id) : Prop
  | old (before : Row) (h : m.Holds before) (hrow : before.key = row.key)
    (hkey : key ∈ before.references)
  | has (h : (Memory.handle c m).2.Has key)
  | brought (id : Id) (h : ∃ new ∈ added, new.key = row.key) (hact : a.brings? = some (row.key.1, id))
    (hkey : key = (.organization, id))

theorem profile_refers {added : List Row} {q : Profile} (hq : q ∈ (Memory.handle c m).2.profiles)
    (hkey : key ∈ (Row.profile q).references) : Refers a c m added (.profile q) key := by
  obtain ⟨id, hid, rfl⟩ := mem_referring.1 hkey
  cases hid
  have old (hq : q ∈ m.profiles) : Refers a c m added (.profile q) (.user, q.userId) :=
    .old (.profile q) hq rfl hkey
  by_cases hcustomer : ∃ account, c = .users (.insertCustomer account)
  · obtain ⟨account, rfl⟩ := hcustomer
    obtain hrest | ⟨new, hnumber, hprofiles, husers⟩ := Memory.profiles_insertCustomer account m
    · rw [hrest] at hq
      exact old hq
    · rw [hprofiles] at hq
      obtain hq | hq := List.mem_append.1 hq
      · exact old hq
      · obtain rfl := List.mem_singleton.1 hq
        refine .has ⟨.user (Memory.userRow m.users.nextId account .customer m.clock), ?_, ?_⟩
        · rw [Memory.Holds, husers]
          exact List.mem_append_right _ List.mem_cons_self
        · exact congrArg (RowType.user, ·) hnumber.symm
  · rw [Memory.profiles_eq fun account heq => hcustomer ⟨account, heq⟩] at hq
    exact old hq

section Rows

variable (hs : m.Sound) (hfaithful : m.Faithful c) (hseen : seen ⊆ [m]) (hread : ¬ c.IsRead)
variable (ha : a.Licensed s seen c) {x : c.Answer} (hx : (Memory.handle c m).1 = .ok x)

include hs hfaithful hseen hread ha hx

theorem role_refers {r : Role} (hr : r ∈ (Memory.handle c m).2.roles.rows)
    (hkey : key ∈ (Row.role r).references) : Refers a c m (c.rows x) (.role r) key := by
  obtain ⟨id, hid, rfl⟩ := mem_referring.1 hkey
  obtain ⟨old, hold, heq⟩ | hnew := (Memory.handle_step c hfaithful).roles.exists hr
  · refine .old (.role old) hold ?_ ?_
    · exact congrArg (RowType.role, ·) (key_eq heq)
    · exact mem_referring.2 ⟨id, (congrArg some (role_owner heq)).trans hid, rfl⟩
  · cases hnew with
    | register new owner =>
      cases hid
      exact .has (Memory.register_holds hx).1
    | insert new =>
      cases ha with
      | read hc => exact absurd hc hread
      | @job p j _ hj =>
        cases hj with
        | @roleCreate creation own _ _ howner hadmin _ =>
          cases hid
          by_cases hp : p.isAdmin
          · obtain ⟨o, ho, rfl⟩ := hadmin hp
            exact .has ((ho.has hseen).handle_of_kept hs hread hx rfl)
          · refine .brought own ⟨.role x, List.mem_singleton_self _, ?_⟩ ?_ rfl
            · cases hx
              rfl
            · simp [Act.brings?, hp, Principal.tenant?_eq howner, Row.key]

theorem user_refers {u : User} (hu : u ∈ (Memory.handle c m).2.users.rows)
    (hkey : key ∈ (Row.user u).references) : Refers a c m (c.rows x) (.user u) key := by
  obtain ⟨old, hold, heq⟩ | hnew := (Memory.handle_step c hfaithful).users.exists hu
  · refine .old (.user old) hold ?_ ?_
    · exact congrArg (RowType.user, ·) (key_eq heq)
    · rwa [Row.references, user_owner heq, user_role heq]
  · cases hnew with
    | register new owner =>
      obtain ⟨horganization, hrole⟩ := Memory.register_holds hx
      obtain hkey | hkey := List.mem_append.1 hkey
      · obtain ⟨id, hid, rfl⟩ := mem_referring.1 hkey
        cases hid
        exact .has horganization
      · obtain ⟨id, hid, rfl⟩ := mem_referring.1 hkey
        cases hid
        exact .has hrole
    | customer account => exact absurd hkey List.not_mem_nil
    | insert new =>
      cases ha with
      | read hc => exact absurd hc hread
      | seedAdmin _ | registerAdmin _ => exact absurd hkey List.not_mem_nil
      | registerMember _ ho hrole =>
        obtain ⟨o, ho, rfl⟩ := ho
        obtain hkey | hkey := List.mem_append.1 hkey
        · obtain ⟨id, hid, rfl⟩ := mem_referring.1 hkey
          cases hid
          exact .has ((ho.has hseen).handle_of_kept hs hread hx rfl)
        · obtain ⟨id, hid, rfl⟩ := mem_referring.1 hkey
          cases hid
          exact .has ((hrole.has hseen).handle_of_kept hs hread hx rfl)
      | job hj => cases hj

omit hs hseen in
theorem container_refers {y : Container} (hy : y ∈ (Memory.handle c m).2.containers.rows)
    (hkey : key ∈ (Row.container y).references) : Refers a c m (c.rows x) (.container y) key := by
  obtain ⟨id, hid, rfl⟩ := mem_referring.1 hkey
  obtain ⟨old, hold, heq⟩ | hnew := (Memory.handle_step c hfaithful).containers.exists hy
  · refine .old (.container old) hold ?_ ?_
    · exact congrArg (RowType.container, ·) (key_eq heq)
    · exact mem_referring.2 ⟨id, (container_owner heq).trans hid, rfl⟩
  · cases hnew with
    | insert new =>
      cases ha with
      | read hc => exact absurd hc hread
      | job hj =>
        cases hj with
        | @containerCreate creation own howner =>
          cases hid
          refine .brought own ⟨.container x, List.mem_singleton_self _, ?_⟩ ?_ rfl
          · cases hx
            rfl
          · simp [Act.brings?, Principal.tenant?_eq howner, Row.key]

theorem pallet_refers {y : Pallet} (hy : y ∈ (Memory.handle c m).2.pallets.rows)
    (hkey : key ∈ (Row.pallet y).references) : Refers a c m (c.rows x) (.pallet y) key := by
  obtain ⟨old, hold, heq, hplace⟩ | hnew | ⟨old, hold, z, rfl, hid, heq, hplace⟩ :=
    Memory.pallet_place hy
  · refine .old (.pallet old) hold ?_ ?_
    · exact congrArg (RowType.pallet, ·) (key_eq heq)
    · rwa [Row.references, pallet_owner heq, hplace]
  · cases hnew with
    | insert new =>
      cases ha with
      | read hc => exact absurd hc hread
      | job hj =>
        cases hj with
        | @palletCreate creation own howner hcontainer =>
          obtain hkey | hkey := List.mem_append.1 hkey
          · obtain ⟨id, hid, rfl⟩ := mem_referring.1 hkey
            cases hid
            refine .brought own ⟨.pallet x, List.mem_singleton_self _, ?_⟩ ?_ rfl
            · cases hx
              rfl
            · simp [Act.brings?, Principal.tenant?_eq howner, Row.key]
          · obtain ⟨id, hid, rfl⟩ := mem_referring.1 hkey
            obtain ⟨y, hy, rfl, -⟩ := hcontainer id hid
            exact .has ((hy.has hseen).handle_of_kept hs hread hx rfl)
  · have before (hkey : key ∈ (Row.pallet old).references) :
        Refers a (.pallets (.update z)) m ((Call.pallets (.update z)).rows x) (.pallet y) key :=
      .old (.pallet old) hold (congrArg (RowType.pallet, ·) (key_eq heq)) hkey
    -- the row that the act has read is the one that it writes
    have same {w : Pallet} (hw : Stored seen (.pallet w)) (hwid : w.id = z.id) : w = old := by
      obtain ⟨n, hn, hw⟩ := hw
      obtain rfl := List.mem_singleton.1 (hseen hn)
      exact hs.pallets.eq_of_key hw hold (hwid.trans hid.symm)
    obtain hkey | hkey := List.mem_append.1 hkey
    · rw [← pallet_owner heq] at hkey
      exact before (List.mem_append_left _ hkey)
    · rw [hplace] at hkey
      cases ha with
      | read hc => exact absurd hc hread
      | job hj =>
        cases hj with
        | @palletUpdate change w hw _ hcontainer =>
          obtain rfl := same hw.stored rfl
          obtain ⟨-, own, hown⟩ := hs.pallets.born w hold
          by_cases hmoved : change.containerId = w.containerId
          · apply before
            exact List.mem_append_right _ (hmoved ▸ hkey)
          · obtain ⟨id, hid, rfl⟩ := mem_referring.1 hkey
            obtain ⟨y, hy, rfl, -⟩ := hcontainer id own hmoved hid hown
            exact .has ((hy.has hseen).handle_of_kept hs hread hx rfl)
        | palletArchive _ hw =>
          obtain rfl := same hw.stored rfl
          exact before (List.mem_append_right _ hkey)

theorem row_refers {row : Row} (hrow : (Memory.handle c m).2.Holds row)
    (hkey : key ∈ row.references) : Refers a c m (c.rows x) row key := by
  cases row with
  | organization o => exact absurd hkey List.not_mem_nil
  | role r => exact role_refers hs hfaithful hseen hread ha hx hrow hkey
  | user u => exact user_refers hs hfaithful hseen hread ha hx hrow hkey
  | profile q => exact profile_refers hrow hkey
  | container y => exact container_refers hfaithful hread ha hx hrow hkey
  | pallet y => exact pallet_refers hs hfaithful hseen hread ha hx hrow hkey

end Rows

variable {es : List Event} {e : Event} {p : Principal}

theorem Event.Brings.not_user {id : Id} : ¬ e.Brings (.user, id) key := by
  rintro ⟨-, -, -, i, hact, -⟩
  unfold Act.brings? at hact
  split at hact
  · split at hact
    · cases hact
    · simp at hact
  · simp at hact
  · simp at hact
  · cases hact

theorem Leads.cons (h : Leads es m key) {n : Memory} (hm : m.Has key → n.Has key ∨ e.Deletes key) :
    Leads (e :: es) n key := by
  obtain h | ⟨e', he', hdeletes⟩ := h
  · obtain h | h := hm h
    · exact .inl h
    · exact .inr ⟨e, List.mem_cons_self, h⟩
  · exact .inr ⟨e', List.mem_cons_of_mem _ he', hdeletes⟩

theorem Run.has_after (h : Run s es m) (a : Act) (hkey : m.Has key) :
    (a.event s m).after.Has key ∨ (a.event s m).Deletes key := by
  obtain hafter | ⟨c, seen, hseen, hread, hc, x, reply, hx, hrows, hreply, hafter⟩ :=
    a.event_writes s m
  · rw [hafter]
    exact .inl hkey
  · rw [hafter]
    by_cases hremoved : c.footprint key.1 = .removed key.2
    · refine .inr ⟨⟨reply, hreply, ?_⟩, hc.isAdmin_of_removed hread hremoved⟩
      exact (hc.footprint hread hrows key.1).trans hremoved
    · exact .inl (hkey.handle h.sound hread hx hremoved)

theorem Act.user_of_session {a : Act} {reply : Reply} (h : (a.event s m).outcome = .ok reply)
    {t : Accounts.Session} (ht : reply.session = some t) :
    ∃ u ∈ m.users.rows, u.principal = .ok t.principal := by
  cases a with
  | login now door c =>
    obtain ⟨t', hlogin, rfl⟩ := run_map_eq_ok h
    cases ht
    obtain ⟨u, hu, -, hp, -⟩ := user_of_login hlogin
    exact ⟨u, hu, hp⟩
  | _ =>
    obtain ⟨x, -, rfl⟩ := run_map_eq_ok h
    cases ht

theorem references_of_principal {u : User} (hborn : Record.born u) (h : u.principal = .ok p) :
    (Row.user u).references = p.references := by
  have hflags := flags_of_principal hborn h
  have horganization : u.organizationId = p.organization? := congrArg Flags.organizationId hflags
  have hrole : u.roleId = p.role? := congrArg Flags.roleId hflags
  rw [Row.references, Principal.references, horganization, hrole]

/-- Where the references lead that a run has made. -/
structure Referring (es : List Event) (m : Memory) : Prop where
  rows : ∀ row, m.Holds row → ∀ key ∈ row.references,
    Leads es m key ∨ ∃ e ∈ es, e.Brings row.key key
  principals : ∀ p, Issued es p → ∀ key ∈ p.references, Leads es m key

namespace Referring

theorem start (clock : Timestamp) : Referring [] (Memory.empty clock) where
  rows row hrow := by
    have hmem := Memory.holds_iff.1 hrow
    cases row <;> exact absurd hmem List.not_mem_nil
  principals p hp := by
    obtain ⟨e, he, -⟩ := hp
    exact absurd he List.not_mem_nil

theorem tick (h : Referring es m) (now : Timestamp) : Referring es { m with clock := now } where
  rows row hrow key hkey := by
    obtain hlead | hbrings := h.rows row (Memory.holds_tick.1 hrow) key hkey
    · exact .inl (hlead.imp_left Memory.has_tick.2)
    · exact .inr hbrings
  principals p hp key hkey := (h.principals p hp key hkey).imp_left Memory.has_tick.2

theorem act (h : Referring es m) (hrun : Run s es m) (a : Act) :
    Referring (a.event s m :: es) (a.event s m).after where
  rows row hrow key hkey := by
    -- what holds of a reference before the act holds of it afterwards
    have stays {row' : Row} (hrow' : m.Holds row') (hsame : row'.key = row.key)
        (hkey' : key ∈ row'.references) : Leads (a.event s m :: es) (a.event s m).after key ∨
          ∃ e ∈ a.event s m :: es, e.Brings row.key key := by
      obtain hlead | ⟨e, he, hbrings⟩ := h.rows row' hrow' key hkey'
      · exact .inl (hlead.cons (hrun.has_after a))
      · exact .inr ⟨e, List.mem_cons_of_mem _ he, hsame ▸ hbrings⟩
    obtain hafter | ⟨c, seen, hseen, hread, hc, x, reply, hx, hrows, hreply, hafter⟩ :=
      a.event_writes s m
    · rw [hafter] at hrow
      exact stays hrow rfl hkey
    · rw [hafter] at hrow
      cases row_refers hrun.sound (hrun.faithful hseen hc) hseen hread hc hx hrow hkey with
      | old before hbefore hsame hkey' => exact stays hbefore hsame hkey'
      | has hhas => exact .inl (.inl (hafter ▸ hhas))
      | brought id hnew hact heq =>
        exact .inr ⟨_, List.mem_cons_self, reply, hreply, hrows ▸ hnew, id, hact, heq⟩
  principals p hp key hkey := by
    obtain ⟨e, he, hp⟩ := hp
    obtain rfl | he := List.mem_cons.1 he
    · unfold Event.principal? at hp
      split at hp
      · rename_i reply hreply
        obtain ⟨t, ht, rfl⟩ := Option.map_eq_some_iff.1 hp
        obtain ⟨u, hu, hprincipal⟩ := Act.user_of_session hreply ht
        rw [← references_of_principal (hrun.sound.users.born u hu) hprincipal] at hkey
        obtain hlead | ⟨e, -, hbrings⟩ := h.rows (.user u) hu key hkey
        · exact hlead.cons (hrun.has_after a)
        · exact absurd hbrings Event.Brings.not_user
      · cases hp
    · exact (h.principals p ⟨e, he, hp⟩ key hkey).cons (hrun.has_after a)

end Referring

theorem Act.Licensed.has_names (ha : a.Licensed s seen c) (hread : ¬ c.IsRead) (hseen : seen ⊆ [m])
    (hkey : key ∈ a.names) : m.Has key := by
  cases ha with
  | read hc => exact absurd hc hread
  | registerMember howner ho hrole hid =>
    obtain ⟨o, ho, rfl⟩ := ho
    obtain hkey | hkey := List.mem_append.1 hkey
    · obtain ⟨id, hid, rfl⟩ := mem_referring.1 hkey
      rw [Principal.tenant?_eq howner] at hid
      cases hid
      exact ho.has hseen
    · obtain ⟨id, hid', rfl⟩ := mem_referring.1 hkey
      cases hid'
      exact hid ▸ hrole.has hseen
  | job hj =>
    cases hj with
    | roleCreate _ _ howner hadmin =>
      simp only [Act.names] at hkey
      split at hkey
      · rename_i hp
        obtain ⟨o, ho, rfl⟩ := hadmin hp
        obtain ⟨id, hid, rfl⟩ := mem_referring.1 hkey
        rw [Principal.tenant?_eq howner] at hid
        cases hid
        exact ho.has hseen
      · exact absurd hkey List.not_mem_nil
    | palletCreate _ hcontainer =>
      obtain ⟨id, hid, rfl⟩ := mem_referring.1 hkey
      obtain ⟨y, hy, rfl, -⟩ := hcontainer id hid
      exact hy.has hseen
    | _ => exact absurd hkey List.not_mem_nil
  | _ => exact absurd hkey List.not_mem_nil

theorem Act.MayRest.names_eq_nil {reply : Reply} (h : a.MayRest reply) : a.names = [] := by
  cases a with
  | login | seedAdmin => rfl
  | job p j =>
    cases j
    all_goals first
      | exact h.elim
      | rfl
  | _ => exact h.elim

theorem Act.Licensed.has_container {change : Pallets.Change}
    (ha : (Act.job p (.palletUpdate change)).Licensed s seen c) (hread : ¬ c.IsRead) (hs : m.Sound)
    (hseen : seen ⊆ [m]) {id : Id} (hid : change.containerId = some id) :
    m.Has (.container, id) ∨ ∃ y ∈ m.pallets.rows, y.id = change.id ∧ y.containerId = some id := by
  cases ha with
  | read hc => exact absurd hc hread
  | job hj =>
    cases hj with
    | @palletUpdate _ y hy hyid hcontainer =>
      obtain ⟨n, hn, hy⟩ := hy.stored
      obtain rfl := List.mem_singleton.1 (hseen hn)
      obtain ⟨-, own, hown⟩ := hs.pallets.born y hy
      by_cases hmoved : change.containerId = y.containerId
      · exact .inr ⟨y, hy, hyid, hmoved ▸ hid⟩
      · obtain ⟨z, hz, rfl, -⟩ := hcontainer id own hmoved hid hown
        exact .inl (hz.has hseen)

theorem withoutId_of_mem {α : Type} {rows : List α} {id : α → Id} {row : α} (h : row ∈ rows) :
    Memory.withoutId rows id (id row) = some (rows.filter fun x => id x != id row) := by
  rw [Memory.withoutId, if_pos]
  exact List.any_eq_true.2 ⟨row, h, beq_self_eq_true _⟩

theorem exists_of_removed {type : RowType} {id : Id} (hc : c.footprint type = .removed id)
    (hkey : m.Has (type, id)) : ∃ x, (Memory.handle c m).1 = .ok x := by
  obtain ⟨row, hrow, hkey⟩ := hkey
  unfold Call.footprint at hc
  split at hc
  all_goals cases hc
  all_goals
    cases row
    all_goals cases hkey
    simp only [Memory.handle, Memory.organizationCall, Memory.roleCall, Memory.userCall,
      Memory.containerCall, Memory.palletCall]
    rw [withoutId_of_mem hrow]
    exact ⟨(), rfl⟩

theorem run_delete {x : c.Answer} (hp : p.isAdmin) (hx : (Memory.handle c m).1 = .ok x) :
    (((((Program.ofExcept p.requireAdmin).bind fun _ => call c).bind fun _ => .done Value.done).bind
      fun v => .done (⟨v.rows, none⟩ : Reply)).run Memory.handle m).1 = .ok ⟨[], none⟩ := by
  have hadmin : p.requireAdmin = .ok () := if_pos hp
  have hcall : Memory.handle c m = (.ok x, (Memory.handle c m).2) := Prod.ext hx rfl
  simp only [hadmin, run_bind, run_call, run_ofExcept]
  rw [hcall]
  rfl

theorem Job.outcome_of_removed {j : Job} {type : RowType} {id : Id} (hp : p.isAdmin)
    (hj : j.footprint p type = .removed id) (hkey : m.Has (type, id)) :
    ((Act.job p j).event s m).outcome = .ok ⟨[], none⟩ := by
  unfold Job.footprint at hj
  split at hj
  all_goals cases hj
  · obtain ⟨x, hx⟩ := exists_of_removed (c := .organizations (.delete id)) rfl hkey
    exact run_delete hp hx
  · obtain ⟨x, hx⟩ := exists_of_removed (c := .roles (.delete id)) rfl hkey
    exact run_delete hp hx
  · obtain ⟨x, hx⟩ := exists_of_removed (c := .users (.delete id)) rfl hkey
    exact run_delete hp hx
  · obtain ⟨x, hx⟩ := exists_of_removed (c := .containers (.delete id)) rfl hkey
    exact run_delete hp hx
  · obtain ⟨x, hx⟩ := exists_of_removed (c := .pallets (.delete id)) rfl hkey
    exact run_delete hp hx

theorem Job.footprint_of_removed {j : Job} {type type' : RowType} {id : Id}
    (hj : j.footprint p type = .removed id) (htype : type' ≠ type) :
    j.footprint p type' = .kept := by
  unfold Job.footprint at hj
  split at hj
  all_goals cases hj
  all_goals
    cases type'
    all_goals first
      | rfl
      | exact absurd rfl htype

theorem Run.referring (h : Run s es m) : Referring es m := by
  induction h with
  | start clock => exact .start clock
  | tick _ now ih => exact ih.tick now
  | act h a ih => exact ih.act h a

theorem Act.references_of_brings {a : Act} {type : RowType} {id : Id}
    (hbrings : a.brings? = some (type, id)) (hcaller : a.caller? = some p) (hp : p.isAdmin = false) :
    (.organization, id) ∈ p.references := by
  have member {requested : Option Id} (h : p.tenant? requested = some id) :
      (.organization, id) ∈ p.references := by
    unfold Principal.tenant? at h
    split at h
    · rename_i own howner
      cases h
      have horganization := Principal.organization?_of_owningTenant hp howner
      exact List.mem_append_left _ (mem_referring.2 ⟨id, horganization, rfl⟩)
    · cases h
  unfold Act.brings? at hbrings
  split at hbrings
  · cases hcaller
    rw [if_neg (by simp [hp])] at hbrings
    obtain ⟨i, hi, heq⟩ := Option.map_eq_some_iff.1 hbrings
    cases heq
    exact member hi
  · cases hcaller
    obtain ⟨i, hi, heq⟩ := Option.map_eq_some_iff.1 hbrings
    cases heq
    exact member hi
  · cases hcaller
    obtain ⟨i, hi, heq⟩ := Option.map_eq_some_iff.1 hbrings
    cases heq
    exact member hi
  · cases hbrings

theorem Referring.leads_or_named (h : Referring es m) {row : Row} (hrow : m.Holds row)
    (hkey : key ∈ row.references) :
    Leads es m key ∨ ∃ e ∈ es, e.Brings row.key key ∧
      ∀ p, e.act.caller? = some p → Issued es p → p.isAdmin := by
  obtain hlead | ⟨e, he, hbrings⟩ := h.rows row hrow key hkey
  · exact .inl hlead
  · by_cases hall : ∀ p, e.act.caller? = some p → Issued es p → p.isAdmin
    · exact .inr ⟨e, he, hbrings, hall⟩
    · push Not at hall
      obtain ⟨p, hcaller, hissued, hp⟩ := hall
      obtain ⟨-, -, -, id, hact, rfl⟩ := hbrings
      refine .inl (h.principals p hissued _ ?_)
      exact Act.references_of_brings hact hcaller (by simpa using hp)

/-- Every row has the references that it needs, and a profile that of a customer. -/
structure Complete (m : Memory) : Prop where
  member : ∀ u ∈ m.users.rows, u.isMember → u.organizationId.isSome ∧ u.roleId.isSome
  container : ∀ c ∈ m.containers.rows, c.organizationId.isSome
  pallet : ∀ x ∈ m.pallets.rows, x.organizationId.isSome
  customer : ∀ q ∈ m.profiles, ∀ u ∈ m.users.rows, u.id = q.userId → u.isCustomer

theorem Run.complete (h : Run s es m) : Complete m where
  member u hu hmember := by
    obtain ⟨kind, hflags⟩ := h.sound.users.born u hu
    have hkind : u.isMember = kind.isMember := congrArg Flags.isMember hflags
    have horganization : u.organizationId = kind.organization? :=
      congrArg Flags.organizationId hflags
    have hrole : u.roleId = kind.role? := congrArg Flags.roleId hflags
    rw [hkind] at hmember
    rw [horganization, hrole]
    cases kind with
    | member own role => exact ⟨rfl, rfl⟩
    | admin | customer => cases hmember
  container c hc := by
    obtain ⟨-, own, hown⟩ := h.sound.containers.born c hc
    simp [hown]
  pallet x hx := by
    obtain ⟨-, own, hown⟩ := h.sound.pallets.born x hx
    simp [hown]
  customer := h.attended.customer

theorem Run.done_after (h : Run s es m) {reply : Reply} (hreply : (a.event s m).outcome = .ok reply)
    (type : RowType) : (a.footprint reply type).Done reply.rows type (m.rowsOf type)
      ((a.event s m).after.rowsOf type) := by
  obtain ⟨hrest, hafter⟩ | ⟨c, seen, hseen, hread, hc, x, hx, hrows, hafter⟩ :=
    Act.event_of_ok s hreply
  · rw [hafter, hrest.footprint]
    exact .rest
  · rw [hafter, hc.footprint hread hrows, hrows]
    exact Memory.handle_footprint h.sound hread hx type

theorem Run.holds_after_deletion (h : Run s es m) {j : Job} {type : RowType} {id : Id}
    (hp : p.isAdmin) (hj : j.footprint p type = .removed id) (hkey : m.Has (type, id)) (row : Row) :
    ((Act.job p j).event s m).after.Holds row ↔ m.Holds row ∧ row.key ≠ (type, id) := by
  have hreply := Job.outcome_of_removed (s := s) hp hj hkey
  obtain ⟨hprofile, -, -⟩ := h.deletes hreply hj
  have hdone := h.done_after hreply row.key.1
  rw [Memory.holds_iff, Memory.holds_iff]
  by_cases htype : row.key.1 = type
  · rw [htype] at hdone ⊢
    have hremoved : (Act.job p j).footprint ⟨[], none⟩ type = .removed id := hj
    rw [hremoved] at hdone
    exact hdone.mem_of_removed (h.sound.nodup_rowsOf hprofile)
  · have hkept : (Act.job p j).footprint ⟨[], none⟩ row.key.1 = .kept :=
      Job.footprint_of_removed hj htype
    rw [hkept] at hdone
    have hrows : _ = _ := hdone
    rw [hrows]
    refine ⟨fun hrow => ⟨hrow, fun heq => htype (congrArg Prod.fst heq)⟩, fun hrow => hrow.1⟩

/-- In every state of a run a reference leads to a row, or to where an administrator has deleted one, or
to an organization that an administrator has named for a new container or pallet. What a request names
otherwise has been found; a deletion goes well whatever refers to the row, and leaves that as it is. -/
theorem references_lead_to_rows (h : Run s es m) :
    (∀ row, m.Holds row → ∀ key ∈ row.references, Leads es m key ∨
      ∃ e ∈ es, e.Brings row.key key ∧ ∀ p, e.act.caller? = some p → Issued es p → p.isAdmin) ∧
    (∀ p, Issued es p → ∀ key ∈ p.references, Leads es m key) ∧
    Complete m ∧
    (∀ (a : Act) (reply : Reply), (a.event s m).outcome = .ok reply → ∀ key ∈ a.names, m.Has key) ∧
    (∀ p change reply id, ((Act.job p (.palletUpdate change)).event s m).outcome = .ok reply →
      change.containerId = some id → m.Has (.container, id) ∨
        ∃ y ∈ m.pallets.rows, y.id = change.id ∧ y.containerId = some id) ∧
    ∀ p j type id, p.isAdmin → j.footprint p type = .removed id → m.Has (type, id) →
      ((Act.job p j).event s m).outcome = .ok ⟨[], none⟩ ∧
        ∀ row, ((Act.job p j).event s m).after.Holds row ↔ m.Holds row ∧ row.key ≠ (type, id) := by
  have hrefers := h.referring
  refine ⟨fun row hrow key hkey => hrefers.leads_or_named hrow hkey, hrefers.principals, h.complete,
    fun a reply hreply key hkey => ?_, fun p change reply id hreply hid => ?_,
    fun p j type id hp hj hkey => ?_⟩
  · obtain ⟨hrest, -⟩ | ⟨c, seen, hseen, hread, hc, -⟩ := Act.event_of_ok s hreply
    · rw [hrest.names_eq_nil] at hkey
      exact absurd hkey List.not_mem_nil
    · exact hc.has_names hread hseen hkey
  · obtain ⟨hrest, -⟩ | ⟨c, seen, hseen, hread, hc, -⟩ := Act.event_of_ok s hreply
    · exact hrest.elim
    · exact hc.has_container hread h.sound hseen hid
  · exact ⟨Job.outcome_of_removed hp hj hkey, h.holds_after_deletion hp hj hkey⟩

/-- An administrator deletes a container with a pallet in it: the pallet still refers to the container. -/
theorem pallet_outlives_its_container :
    ∃ (s : Accounts.Settings) (es : List Event) (m : Memory) (x : Pallet),
      Run s es m ∧ m.Holds (.pallet x) ∧ x.containerId = some 1 ∧ ¬ m.Has (.container, 1) ∧
        ∃ e ∈ es, e.Deletes (.container, 1) := by
  let s : Accounts.Settings := ⟨"k", 60, 4⟩
  let p : Principal := ⟨1, .member 1 1⟩
  let founding : Act :=
    .registerOrganization ⟨"Acme", none, ⟨"Ada", "A", "ada@x.org", "1", "secret"⟩⟩
  have hrun := ((((Run.start (s := s) ⟨0⟩).act founding).act
    (.job p (.containerCreate ⟨none, none⟩))).act (.job p (.palletCreate ⟨none, none, some 1⟩))).act
      (.job ⟨9, .admin⟩ (.containerDelete 1))
  let x : Pallet := Memory.palletRow 1 (Uid.drawn 1) ⟨none, 1, some 1, 1⟩ ⟨0⟩
  obtain ⟨hrefers, -⟩ := references_lead_to_rows hrun
  have hplace := hrefers (.pallet x) (by decide +kernel) (.container, 1) (by decide)
  refine ⟨s, _, _, x, hrun, ?_, rfl, ?_, ?_⟩
  · decide +kernel
  · decide +kernel
  · obtain (hhas | hdeleted) | ⟨e, -, ⟨-, -, -, i, -, heq⟩, -⟩ := hplace
    · exact absurd hhas (by decide +kernel)
    · exact hdeleted
    · cases heq

/-- Everybody acts as the principal of the own account, all goes well, and then a role, a member, a
profile, a container and a pallet each refer to a row that is not there. -/
theorem references_can_lead_nowhere :
    ∃ (s : Accounts.Settings) (es : List Event) (m : Memory),
      Run s es m ∧ (∀ e ∈ es, e.outcome.isOk) ∧
        ∀ type ∈ [RowType.role, .user, .profile, .container, .pallet],
          ∃ row ∈ m.rowsOf type, ∃ key ∈ row.references, ¬ m.Has key := by
  let s : Accounts.Settings := ⟨"k", 60, 4⟩
  let member : Principal := ⟨1, .member 1 1⟩
  let admin : Principal := ⟨3, .admin⟩
  have hstart := (((Run.start (s := s) ⟨0⟩).act
    (.registerOrganization ⟨"Acme", none, ⟨"Ada", "A", "ada@x.org", "1", "secret"⟩⟩)).act
    (.registerCustomer ⟨"Bob", "B", "bob@x.org", "2", "secret"⟩)).act
    (.seedAdmin "root@x.org" "9" "secret")
  have hfilled := ((hstart.act (.job member (.roleCreate ⟨"Clerk", ["Read Role"], false, none⟩))).act
    (.job member (.containerCreate ⟨none, none⟩))).act
    (.job member (.palletCreate ⟨none, none, some 1⟩))
  have hrun := ((((hfilled.act (.job admin (.containerDelete 1))).act
    (.job admin (.userDelete 2))).act (.job admin (.roleDelete 1))).act
    (.job admin (.organizationDelete 1))).act (.job admin (.containerCreate ⟨none, some 9⟩))
  refine ⟨s, _, _, hrun, ?_, ?_⟩
  · decide +kernel
  · decide +kernel

end Depot.Operation
