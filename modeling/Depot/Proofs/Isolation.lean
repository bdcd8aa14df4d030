import Depot.GraphQL.Execute
import Depot.Proofs.Run
import Mathlib.Logic.Relation

namespace Depot.Operation

open GraphQL Loader Program Store

/-- What a store gives for the key of a loader. -/
inductive Loads (m : Memory) : Ref → Entity → Prop
  | user {id : Id} {u : User} (h : u ∈ m.users.rows) (hid : u.id = id) :
    Loads m ⟨.users, id⟩ (.user u)
  | profile {id : Id} {q : Profile} (h : q ∈ m.profiles) (hid : q.userId = id) :
    Loads m ⟨.profiles, id⟩ (.profile q)
  | organization {id : Id} {o : Organization} (h : o ∈ m.organizations.rows) (hid : o.id = id) :
    Loads m ⟨.organizations, id⟩ (.organization o)
  | role {id : Id} {r : Role} (h : r ∈ m.roles.rows) (hid : r.id = id) :
    Loads m ⟨.roles, id⟩ (.role r)
  | container {id : Id} {c : Container} (h : c ∈ m.containers.rows) (hid : c.id = id) :
    Loads m ⟨.containers, id⟩ (.container c)
  | pallets {id : Id} {xs : List Pallet}
    (h : ∀ x ∈ xs, x ∈ m.pallets.rows ∧ x.containerId = some id) :
    Loads m ⟨.containerPallets, id⟩ (.pallets ⟨id, xs⟩)

theorem mem_of_lastValue {ν : Type} {rows : List (Id × ν)} {key : Id} {v : ν}
    (h : State.lastValue rows key = some v) : (key, v) ∈ rows := by
  obtain ⟨x, hx, rfl⟩ := Option.map_eq_some_iff.1 h
  have hkey : x.1 = key := by simpa using List.find?_some hx
  rw [← hkey]
  exact List.mem_reverse.1 (List.mem_of_find?_eq_some hx)

theorem fetch_eq_ok {α : Type} {m : Memory} {name : BatchName} {keys : List Id}
    {rows rows' : List α} (h : (m.fetch name keys rows).1 = .ok rows') : rows' = rows := by
  unfold Memory.fetch at h
  dsimp only at h
  split at h
  · cases h
  · cases h
    rfl

theorem loads_of_fetchRows {m : Memory} {ref : Ref} {keys : List Id} {rows : List (Id × Entity)}
    {e : Entity} (hrows : ((fetchRows ref.name keys).run Memory.handle m).1 = .ok rows)
    (he : State.lastValue rows ref.key = some e) : Loads m ref e := by
  obtain ⟨name, key⟩ := ref
  have he := mem_of_lastValue he
  cases name <;> obtain ⟨found, hfound, rfl⟩ := run_map_eq_ok hrows <;>
    obtain ⟨x, hx, hxe⟩ := List.mem_map.1 he <;> rw [run_call] at hfound <;>
    obtain rfl := fetch_eq_ok hfound <;> cases hxe
  case users => exact .user (List.mem_of_mem_filter hx) rfl
  case profiles => exact .profile (List.mem_of_mem_filter hx) rfl
  case organizations => exact .organization (List.mem_of_mem_filter hx) rfl
  case roles => exact .role (List.mem_of_mem_filter hx) rfl
  case containers => exact .container (List.mem_of_mem_filter hx) rfl
  case containerPallets =>
    obtain ⟨id, -, rfl⟩ := List.mem_map.1 hx
    refine .pallets fun y hy => ?_
    obtain ⟨hy, hplace⟩ := List.mem_filter.1 hy
    exact ⟨List.mem_of_mem_filter hy, by simpa using hplace⟩

/-- A row that a relation of a row leads a caller to, over rows that were fetched from that state.
-/
inductive Follows (p : Principal) (m : Memory) (row : Row) : Row → Prop
  | one {name : String} {ref : Ref} {view : Entity → Option Row} {keys : List Id}
    {rows : List (Id × Entity)} {e : Entity} {row' : Row} (hlink : link p row name = .one ref view)
    (hkey : ref.key ∈ keys) (hrows : ((fetchRows ref.name keys).run Memory.handle m).1 = .ok rows)
    (he : State.lastValue rows ref.key = some e) (hview : view e = some row') : Follows p m row row'
  | many {name : String} {ref : Ref} {view : Option Entity → List Row} {keys : List Id}
    {rows : List (Id × Entity)} {row' : Row} (hlink : link p row name = .many ref view)
    (hkey : ref.key ∈ keys) (hrows : ((fetchRows ref.name keys).run Memory.handle m).1 = .ok rows)
    (hview : row' ∈ view (State.lastValue rows ref.key)) : Follows p m row row'

/-- A row that relations lead to, any number of them, each followed in one of the states. -/
def Reached (p : Principal) (states : List Memory) : Row → Row → Prop :=
  Relation.ReflTransGen fun row row' => ∃ m ∈ states, Follows p m row row'

/-- The relations one by one, with the row that each leads to. -/
inductive Related (p : Principal) (m : Memory) : Row → Row → Prop
  | roleOrganization {r : Role} {o : Organization} (h : o ∈ m.organizations.rows)
    (hid : o.id = r.organizationId) : Related p m (.role r) (.organization o)
  | userOrganization {u : User} {o : Organization} (h : o ∈ m.organizations.rows)
    (hid : u.organizationId = some o.id) : Related p m (.user u) (.organization o)
  | userRole {u : User} {r : Role} (h : r ∈ m.roles.rows) (hid : u.roleId = some r.id) :
    Related p m (.user u) (.role r)
  | userProfile {u : User} {q : Profile} (h : q ∈ m.profiles) (hid : q.userId = u.id)
    (hu : u.isCustomer) : Related p m (.user u) (.profile q)
  | containerCreator {c : Container} {u : User} (h : u ∈ m.users.rows)
    (hu : p.isAdmin ∨ u.isMember ∧ u.organizationId = p.organization?) :
    Related p m (.container c) (.user u)
  | containerOrganization {c : Container} {o : Organization} (h : o ∈ m.organizations.rows)
    (hid : c.organizationId = some o.id) : Related p m (.container c) (.organization o)
  | containerPallet {c : Container} {x : Pallet} (h : x ∈ m.pallets.rows)
    (hid : x.containerId = some c.id) : Related p m (.container c) (.pallet x)
  | palletCreator {x : Pallet} {u : User} (h : u ∈ m.users.rows)
    (hu : p.isAdmin ∨ u.isMember ∧ u.organizationId = p.organization?) :
    Related p m (.pallet x) (.user u)
  | palletContainer {x : Pallet} {c : Container} (h : c ∈ m.containers.rows)
    (hid : x.containerId = some c.id) : Related p m (.pallet x) (.container c)
  | palletOrganization {x : Pallet} {o : Organization} (h : o ∈ m.organizations.rows)
    (hid : x.organizationId = some o.id) : Related p m (.pallet x) (.organization o)

theorem ofKey_eq_one {name : BatchName} {key : Option Id} {ref : Ref} {view : Entity → Option Row}
    (h : Link.ofKey name key = .one ref view) :
    ∃ id, key = some id ∧ ref = ⟨name, id⟩ ∧ view = Row.ofEntity? := by
  cases key with
  | none => cases h
  | some id =>
    cases h
    exact ⟨id, rfl, rfl, rfl⟩

theorem user_of_creatorView {p : Principal} {m : Memory} {id : Id} {e : Entity} {row : Row}
    (he : Loads m ⟨.users, id⟩ e) (hview : creatorView p e = some row) :
    ∃ u ∈ m.users.rows, row = .user u ∧
      (p.isAdmin ∨ u.isMember ∧ u.organizationId = p.organization?) := by
  cases he with
  | @user _ u hu _ =>
    simp only [creatorView, Option.ite_none_right_eq_some, Option.some.injEq] at hview
    obtain ⟨hsees, rfl⟩ := hview
    exact ⟨u, hu, rfl, by simpa using hsees⟩

theorem related_of_one {p : Principal} {m : Memory} {row row' : Row} {name : String} {ref : Ref}
    {view : Entity → Option Row} {e : Entity} (hlink : link p row name = .one ref view)
    (he : Loads m ref e) (hview : view e = some row') : Related p m row row' := by
  unfold link at hlink
  split at hlink
  case h_5 | h_8 =>
    cases hlink
    obtain ⟨u, hu, rfl, hsees⟩ := user_of_creatorView he hview
    constructor <;> assumption
  case h_7 | h_11 => cases hlink
  all_goals
    obtain ⟨id, hid, rfl, rfl⟩ := ofKey_eq_one hlink
    cases he
    cases hview
    rename_i hrow hkey
  case h_1 => exact .roleOrganization hrow (by simpa [hkey, eq_comm] using hid)
  case h_2 => exact .userOrganization hrow (hkey ▸ hid)
  case h_3 => exact .userRole hrow (hkey ▸ hid)
  case h_4 =>
    split at hid
    · rename_i hu
      exact .userProfile hrow (hkey.trans (Option.some.inj hid).symm) hu
    · cases hid
  case h_6 => exact .containerOrganization hrow (hkey ▸ hid)
  case h_9 => exact .palletContainer hrow (hkey ▸ hid)
  case h_10 => exact .palletOrganization hrow (hkey ▸ hid)

theorem related_of_many {p : Principal} {m : Memory} {row row' : Row} {name : String} {ref : Ref}
    {view : Option Entity → List Row} {rows : List (Id × Entity)} {keys : List Id}
    (hlink : link p row name = .many ref view)
    (hrows : ((fetchRows ref.name keys).run Memory.handle m).1 = .ok rows)
    (hview : row' ∈ view (State.lastValue rows ref.key)) : Related p m row row' := by
  unfold link at hlink
  split at hlink
  case h_7 =>
    rename_i c
    cases hlink
    cases he : State.lastValue rows c.id with
    | none => exact absurd hview (by simp [he, Row.palletsOf])
    | some e =>
      simp only [he] at hview
      cases loads_of_fetchRows hrows he with
      | pallets hpallets =>
        obtain ⟨x, hx, rfl⟩ := List.mem_map.1 hview
        exact .containerPallet (hpallets x hx).1 (hpallets x hx).2
  case h_5 | h_8 | h_11 => cases hlink
  all_goals
    unfold Link.ofKey at hlink
    split at hlink <;> cases hlink

theorem Follows.related {p : Principal} {m : Memory} {row row' : Row} (h : Follows p m row row') :
    Related p m row row' := by
  cases h with
  | one hlink _ hrows he hview => exact related_of_one hlink (loads_of_fetchRows hrows he) hview
  | many hlink _ hrows hview => exact related_of_many hlink hrows hview

theorem Related.holds {p : Principal} {m : Memory} {row row' : Row} (h : Related p m row row') :
    m.Holds row' := by
  cases h <;> assumption

variable {states : List Memory} {p : Principal}

theorem Lineage.flags_eq (h : Lineage states) (hp : Known states p) {u : User}
    (hu : Stored states (.user u)) (hid : u.id = p.id) : u.flags = p.flags := by
  obtain ⟨v, hv, hflags⟩ := hp
  have hvid : v.id = p.id := congrArg Flags.id hflags
  rw [← hflags]
  exact user_flags (h.user_origin hu hv (hid.trans hvid.symm))

theorem Lineage.owns_of_key_eq (h : Lineage states) {row row' : Row} (hrow : Stored states row)
    (hrow' : Stored states row') (hkey : row.key = row'.key) (hown : p.Owns row') : p.Owns row := by
  obtain ⟨id, kind⟩ := p
  cases kind with
  | admin => trivial
  | member own role =>
    cases row <;> cases row' <;> obtain ⟨htype, hid⟩ := Prod.mk.inj hkey <;> cases htype
    case organization.organization.refl => exact hid.trans hown
    case role.role.refl => exact (role_owner (h.role_origin hrow hrow' hid)).trans hown
    case user.user.refl =>
      have ho := h.user_origin hrow hrow' hid
      exact ⟨(user_isMember ho).trans hown.1, (user_owner ho).trans hown.2⟩
    case profile.profile.refl => exact hown
    case container.container.refl =>
      exact (container_owner (h.container_origin hrow hrow' hid)).trans hown
    case pallet.pallet.refl => exact (pallet_owner (h.pallet_origin hrow hrow' hid)).trans hown
  | customer =>
    cases row <;> cases row' <;> obtain ⟨htype, hid⟩ := Prod.mk.inj hkey <;> cases htype
    case user.user.refl | profile.profile.refl => exact hid.trans hown
    all_goals exact hown

theorem Lineage.owns_content (h : Lineage states) {x : Pallet} {c : Container}
    (hx : Stored states (.pallet x)) (hc : Stored states (.container c))
    (hplace : x.containerId = some c.id) (hown : p.Owns (.container c)) : p.Owns (.pallet x) := by
  have howner := h.owner_of_content hx hc hplace
  obtain ⟨id, kind⟩ := p
  cases kind with
  | admin => trivial
  | member own role => exact howner.symm.trans hown
  | customer => exact hown

theorem Lineage.owns_of_shown (h : Lineage states) (hp : Known states p) {seen : List Memory}
    (hseen : seen ⊆ states) {row : Row} (hrow : p.Shown seen row) :
    Stored states row ∧ p.Owns row := by
  cases hrow with
  | same hrow hown hkey =>
    have hrow := hrow.mono hseen
    refine ⟨hrow, h.owns_of_key_eq hrow (hown.stored.mono hseen) hkey ?_⟩
    obtain ⟨m, -, -, hown⟩ := hown
    exact hown
  | @self u hu hid =>
    have hu := hu.mono hseen
    have hflags := h.flags_eq hp hu hid
    refine ⟨hu, ?_⟩
    obtain ⟨id, kind⟩ := p
    cases kind with
    | admin => trivial
    | member own role =>
      exact ⟨congrArg Flags.isMember hflags, congrArg Flags.organizationId hflags⟩
    | customer => exact hid
  | content hx hc hplace =>
    have hx := hx.mono hseen
    refine ⟨hx, h.owns_content hx (hc.stored.mono hseen) hplace ?_⟩
    obtain ⟨m, -, -, hown⟩ := hc
    exact hown

theorem Lineage.member_owns_related (h : Lineage states) {id own role : Id} {m : Memory}
    (hm : m ∈ states) {row row' : Row} (hrow : Stored states row)
    (hown : Principal.Owns ⟨id, .member own role⟩ row)
    (hr : Related ⟨id, .member own role⟩ m row row') :
    Principal.Owns ⟨id, .member own role⟩ row' := by
  cases hr with
  | roleOrganization _ hid => exact hid.trans hown
  | userOrganization _ hid => exact Option.some.inj (hid.symm.trans hown.2)
  | @userRole u r hr hid =>
    obtain ⟨r', hr', hrid, howner⟩ := h.role u hrow r.id hid
    have hsame := role_owner (h.role_origin hr' ⟨m, hm, hr⟩ hrid)
    exact hsame.symm.trans (Option.some.inj (howner.symm.trans hown.2))
  | @userProfile u q _ _ hu =>
    -- a member is no customer
    obtain ⟨n, hn, hrow⟩ := hrow
    obtain ⟨kind, hflags⟩ := (h.sound n hn).users.born u hrow
    have hmember : kind.isMember = true := (congrArg Flags.isMember hflags).symm.trans hown.1
    have hcustomer : kind.isCustomer = true := (congrArg Flags.isCustomer hflags).symm.trans hu
    cases kind <;> simp [Kind.isMember, Kind.isCustomer] at hmember hcustomer
  | containerCreator _ hu | palletCreator _ hu =>
    obtain hadmin | hmember := hu
    · cases hadmin
    · exact hmember
  | containerOrganization _ hid | palletOrganization _ hid =>
    exact Option.some.inj (hid.symm.trans hown)
  | containerPallet hx hid =>
    obtain ⟨n, hn, hrow⟩ := hrow
    exact h.owns_content ⟨m, hm, hx⟩ ⟨n, hn, hrow⟩ hid hown
  | palletContainer hc hid => exact (h.owner_of_content hrow ⟨m, hm, hc⟩ hid).trans hown

theorem Lineage.customer_owns_related (h : Lineage states) {id : Id}
    (hp : Known states ⟨id, .customer⟩) {m : Memory} {row row' : Row} (hrow : Stored states row)
    (hown : Principal.Owns ⟨id, .customer⟩ row) (hr : Related ⟨id, .customer⟩ m row row') :
    Principal.Owns ⟨id, .customer⟩ row' := by
  cases hr with
  | @userOrganization u _ _ hid =>
    have howner : u.organizationId = none :=
      (congrArg Flags.organizationId (h.flags_eq hp hrow hown) :)
    rw [howner] at hid
    cases hid
  | @userRole u _ _ hid =>
    have hrole : u.roleId = none := (congrArg Flags.roleId (h.flags_eq hp hrow hown) :)
    rw [hrole] at hid
    cases hid
  | userProfile _ hid _ => exact hid.trans hown
  | _ => exact hown.elim

theorem Lineage.owns_related (h : Lineage states) (hp : Known states p) {m : Memory}
    (hm : m ∈ states) {row row' : Row} (hrow : Stored states row) (hown : p.Owns row)
    (hr : Related p m row row') : p.Owns row' := by
  obtain ⟨id, kind⟩ := p
  cases kind with
  | admin => trivial
  | member own role => exact h.member_owns_related hm hrow hown hr
  | customer => exact h.customer_owns_related hp hrow hown hr

theorem Lineage.owns_reached (h : Lineage states) (hp : Known states p) {visited : List Memory}
    (hvisited : visited ⊆ states) {row row' : Row} (hrow : Stored states row) (hown : p.Owns row)
    (hr : Reached p visited row row') : Stored states row' ∧ p.Owns row' := by
  induction hr with
  | refl => exact ⟨hrow, hown⟩
  | tail _ hstep ih =>
    obtain ⟨m, hm, hfollows⟩ := hstep
    exact ⟨⟨m, hvisited hm, hfollows.related.holds⟩,
      h.owns_related hp (hvisited hm) ih.1 ih.2 hfollows.related⟩

/-- Isolation of tenants: whatever a principal of the run is answered, and whatever can be reached
from there by relations, is the principal's own. -/
theorem tenants_are_isolated {s : Accounts.Settings} {es : List Event} {m : Memory}
    (h : Run s es m) (hp : Issued es p) {e : Event} (he : e ∈ es) (hcaller : e.act.caller? = some p)
    {reply : Reply} (hreply : e.outcome = .ok reply) {row row' : Row} (hrow : row ∈ reply.rows)
    (hr : Reached p (visited es m) row row') : p.Owns row' := by
  obtain ⟨states, hl, hvisited, hes⟩ := h.lineage
  have hknown := hp.known hl hes
  obtain ⟨seen, hseen, hj⟩ := (hes e he).reply reply hreply
  obtain ⟨hstored, hown⟩ := hl.owns_of_shown hknown hseen (hj.rows p hcaller row hrow)
  exact (hl.owns_reached hknown hvisited hstored hown hr).2

/-- The owner of a new organization logs in, lists the roles and follows the only one to its
organization. -/
theorem owner_reaches_own_organization :
    ∃ (s : Accounts.Settings) (es : List Event) (m : Memory) (p : Principal) (e : Event)
      (reply : Reply) (r : Role) (o : Organization), Run s es m ∧ Issued es p ∧ e ∈ es ∧
      e.act.caller? = some p ∧ e.outcome = .ok reply ∧ Row.role r ∈ reply.rows ∧
      Reached p (visited es m) (.role r) (.organization o) ∧ p.Owns (.organization o) := by
  let s : Accounts.Settings := ⟨"k", 60, 4⟩
  let p : Principal := ⟨1, .member 1 1⟩
  let e₁ := Act.event s
    (.registerOrganization ⟨"A", none, ⟨"A", "A", "a", "1", "secret"⟩⟩) (Memory.empty ⟨0⟩)
  let e₂ := Act.event s (.login 0 .member ⟨none, some "1", "secret"⟩) e₁.after
  let e₃ := Act.event s (.job p (.roles none)) e₂.after
  let r : Role := ⟨1, "ROLE00001", "Org Admin", [], true, false, 1, ⟨0⟩, ⟨0⟩⟩
  let o : Organization := ⟨1, "ORG00001", "A", none, false, ⟨0⟩, ⟨0⟩⟩
  have hrun : Run s [e₃, e₂, e₁] e₃.after := (((Run.start ⟨0⟩).act _).act _).act _
  have hissued : Issued [e₃, e₂, e₁] p := ⟨e₂, by simp, by decide⟩
  have hreply : e₃.outcome = .ok ⟨[.role r], none⟩ := by decide +kernel
  have hlink : link p (.role r) "organization" = .one ⟨.organizations, 1⟩ Row.ofEntity? := rfl
  have hfetched : ((fetchRows .organizations [1]).run Memory.handle e₃.after).1 =
      .ok [(1, .organization o)] := by decide +kernel
  have hreached : Reached p (visited [e₃, e₂, e₁] e₃.after) (.role r) (.organization o) :=
    .single ⟨e₃.after, List.mem_cons_self, .one hlink List.mem_cons_self hfetched rfl rfl⟩
  exact ⟨s, [e₃, e₂, e₁], e₃.after, p, e₃, ⟨[.role r], none⟩, r, o, hrun, hissued,
    List.mem_cons_self, rfl, hreply, List.mem_cons_self, hreached,
    tenants_are_isolated hrun hissued List.mem_cons_self rfl hreply List.mem_cons_self hreached⟩

end Depot.Operation
