import Depot.Proofs.License
import Mathlib.Data.List.Pairwise

namespace Depot.Operation

open Program Store

/-- The states of a store so far, the latest one first. Calls of several acts may come in between
each other: an act goes by states that it saw, which need not be the latest. -/
inductive History (s : Accounts.Settings) : List Memory → Prop
  | start (clock : Timestamp) : History s [Memory.empty clock]
  | tick {m : Memory} {past : List Memory} (h : History s (m :: past)) (now : Timestamp) :
    History s ({ m with clock := now } :: m :: past)
  | call {m : Memory} {past seen : List Memory} {a : Act} {c : Call} (h : History s (m :: past))
    (hseen : seen ⊆ m :: past) (hc : Act.Licensed s seen a c) :
    History s ((Memory.handle c m).2 :: m :: past)

/-- What holds of all states of a history together. -/
structure Lineage (states : List Memory) : Prop where
  sound : ∀ m ∈ states, m.Sound
  later : states.Pairwise fun newer older => older.Later newer
  /-- A role that a user holds was a role of the user's organization. -/
  role : ∀ u, Stored states (.user u) → ∀ id, u.roleId = some id →
    ∃ r, Stored states (.role r) ∧ r.id = id ∧ u.organizationId = some r.organizationId
  /-- A container that a pallet stands in was a container of the pallet's organization. -/
  container : ∀ x, Stored states (.pallet x) → ∀ id, x.containerId = some id →
    ∃ c, Stored states (.container c) ∧ c.id = id ∧ c.organizationId = x.organizationId

open Record

theorem origin_eq_of_later {α : Type} [Record α] {states : List Memory} (t : Memory → Table α)
    (hsound : ∀ m ∈ states, (t m).Sound)
    (hlater : states.Pairwise fun newer older => (t older).Later (t newer)) {m m' : Memory}
    (hm : m ∈ states) (hm' : m' ∈ states) {a b : α} (ha : a ∈ (t m).rows) (hb : b ∈ (t m').rows)
    (hkey : key a = key b) : origin a = origin b := by
  have hpairs : (states.map t).Pairwise Table.Agrees := by
    refine List.pairwise_map.2 (hlater.imp_of_mem fun _ holder hl => ?_)
    exact hl.agrees (hsound _ holder)
  refine hpairs.forall_of_forall (fun x hx => ?_) (List.mem_map_of_mem hm) (List.mem_map_of_mem hm')
    a ha b hb hkey
  obtain ⟨m, hm, rfl⟩ := List.mem_map.1 hx
  exact (hsound m hm).agrees

namespace Lineage

variable {states : List Memory}

theorem organization_origin (h : Lineage states) {o o' : Organization}
    (ho : Stored states (.organization o)) (ho' : Stored states (.organization o'))
    (hid : o.id = o'.id) : origin o = origin o' := by
  obtain ⟨m, hm, ho⟩ := ho
  obtain ⟨m', hm', ho'⟩ := ho'
  exact origin_eq_of_later (·.organizations) (fun m hm => (h.sound m hm).organizations)
    (h.later.imp fun hl => hl.organizations) hm hm' ho ho' hid

theorem role_origin (h : Lineage states) {r r' : Role} (hr : Stored states (.role r))
    (hr' : Stored states (.role r')) (hid : r.id = r'.id) : origin r = origin r' := by
  obtain ⟨m, hm, hr⟩ := hr
  obtain ⟨m', hm', hr'⟩ := hr'
  exact origin_eq_of_later (·.roles) (fun m hm => (h.sound m hm).roles)
    (h.later.imp fun hl => hl.roles) hm hm' hr hr' hid

theorem user_origin (h : Lineage states) {u u' : User} (hu : Stored states (.user u))
    (hu' : Stored states (.user u')) (hid : u.id = u'.id) : origin u = origin u' := by
  obtain ⟨m, hm, hu⟩ := hu
  obtain ⟨m', hm', hu'⟩ := hu'
  exact origin_eq_of_later (·.users) (fun m hm => (h.sound m hm).users)
    (h.later.imp fun hl => hl.users) hm hm' hu hu' hid

theorem container_origin (h : Lineage states) {c c' : Container}
    (hc : Stored states (.container c)) (hc' : Stored states (.container c'))
    (hid : c.id = c'.id) : origin c = origin c' := by
  obtain ⟨m, hm, hc⟩ := hc
  obtain ⟨m', hm', hc'⟩ := hc'
  exact origin_eq_of_later (·.containers) (fun m hm => (h.sound m hm).containers)
    (h.later.imp fun hl => hl.containers) hm hm' hc hc' hid

theorem pallet_origin (h : Lineage states) {x x' : Pallet} (hx : Stored states (.pallet x))
    (hx' : Stored states (.pallet x')) (hid : x.id = x'.id) : origin x = origin x' := by
  obtain ⟨m, hm, hx⟩ := hx
  obtain ⟨m', hm', hx'⟩ := hx'
  exact origin_eq_of_later (·.pallets) (fun m hm => (h.sound m hm).pallets)
    (h.later.imp fun hl => hl.pallets) hm hm' hx hx' hid

theorem owner_of_content (h : Lineage states) {x : Pallet} {c : Container}
    (hx : Stored states (.pallet x)) (hc : Stored states (.container c))
    (hplace : x.containerId = some c.id) : c.organizationId = x.organizationId := by
  obtain ⟨c', hc', hid, howner⟩ := h.container x hx c.id hplace
  have horigin := h.container_origin hc' hc hid
  rw [← howner]
  exact (container_owner horigin).symm

theorem start (clock : Timestamp) : Lineage [Memory.empty clock] where
  sound m hm := by
    obtain rfl := List.mem_singleton.1 hm
    exact .empty clock
  later := List.pairwise_singleton _ _
  role u hu := by
    obtain ⟨m, hm, hu⟩ := hu
    obtain rfl := List.mem_singleton.1 hm
    exact absurd hu List.not_mem_nil
  container x hx := by
    obtain ⟨m, hm, hx⟩ := hx
    obtain rfl := List.mem_singleton.1 hm
    exact absurd hx List.not_mem_nil

theorem cons {m m' : Memory} {past : List Memory} (h : Lineage (m :: past)) (hsound : m'.Sound)
    (hlater : m.Later m')
    (hrole : ∀ u ∈ m'.users.rows, ∀ id, u.roleId = some id →
      ∃ r, Stored (m' :: m :: past) (.role r) ∧ r.id = id ∧
        u.organizationId = some r.organizationId)
    (hcontainer : ∀ x ∈ m'.pallets.rows, ∀ id, x.containerId = some id →
      ∃ c, Stored (m' :: m :: past) (.container c) ∧ c.id = id ∧
        c.organizationId = x.organizationId) :
    Lineage (m' :: m :: past) where
  sound n hn := by
    obtain rfl | hn := List.mem_cons.1 hn
    · exact hsound
    · exact h.sound n hn
  later := by
    refine List.pairwise_cons.2 ⟨fun older holder => ?_, h.later⟩
    obtain rfl | holder := List.mem_cons.1 holder
    · exact hlater
    · exact ((List.pairwise_cons.1 h.later).1 older holder).trans hlater
  role u hu id hid := by
    obtain ⟨n, hn, hu⟩ := hu
    obtain rfl | hn := List.mem_cons.1 hn
    · exact hrole u hu id hid
    · obtain ⟨r, hr, hr'⟩ := h.role u ⟨n, hn, hu⟩ id hid
      exact ⟨r, hr.mono (List.subset_cons_self _ _), hr'⟩
  container x hx id hid := by
    obtain ⟨n, hn, hx⟩ := hx
    obtain rfl | hn := List.mem_cons.1 hn
    · exact hcontainer x hx id hid
    · obtain ⟨c, hc, hc'⟩ := h.container x ⟨n, hn, hx⟩ id hid
      exact ⟨c, hc.mono (List.subset_cons_self _ _), hc'⟩

variable {s : Accounts.Settings} {m : Memory} {past seen : List Memory} {a : Act} {c : Call}

theorem faithful (h : Lineage (m :: past)) (hseen : seen ⊆ m :: past)
    (hc : Act.Licensed s seen a c) : m.Faithful c := by
  cases c with
  | organizations c =>
    cases c with
    | update o =>
      intro row hrow hid
      have hrow' : Stored (m :: past) (.organization row) := ⟨m, List.mem_cons_self, hrow⟩
      cases hc with
      | read hc => exact hc.elim
      | job hj =>
        cases hj with
        | organizationUpdate _ ho =>
          exact (h.organization_origin hrow' (ho.stored.mono hseen) hid).symm
        | organizationArchive _ ho =>
          exact (h.organization_origin hrow' (ho.stored.mono hseen) hid).symm
    | _ => trivial
  | _ => trivial

theorem role_call (h : Lineage (m :: past)) (hseen : seen ⊆ m :: past)
    (hc : Act.Licensed s seen a c) {u : User} (hu : u ∈ (Memory.handle c m).2.users.rows) {id : Id}
    (hid : u.roleId = some id) :
    ∃ r, Stored ((Memory.handle c m).2 :: m :: past) (.role r) ∧ r.id = id ∧
      u.organizationId = some r.organizationId := by
  have hpast : m :: past ⊆ (Memory.handle c m).2 :: m :: past := List.subset_cons_self _ _
  obtain ⟨old, hold, heq⟩ | hnew := (Memory.handle_step c (h.faithful hseen hc)).users.exists hu
  · have hrole : old.roleId = u.roleId := user_role heq
    have howner : old.organizationId = u.organizationId := user_owner heq
    obtain ⟨r, hr, hrid, hro⟩ := h.role old ⟨m, List.mem_cons_self, hold⟩ id (hrole.trans hid)
    exact ⟨r, hr.mono hpast, hrid, howner.symm.trans hro⟩
  · cases hnew with
    | customer account => cases hid
    | register new owner =>
      obtain hu | ⟨r, hr, hrole, howner⟩ := Memory.register_role hu
      · obtain ⟨r, hr, hr'⟩ := h.role _ ⟨m, List.mem_cons_self, hu⟩ id hid
        exact ⟨r, hr.mono hpast, hr'⟩
      · exact ⟨r, ⟨_, List.mem_cons_self, hr⟩, Option.some.inj (hrole.symm.trans hid), howner⟩
    | insert new =>
      cases hc with
      | read hc => exact hc.elim
      | seedAdmin _ | registerAdmin _ => cases hid
      | registerMember _ _ hrole _ howner =>
        cases hid
        exact ⟨_, hrole.mono (List.Subset.trans hseen hpast), rfl, congrArg some howner.symm⟩
      | job hj => cases hj

theorem container_call (h : Lineage (m :: past)) (hseen : seen ⊆ m :: past)
    (hc : Act.Licensed s seen a c) {x : Pallet} (hx : x ∈ (Memory.handle c m).2.pallets.rows)
    {id : Id} (hid : x.containerId = some id) :
    ∃ y, Stored ((Memory.handle c m).2 :: m :: past) (.container y) ∧ y.id = id ∧
      y.organizationId = x.organizationId := by
  have hpast : m :: past ⊆ (Memory.handle c m).2 :: m :: past := List.subset_cons_self _ _
  obtain ⟨old, hold, heq, hplace⟩ | hnew | ⟨old, hold, z, rfl, hkey, heq, hplace⟩ :=
    Memory.pallet_place hx
  · obtain ⟨y, hy, hyid, hyo⟩ :=
      h.container old ⟨m, List.mem_cons_self, hold⟩ id (hplace.trans hid)
    exact ⟨y, hy.mono hpast, hyid, hyo.trans (pallet_owner heq)⟩
  · cases hnew with
    | insert new =>
      cases hc with
      | read hc => exact hc.elim
      | job hj =>
        cases hj with
        | palletCreate _ hcontainer =>
          obtain ⟨y, hy, hyid, hyo⟩ := hcontainer id hid
          exact ⟨y, hy.mono (List.Subset.trans hseen hpast), hyid, hyo⟩
  · have hstored : Stored (m :: past) (.pallet old) := ⟨m, List.mem_cons_self, hold⟩
    have howner : old.organizationId = x.organizationId := pallet_owner heq
    cases hc with
    | read hc => exact hc.elim
    | job hj =>
      cases hj with
      | @palletUpdate c w hw hwid hcontainer =>
        have hw' := hw.stored.mono hseen
        have hwo : old.organizationId = w.organizationId :=
          pallet_owner (h.pallet_origin hstored hw' hkey)
        have hid' : c.containerId = some id := hplace.symm.trans hid
        by_cases hmoved : c.containerId = w.containerId
        · obtain ⟨y, hy, hyid, hyo⟩ := h.container w hw' id (hmoved.symm.trans hid')
          exact ⟨y, hy.mono hpast, hyid, hyo.trans (hwo.symm.trans howner)⟩
        · obtain ⟨-, own, hown⟩ := (h.sound m List.mem_cons_self).pallets.born old hold
          obtain ⟨y, hy, hyid, hyo⟩ := hcontainer id own hmoved hid' (hwo.symm.trans hown)
          exact ⟨y, hy.mono (List.Subset.trans hseen hpast), hyid,
            hyo.trans (hown.symm.trans howner)⟩
      | @palletArchive w archived _ hw =>
        have hw' := hw.stored.mono hseen
        have hwo : old.organizationId = w.organizationId :=
          pallet_owner (h.pallet_origin hstored hw' hkey)
        obtain ⟨y, hy, hyid, hyo⟩ := h.container w hw' id (hplace.symm.trans hid)
        exact ⟨y, hy.mono hpast, hyid, hyo.trans (hwo.symm.trans howner)⟩

theorem call (h : Lineage (m :: past)) (hseen : seen ⊆ m :: past) (hc : Act.Licensed s seen a c) :
    Lineage ((Memory.handle c m).2 :: m :: past) :=
  have hs := Memory.handle_step c (h.faithful hseen hc)
  h.cons ((h.sound m List.mem_cons_self).step hs) hs.later
    (fun _ hu _ hid => h.role_call hseen hc hu hid)
    fun _ hx _ hid => h.container_call hseen hc hx hid

end Lineage

theorem History.lineage {s : Accounts.Settings} {states : List Memory} (h : History s states) :
    Lineage states := by
  induction h with
  | start clock => exact .start clock
  | @tick m past _ now ih =>
    have hsound := ih.sound m List.mem_cons_self
    refine ih.cons
      ⟨hsound.organizations, hsound.roles, hsound.users, hsound.containers, hsound.pallets⟩
      ⟨.refl, .refl, .refl, .refl, .refl⟩ (fun u hu id hid => ?_) fun x hx id hid => ?_
    · obtain ⟨r, hr, hr'⟩ := ih.role u ⟨m, List.mem_cons_self, hu⟩ id hid
      exact ⟨r, hr.mono (List.subset_cons_self _ _), hr'⟩
    · obtain ⟨c, hc, hc'⟩ := ih.container x ⟨m, List.mem_cons_self, hx⟩ id hid
      exact ⟨c, hc.mono (List.subset_cons_self _ _), hc'⟩
  | call _ hseen hc ih => exact ih.call hseen hc

end Depot.Operation
