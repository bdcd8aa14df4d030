import Depot.Proofs.Code
import Depot.Proofs.History

namespace Depot.Store

open Record

/-- Identifiers of which each was drawn once, before that draw. -/
structure Drawn (drawn : Nat) (uids : List Uid) : Prop where
  nodup : uids.Nodup
  bound : ∀ uid ∈ uids, ∃ k < drawn, uid = Uid.drawn k

theorem uid_drawn_injective {m n : Nat} (h : Uid.drawn m = Uid.drawn n) : m = n :=
  Nat.add_left_cancel (congrArg Uid.value h)

theorem Drawn.step {α : Type} [Record α] {uid : α → Uid} (huid : ∀ a, uid (origin a) = uid a)
    {new : α → Prop} {t t' : Table α} {d d' : Nat} (h : Drawn d (t.rows.map uid))
    (hs : t.Step new t') (hd : d ≤ d') (hnew : ∀ row, new row → uid row = Uid.drawn d ∧ d < d') :
    Drawn d' (t'.rows.map uid) := by
  cases hs with
  | keep hsub =>
    have huids := hsub.map uid
    simp only [List.map_map, Function.comp_def, huid] at huids
    refine ⟨h.nodup.sublist huids, fun u hu => ?_⟩
    obtain ⟨k, hk, rfl⟩ := h.bound u (huids.subset hu)
    exact ⟨k, by omega, rfl⟩
  | @insert row hrow =>
    obtain ⟨hrow, hlt⟩ := hnew row hrow
    have hfresh : uid row ∉ t.rows.map uid := by
      intro hmem
      obtain ⟨k, hk, heq⟩ := h.bound _ hmem
      have := uid_drawn_injective (hrow.symm.trans heq)
      omega
    simp only [Table.insert, List.map_append, List.map_cons, List.map_nil]
    refine ⟨List.nodup_append'.2 ⟨h.nodup, List.nodup_singleton _, ?_⟩, fun u hu => ?_⟩
    · exact fun u hu hu' => hfresh (List.mem_singleton.1 hu' ▸ hu)
    · obtain hu | hu := List.mem_append.1 hu
      · obtain ⟨k, hk, rfl⟩ := h.bound u hu
        exact ⟨k, by omega, rfl⟩
      · obtain rfl := List.mem_singleton.1 hu
        exact ⟨d, hlt, hrow⟩

theorem Table.Sound.codes {α : Type} [Record α] {t : Table α} {code : α → String}
    {letters : String} (h : t.Sound)
    (hcode : ∀ a ∈ t.rows, code a = sequenceCode letters (key a)) : (t.rows.map code).Nodup := by
  refine (List.nodup_map_iff_inj_on h.nodup.of_map).2 fun a ha b hb heq => ?_
  have hcodes := (hcode a ha).symm.trans (heq.trans (hcode b hb))
  exact h.eq_of_key ha hb (sequenceCode_injective hcodes)

theorem nodup_of_modifyFirst? {α β : Type} {g : α → β} {p : α → Bool} {f : α → α}
    {rows rows' : List α} {row : α} (h : (rows.map g).Nodup)
    (hm : modifyFirst? p f rows = some (row, rows'))
    (hg : ∀ x ∈ rows, p x → ∀ y ∈ rows, g y ≠ g x → g y ≠ g (f x)) : (rows'.map g).Nodup := by
  obtain ⟨before, x, after, rfl, hx, -, -, rfl⟩ := modifyFirst?_eq_some hm
  rw [List.map_append, List.map_cons, List.nodup_middle, List.nodup_cons, ← List.map_append] at h ⊢
  refine ⟨fun hmem => ?_, h.2⟩
  obtain ⟨y, hy, heq⟩ := List.mem_map.1 hmem
  refine hg x (by simp) hx y ?_ (fun hyx => h.1 (hyx ▸ List.mem_map_of_mem hy)) heq
  simp only [List.mem_append, List.mem_cons] at hy ⊢
  exact hy.imp id .inr

namespace Memory

theorem fresh_of_checkAccount {users : List User} {email phone : String} {x : Unit}
    (h : checkAccount users email phone = .ok x) :
    email ∉ users.map (·.email) ∧ phone ∉ users.map (·.phone) := by
  unfold checkAccount at h
  split at h
  · cases h
  split at h
  · cases h
  · rename_i hemail hphone
    simp only [List.any_eq_true, beq_iff_eq, not_exists, not_and] at hemail hphone
    refine ⟨fun hmem => ?_, fun hmem => ?_⟩
    · obtain ⟨u, hu, heq⟩ := List.mem_map.1 hmem
      exact hemail u hu heq
    · obtain ⟨u, hu, heq⟩ := List.mem_map.1 hmem
      exact hphone u hu heq

theorem nodup_map_append {α β : Type} {g : α → β} {rows : List α} {row : α}
    (h : (rows.map g).Nodup) (hrow : g row ∉ rows.map g) : ((rows ++ [row]).map g).Nodup := by
  rw [List.map_append, List.map_singleton, List.nodup_append']
  exact ⟨h, List.nodup_singleton _, fun x hx hx' => hrow (List.mem_singleton.1 hx' ▸ hx)⟩

def Separate (users : List User) : Prop :=
  (users.map (·.email)).Nodup ∧ (users.map (·.phone)).Nodup

variable {m : Memory}

theorem separate_insert {account : NewAccount} {x : Unit} {id : Id} {kind : Kind}
    {now : Timestamp} (h : Separate m.users.rows)
    (hcheck : checkAccount m.users.rows account.email account.phone = .ok x) :
    Separate (m.users.insert (userRow id account kind now)).rows := by
  obtain ⟨hemail, hphone⟩ := fresh_of_checkAccount hcheck
  exact ⟨nodup_map_append h.1 hemail, nodup_map_append h.2 hphone⟩

theorem separate_update (hs : m.users.Sound) (h : Separate m.users.rows) (u : User) :
    Separate (m.updateUser u).2.users.rows := by
  have other {x y : User} (hx : x ∈ m.users.rows) (hxu : x.id == u.id) (hy : y ∈ m.users.rows)
      (hne : y ≠ x) : y.id ≠ u.id := by
    intro heq
    refine hne (hs.eq_of_key hy hx ?_)
    exact heq.trans (by simpa using hxu : x.id = u.id).symm
  simp only [updateUser]
  split
  · exact h
  split
  · exact h
  split
  · exact h
  · rename_i hemail hphone _ row rows hrows
    simp only [List.any_eq_true, Bool.and_eq_true, bne_iff_ne, beq_iff_eq, not_exists,
      not_and] at hemail hphone
    refine ⟨nodup_of_modifyFirst? h.1 hrows fun x hx hxu y hy hne => ?_,
      nodup_of_modifyFirst? h.2 hrows fun x hx hxu y hy hne => ?_⟩
    · exact hemail y hy (other hx hxu hy fun heq => hne (heq ▸ rfl))
    · exact hphone y hy (other hx hxu hy fun heq => hne (heq ▸ rfl))

theorem separate_userCall (hs : m.users.Sound) (h : Separate m.users.rows) (c : UserCall) :
    Separate (m.userCall c).2.users.rows := by
  cases c with
  | insert new =>
    simp only [userCall, insertUser]
    cases hcheck : checkAccount m.users.rows new.account.email new.account.phone with
    | error e => exact h
    | ok _ => exact separate_insert h hcheck
  | insertCustomer account =>
    simp only [userCall, insertCustomer, insertUser]
    cases hcheck : checkAccount m.users.rows account.email account.phone with
    | error e => exact h
    | ok _ => exact separate_insert h hcheck
  | update u => exact separate_update hs h u
  | updatePassword id hash =>
    simp only [userCall]
    split
    · exact h
    · rename_i row rows hrows
      exact ⟨nodup_of_modifyFirst? h.1 hrows fun _ _ _ _ _ hne => hne,
        nodup_of_modifyFirst? h.2 hrows fun _ _ _ _ _ hne => hne⟩
  | delete id =>
    simp only [userCall]
    split
    · exact h
    · rename_i rows hrows
      rw [withoutId_eq_some hrows]
      exact ⟨h.1.sublist (List.filter_sublist.map _), h.2.sublist (List.filter_sublist.map _)⟩
  | many ids =>
    simp only [userCall, fetch]
    split <;> exact h
  | _ => exact h

theorem separate_handle (hs : m.users.Sound) (h : Separate m.users.rows) (c : Call) :
    Separate (handle c m).2.users.rows := by
  by_cases hc : c.table = .users
  · cases c with
    | users c => exact separate_userCall hs h c
    | _ => cases hc
  by_cases hr : ∀ new owner, c ≠ .organizations (.register new owner)
  · rw [(handle_frame c).users hc hr]
    exact h
  · push Not at hr
    obtain ⟨new, owner, rfl⟩ := hr
    simp only [handle, organizationCall, register]
    cases hcheck : checkAccount m.users.rows owner.email owner.phone with
    | error e => exact h
    | ok _ => exact separate_insert h hcheck

/-- What rows can be looked up by, beside ids and codes. -/
structure Distinct (m : Memory) : Prop where
  accounts : Separate m.users.rows
  containers : Drawn m.drawn (m.containers.rows.map (·.uid))
  pallets : Drawn m.drawn (m.pallets.rows.map (·.uid))

theorem Distinct.empty (clock : Timestamp) : (Memory.empty clock).Distinct :=
  ⟨⟨List.nodup_nil, List.nodup_nil⟩, ⟨List.nodup_nil, by simp [Memory.empty]⟩,
    ⟨List.nodup_nil, by simp [Memory.empty]⟩⟩

theorem Distinct.handle (h : m.Distinct) (hs : m.Sound) {c : Call} (hc : m.Faithful c) :
    (handle c m).2.Distinct := by
  have step := handle_step c hc
  refine ⟨separate_handle hs.users h.accounts c, ?_, ?_⟩
  · refine h.containers.step (fun _ => rfl) step.containers step.drawn fun x hx => ?_
    cases hx
    exact ⟨rfl, Nat.lt_succ_self _⟩
  · refine h.pallets.step (fun _ => rfl) step.pallets step.drawn fun x hx => ?_
    cases hx
    exact ⟨rfl, Nat.lt_succ_self _⟩

end Memory

end Depot.Store

namespace Depot.Operation

open Store

theorem History.distinct {s : Accounts.Settings} {states : List Memory} (h : History s states) :
    ∀ m ∈ states, m.Distinct := by
  induction h with
  | start clock =>
    intro m hm
    obtain rfl := List.mem_singleton.1 hm
    exact .empty clock
  | @tick m past _ now ih =>
    intro n hn
    obtain rfl | hn := List.mem_cons.1 hn
    · obtain ⟨haccounts, hcontainers, hpallets⟩ := ih m List.mem_cons_self
      exact ⟨haccounts, hcontainers, hpallets⟩
    · exact ih n hn
  | @call m past seen a c hist hseen hc ih =>
    intro n hn
    obtain rfl | hn := List.mem_cons.1 hn
    · have hl := hist.lineage
      exact (ih m List.mem_cons_self).handle (hl.sound m List.mem_cons_self) (hl.faithful hseen hc)
    · exact ih n hn

end Depot.Operation
