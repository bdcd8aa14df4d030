import Depot.Proofs.Effects

namespace Depot

namespace Permission

theorem mem_onSubject {action : Action} {subject : Subject}
    {grantable : ¬(action = .create ∧ subject = .organization)} (h : subject ≠ .organization) :
    ⟨action, subject, grantable⟩ ∈ onSubject subject h := by
  cases action <;> simp [onSubject]

theorem mem_catalog (p : Permission) : p ∈ catalog := by
  obtain ⟨action, subject, grantable⟩ := p
  cases subject with
  | organization =>
    have hmem : ⟨action, .organization, grantable⟩ ∈
        [readOrganization, updateOrganization, deleteOrganization] := by
      cases action with
      | create => exact absurd ⟨rfl, rfl⟩ grantable
      | _ => simp [readOrganization, updateOrganization, deleteOrganization]
    simp only [catalog, List.mem_append, hmem, true_or]
  | _ => simp only [catalog, List.mem_append, mem_onSubject, or_true, true_or]

theorem mem_known {requested : List String} {name : String} :
    name ∈ known requested ↔ name ∈ requested ∧ name ∈ names := by
  simp only [known, distinct, List.mem_filter, List.mem_eraseDups, List.contains_iff_mem]

theorem name_mem_known (p : Permission) (requested : List String) :
    p.name ∈ known requested ↔ p.name ∈ requested := by
  rw [mem_known, and_iff_left_iff_imp]
  exact fun _ => List.mem_map_of_mem p.mem_catalog

end Permission

namespace Operation

open Program Store

def Act.permissions? : Act → Option (List String)
  | .job _ (.roleCreate c) => some c.permissions
  | .job _ (.roleUpdate c) => some c.permissions
  | _ => none

def Act.appoints : Act → Bool
  | .job _ (.roleCreate c) => c.isOrgAdmin
  | .registerOrganization _ => true
  | _ => false

namespace Event

def answers (e : Event) (role : Id) : Bool :=
  match e.outcome with
  | .ok reply => reply.rows.any (·.key == (.role, role))
  | .error _ => false

def grant? (e : Event) (role : Id) : Option (List String) :=
  if e.answers role then e.act.permissions? else none

def Concerns (e : Event) (role : Id) : Prop :=
  e.answers role ∧ (e.act.appoints ∨ e.act.permissions?.isSome)

end Event

def lastGrant (es : List Event) (role : Id) : Option (List String) := es.findSome? (·.grant? role)

def Appointed (es : List Event) (role : Id) : Prop := ∃ e ∈ es, e.act.appoints ∧ e.answers role

/-- The roles are as the events before have made them. -/
structure Recorded (es : List Event) (m : Memory) : Prop where
  appointed : ∀ r ∈ m.roles.rows, r.isOrgAdmin = true ↔ Appointed es r.id
  granted : ∀ r ∈ m.roles.rows, r.isOrgAdmin = false →
    ∃ names, lastGrant es r.id = some names ∧ r.permissions = Permission.known names
  numbered : ∀ e ∈ es, ∀ role : Int, e.Concerns role → role ≤ m.roles.sequence

variable {es : List Event} {e : Event} {role : Id} {m : Memory}

theorem appointed_cons :
    Appointed (e :: es) role ↔ e.act.appoints ∧ e.answers role ∨ Appointed es role := by
  simp [Appointed]

theorem appointed_of_quiet (h : ¬ e.Concerns role) :
    Appointed (e :: es) role ↔ Appointed es role := by
  rw [appointed_cons, or_iff_right_iff_imp]
  exact fun ⟨happoints, hanswers⟩ => absurd ⟨hanswers, .inl happoints⟩ h

theorem lastGrant_of_quiet (h : ¬ e.Concerns role) :
    lastGrant (e :: es) role = lastGrant es role := by
  have hnone : e.grant? role = none := by
    unfold Event.grant?
    split
    · rename_i hanswers
      simpa using fun hsome => h ⟨hanswers, .inr hsome⟩
    · rfl
  rw [lastGrant, List.findSome?_cons, hnone]
  rfl

theorem lastGrant_of_grant {names : List String} (hanswers : e.answers role)
    (hpermissions : e.act.permissions? = some names) : lastGrant (e :: es) role = some names := by
  have hgrant : e.grant? role = some names := by rw [Event.grant?, if_pos hanswers, hpermissions]
  rw [lastGrant, List.findSome?_cons, hgrant]

theorem answers_iff {reply : Reply} (h : e.outcome = .ok reply) :
    e.answers role ↔ ∃ row ∈ reply.rows, row.key = (.role, role) := by
  simp [Event.answers, h]

theorem exists_role_iff {r : Role} :
    (∃ row ∈ [Row.role r], row.key = (.role, role)) ↔ role = r.id := by
  simp [Row.key, eq_comm]

theorem exists_registered_iff {o : Organization} {r : Role} {u : User} :
    (∃ row ∈ [Row.organization o, .role r, .user u], row.key = (.role, role)) ↔ role = r.id := by
  simp [Row.key, eq_comm]

theorem not_concerns_of_error {x : Error} (h : e.outcome = .error x) : ¬ e.Concerns role := by
  intro hc
  simp [Event.Concerns, Event.answers, h] at hc

theorem not_concerns_of_act (happoints : e.act.appoints = false)
    (hpermissions : e.act.permissions? = none) : ¬ e.Concerns role := by
  intro hc
  simp [Event.Concerns, happoints, hpermissions] at hc

namespace Recorded

theorem numbered_cons (h : Recorded es m) (hsequence : m.roles.sequence ≤ e.after.roles.sequence)
    (he : ∀ role : Int, e.Concerns role → role ≤ e.after.roles.sequence) :
    ∀ e' ∈ e :: es, ∀ role : Int, e'.Concerns role → role ≤ e.after.roles.sequence := by
  intro e' he' role hc
  obtain rfl | he' := List.mem_cons.1 he'
  · exact he role hc
  · have hbound := h.numbered e' he' role hc
    omega

theorem quiet (h : Recorded es m) (hrows : e.after.roles.rows ⊆ m.roles.rows)
    (hsequence : e.after.roles.sequence = m.roles.sequence) (hquiet : ∀ role, ¬ e.Concerns role) :
    Recorded (e :: es) e.after where
  appointed r hr := by
    rw [appointed_of_quiet (hquiet r.id)]
    exact h.appointed r (hrows hr)
  granted r hr hadmin := by
    rw [lastGrant_of_quiet (hquiet r.id)]
    exact h.granted r (hrows hr) hadmin
  numbered := by
    apply h.numbered_cons
    · exact Nat.le_of_eq hsequence.symm
    · exact fun role hc => absurd hc (hquiet role)

theorem added (h : Recorded es m) (hsound : m.roles.Sound) {r : Role}
    (hid : r.id = m.roles.nextId) (hroles : e.after.roles = m.roles.insert r)
    (hanswers : ∀ role, e.answers role ↔ role = r.id) (hadmin : r.isOrgAdmin = e.act.appoints)
    (hgrant : r.isOrgAdmin = false →
      ∃ names, e.act.permissions? = some names ∧ r.permissions = Permission.known names) :
    Recorded (e :: es) e.after := by
  have hkey : Record.key r = m.roles.sequence + 1 := hid
  have hquiet : ∀ x ∈ m.roles.rows, ¬ e.Concerns x.id := by
    intro x hx hc
    have hbound := (hsound.bounds x hx).2
    have hnew : Record.key x = Record.key r := (hanswers x.id).1 hc.1
    omega
  have hfresh : ¬ Appointed es r.id := by
    rintro ⟨e', he', happoints, hanswers'⟩
    have hbound := h.numbered e' he' (Record.key r) ⟨hanswers', .inl happoints⟩
    omega
  constructor
  · intro x hx
    rw [hroles] at hx
    obtain hx | hx := List.mem_append.1 hx
    · rw [appointed_of_quiet (hquiet x hx)]
      exact h.appointed x hx
    · obtain rfl := List.mem_singleton.1 hx
      rw [appointed_cons, hadmin]
      simp [(hanswers x.id).2 rfl, hfresh]
  · intro x hx hx'
    rw [hroles] at hx
    obtain hx | hx := List.mem_append.1 hx
    · rw [lastGrant_of_quiet (hquiet x hx)]
      exact h.granted x hx hx'
    · obtain rfl := List.mem_singleton.1 hx
      obtain ⟨names, hpermissions, hknown⟩ := hgrant hx'
      exact ⟨names, lastGrant_of_grant ((hanswers x.id).2 rfl) hpermissions, hknown⟩
  · apply h.numbered_cons
    · rw [hroles]
      exact Nat.le_succ _
    · intro role hc
      rw [hroles, (hanswers role).1 hc.1]
      exact Int.le_of_eq hkey

theorem changed (h : Recorded es m) {id : Id} {names : List String} (hid : id ≤ m.roles.sequence)
    (happoints : e.act.appoints = false) (hpermissions : e.act.permissions? = some names)
    (hanswers : ∀ role, e.answers role ↔ role = id)
    (hsequence : e.after.roles.sequence = m.roles.sequence)
    (hrows : ∀ r ∈ e.after.roles.rows, r ∈ m.roles.rows ∧ r.id ≠ id ∨
      r.id = id ∧ (r.isOrgAdmin = false → r.permissions = Permission.known names) ∧
        ∃ old ∈ m.roles.rows, old.id = id ∧ old.isOrgAdmin = r.isOrgAdmin) :
    Recorded (e :: es) e.after := by
  have hquiet {role : Id} (hne : role ≠ id) : ¬ e.Concerns role :=
    fun hc => hne ((hanswers role).1 hc.1)
  constructor
  · intro r hr
    obtain ⟨hr, hne⟩ | ⟨hrid, -, old, hold, hold', hadmin⟩ := hrows r hr
    · rw [appointed_of_quiet (hquiet hne)]
      exact h.appointed r hr
    · rw [appointed_cons, happoints, ← hadmin, h.appointed old hold, hold', hrid]
      simp
  · intro r hr hadmin
    obtain ⟨hr, hne⟩ | ⟨hrid, hknown, -⟩ := hrows r hr
    · rw [lastGrant_of_quiet (hquiet hne)]
      exact h.granted r hr hadmin
    · exact ⟨names, lastGrant_of_grant ((hanswers r.id).2 hrid) hpermissions, hknown hadmin⟩
  · apply h.numbered_cons
    · exact Nat.le_of_eq hsequence.symm
    · intro role hc
      rw [hsequence, (hanswers role).1 hc.1]
      exact hid

end Recorded

theorem role_changed (hsound : m.roles.Sound) (new : Role) :
    (∃ x, (Memory.handle (.roles (.update new)) m).1 = .error x ∧
      (Memory.handle (.roles (.update new)) m).2 = m) ∨
      ∃ old ∈ m.roles.rows, ∃ row : Role, old.id = new.id ∧ row.id = new.id ∧
        row.isOrgAdmin = old.isOrgAdmin ∧ row.permissions = new.permissions ∧
        (Memory.handle (.roles (.update new)) m).1 = .ok row ∧
        (Memory.handle (.roles (.update new)) m).2.roles.sequence = m.roles.sequence ∧
        ∀ r ∈ (Memory.handle (.roles (.update new)) m).2.roles.rows,
          r ∈ m.roles.rows ∧ r.id ≠ new.id ∨ r = row := by
  simp only [Memory.handle, Memory.roleCall]
  split
  · exact .inl ⟨_, rfl, rfl⟩
  · rename_i row rows hrows
    obtain ⟨before, old, after, hbefore, hold, -, rfl, rfl⟩ := modifyFirst?_eq_some hrows
    have hid : old.id = new.id := by simpa using hold
    have hmem : old ∈ m.roles.rows := by simp [hbefore]
    have hnodup := hsound.nodup
    rw [hbefore, List.map_append, List.map_cons, List.nodup_middle, List.nodup_cons,
      ← List.map_append] at hnodup
    have hother : ∀ r ∈ before ++ after, r.id ≠ new.id := by
      intro r hr heq
      have hmem' := List.mem_map_of_mem (f := Record.key) hr
      exact hnodup.1 ((heq.trans hid.symm : Record.key r = Record.key old) ▸ hmem')
    refine .inr ⟨old, hmem, { old with
      name := new.name
      permissions := new.permissions
      isArchived := new.isArchived }, hid, hid, rfl, rfl, rfl, rfl, fun r hr => ?_⟩
    obtain hr | hr := List.mem_append.1 hr
    · exact .inl ⟨by simp [hbefore, hr], hother r (by simp [hr])⟩
    · obtain rfl | hr := List.mem_cons.1 hr
      · exact .inr rfl
      · exact .inl ⟨by simp [hbefore, hr], hother r (by simp [hr])⟩

variable {s : Accounts.Settings} {seen : List Memory} {c : Call}

namespace Recorded

theorem elsewhere (h : Recorded es m) (hafter : e.after = (Memory.handle c m).2)
    (hc : c.table ≠ .roles) (hr : ∀ new owner, c ≠ .organizations (.register new owner))
    (happoints : e.act.appoints = false) (hpermissions : e.act.permissions? = none) :
    Recorded (e :: es) e.after := by
  have hroles : e.after.roles = m.roles := by
    rw [hafter]
    exact (Memory.handle_frame c).roles hc hr
  refine h.quiet ?_ ?_ fun role => not_concerns_of_act happoints hpermissions
  · rw [hroles]
    exact List.Subset.refl _
  · rw [hroles]

theorem failed {x : Error} (h : Recorded es m) (hafter : e.after = m) (he : e.outcome = .error x) :
    Recorded (e :: es) e.after := by
  refine h.quiet ?_ ?_ fun role => not_concerns_of_error he
  · rw [hafter]
    exact List.Subset.refl _
  · rw [hafter]

/-- A new role with the permissions that were asked for it, as far as there are such, unless it is to
administer its organization. -/
theorem created (h : Recorded es m) (hsound : m.roles.Sound) {new : NewRole} {reply : Reply}
    (hreply : e.outcome = .ok reply) (hroles : e.after.roles =
      m.roles.insert (Memory.roleRow m.roles.nextId new m.clock))
    (hrows : ∀ role, (∃ row ∈ reply.rows, row.key = (.role, role)) ↔ role = m.roles.nextId)
    (hadmin : new.isOrgAdmin = e.act.appoints)
    (hgrant : new.isOrgAdmin = false →
      ∃ names, e.act.permissions? = some names ∧ new.permissions = Permission.known names) :
    Recorded (e :: es) e.after := by
  apply h.added hsound rfl hroles
  · intro role
    rw [answers_iff hreply, hrows]
    rfl
  · exact hadmin
  · exact hgrant

/-- A role written over with the permissions that were asked for it, unless it administers. -/
theorem rewritten (h : Recorded es m) (hsound : m.roles.Sound) {old new : Role}
    (hold : old ∈ m.roles.rows) (hid : old.id = new.id) {names : List String}
    (happoints : e.act.appoints = false) (hpermissions : e.act.permissions? = some names)
    (hnew : old.isOrgAdmin = false → new.permissions = Permission.known names) {f : Role → Reply}
    (hf : ∀ r, (f r).rows = [.role r])
    (houtcome : e.outcome = (Memory.handle (.roles (.update new)) m).1.map f)
    (hafter : e.after = (Memory.handle (.roles (.update new)) m).2) :
    Recorded (e :: es) e.after := by
  obtain ⟨x, herror, hkept⟩ |
    ⟨found, hfound, row, hid', hrow, hadmin, hpermissions', hok, hsequence, hrows⟩ :=
    role_changed hsound new
  · rw [herror] at houtcome
    rw [hkept] at hafter
    exact h.failed hafter houtcome
  · obtain rfl : found = old := hsound.eq_of_key hfound hold (hid'.trans hid.symm)
    have hbound := (hsound.bounds found hold).2
    rw [hok] at houtcome
    apply h.changed hbound happoints hpermissions
    · intro role
      rw [answers_iff houtcome, hf, exists_role_iff, hrow, ← hid]
      rfl
    · rw [hafter, hsequence]
    · intro r hr
      rw [hafter] at hr
      obtain ⟨hr, hne⟩ | rfl := hrows r hr
      · exact .inl ⟨hr, fun heq => hne (heq.trans hid)⟩
      · refine .inr ⟨hrow.trans hid.symm, fun hplain => ?_, found, hold, rfl, hadmin.symm⟩
        rw [hpermissions', hnew (hadmin.symm.trans hplain)]

theorem call (h : Recorded es m) (hsound : m.roles.Sound) (hseen : seen ⊆ [m])
    (hread : ¬ c.IsRead) (hc : Act.Licensed s seen e.act c) {f : c.Answer → Reply}
    (hf : ∀ x, (f x).rows = c.rows x) (houtcome : e.outcome = (Memory.handle c m).1.map f)
    (hafter : e.after = (Memory.handle c m).2) : Recorded (e :: es) e.after := by
  obtain ⟨act, before, outcome, after⟩ := e
  cases hc with
  | read hc => exact absurd hc hread
  | seedAdmin | registerAdmin | registerCustomer | registerMember =>
    exact h.elsewhere hafter (fun h => by cases h) (fun _ _ h => by cases h) rfl rfl
  | @registerOrganization r account _ =>
    simp only [Memory.handle, Memory.organizationCall, Memory.register] at houtcome hafter
    cases hcheck : Memory.checkAccount m.users.rows account.email account.phone with
    | error x =>
      rw [hcheck] at houtcome hafter
      exact h.failed hafter houtcome
    | ok _ =>
      rw [hcheck] at houtcome hafter
      have hroles := congrArg Memory.roles hafter
      refine h.created hsound houtcome hroles (fun role => ?_) rfl fun hnone => by cases hnone
      rw [hf]
      exact exists_registered_iff
  | job hj =>
    cases hj with
    | @roleCreate creation own _ _ _ _ _ =>
      have hroles := congrArg Memory.roles hafter
      refine h.created hsound houtcome hroles (fun role => ?_) rfl fun hnone => ?_
      · rw [hf]
        exact exists_role_iff
      · have hplain : ¬ creation.isOrgAdmin = true := Bool.eq_false_iff.1 hnone
        exact ⟨creation.permissions, rfl, if_neg hplain⟩
    | @roleUpdate change r _ _ hr hid =>
      obtain ⟨n, hn, hstored, -⟩ := hr
      obtain rfl := List.mem_singleton.1 (hseen hn)
      refine h.rewritten hsound hstored ?_ rfl rfl (fun hplain => ?_) hf houtcome hafter
      · rfl
      · exact if_neg (Bool.eq_false_iff.1 hplain)
    | @roleDelete id _ =>
      have hkept : after.roles.rows ⊆ m.roles.rows ∧ after.roles.sequence = m.roles.sequence := by
        simp only [Memory.handle, Memory.roleCall] at hafter
        split at hafter
        · exact hafter ▸ ⟨List.Subset.refl _, rfl⟩
        · rename_i rows hrows
          rw [hafter, withoutId_eq_some hrows]
          exact ⟨List.filter_subset_self _, rfl⟩
      exact h.quiet hkept.1 hkept.2 fun role => not_concerns_of_act rfl rfl
    | _ => exact h.elsewhere hafter (fun h => by cases h) (fun _ _ h => by cases h) rfl rfl

end Recorded

theorem quiet_of_rest {a : Act} {reply : Reply} (h : a.MayRest reply) :
    a.appoints = false ∧ a.permissions? = none := by
  cases a with
  | login | seedAdmin => exact ⟨rfl, rfl⟩
  | job p j =>
    cases j
    all_goals first
      | exact ⟨rfl, rfl⟩
      | exact h.elim
  | _ => exact h.elim

theorem Run.recorded (h : Run s es m) : Recorded es m := by
  induction h with
  | start clock =>
    refine ⟨fun r hr => ?_, fun r hr => ?_, fun e he => ?_⟩
    · exact absurd hr List.not_mem_nil
    · exact absurd hr List.not_mem_nil
    · exact absurd he List.not_mem_nil
  | tick _ now ih => exact ⟨ih.appointed, ih.granted, ih.numbered⟩
  | @act es m h a ih =>
    obtain ⟨past, hist, -⟩ := h.history
    have hsound := (hist.lineage.sound m List.mem_cons_self).roles
    obtain ⟨x, herror, hafter⟩ | ⟨reply, hrest, -, hafter⟩ |
      ⟨c, seen, hseen, hread, hc, f, hf, houtcome, hafter⟩ := a.event_cases s m
    · exact ih.failed hafter herror
    · obtain ⟨happoints, hpermissions⟩ := quiet_of_rest hrest
      refine ih.quiet ?_ ?_ fun role => not_concerns_of_act happoints hpermissions
      · rw [hafter]
        exact List.Subset.refl _
      · rw [hafter]
    · exact ih.call hsound hseen hread hc hf houtcome hafter

theorem run_evaluate_member (hsound : m.roles.Sound) {r : Role} (hr : r ∈ m.roles.rows)
    (id organization : Id) (p : Permission) (customerView : Bool) :
    ((Authorization.evaluate ⟨id, .member organization r.id⟩ p true customerView).run
      Memory.handle m).1 = .ok (if r.grants p then .allow else .deny) := by
  have hfind : (Memory.handle (.roles (.byId r.id)) m).1 = .ok r :=
    find_own hsound.nodup hr .noRole
  simp only [Authorization.evaluate, if_true, bind_eq, Program.call, ask_bind, run_ask]
  rw [hfind]
  rfl

/-- The evaluator allows a member what the role was last asked to grant, or everything if the role was
made to administer. Lists that were refused and whatever was done to others do not count. -/
theorem evaluation_follows_the_last_grant (h : Run s es m) {r : Role} (hr : r ∈ m.roles.rows)
    (id organization : Id) (p : Permission) (customerView : Bool) :
    (((Authorization.evaluate ⟨id, .member organization r.id⟩ p true customerView).run
        Memory.handle m).1 = .ok .allow ↔
      Appointed es r.id ∨ ∃ names, lastGrant es r.id = some names ∧ p.name ∈ names) ∧
    (((Authorization.evaluate ⟨id, .member organization r.id⟩ p true customerView).run
        Memory.handle m).1 = .ok .deny ↔
      ¬ (Appointed es r.id ∨ ∃ names, lastGrant es r.id = some names ∧ p.name ∈ names)) := by
  obtain ⟨past, hist, -⟩ := h.history
  have hsound := (hist.lineage.sound m List.mem_cons_self).roles
  have hgrants : r.grants p = true ↔
      Appointed es r.id ∨ ∃ names, lastGrant es r.id = some names ∧ p.name ∈ names := by
    have happointed := h.recorded.appointed r hr
    by_cases hadmin : r.isOrgAdmin = true
    · simp [Role.grants, hadmin, happointed.1 hadmin]
    · have hplain : r.isOrgAdmin = false := Bool.eq_false_iff.2 hadmin
      obtain ⟨names, hlast, hknown⟩ := h.recorded.granted r hr hplain
      have hname : r.grants p = true ↔ p.name ∈ names := by
        rw [← Permission.name_mem_known, ← hknown]
        simp [Role.grants, hplain]
      have hnot : ¬ Appointed es r.id := fun hes => hadmin (happointed.2 hes)
      rw [hname]
      simp [hnot, hlast]
  rw [run_evaluate_member hsound hr, ← hgrants]
  by_cases hp : r.grants p
  · simp [hp]
  · simp [hp]

/-- A role is made with a list that names one permission twice and one that there is not, it is changed
to another list, and a second change is refused. -/
theorem refused_change_grants_nothing :
    ∃ (s : Accounts.Settings) (es : List Event) (m : Memory) (r : Role), Run s es m ∧
      r ∈ m.roles.rows ∧ ¬ Appointed es r.id ∧ lastGrant es r.id = some ["Create Pallet"] ∧
      ((Authorization.evaluate ⟨7, .member 1 r.id⟩ .createPallet true false).run
        Memory.handle m).1 = .ok .allow ∧
      ((Authorization.evaluate ⟨7, .member 1 r.id⟩ .deleteUser true false).run
        Memory.handle m).1 = .ok .deny := by
  let s : Accounts.Settings := ⟨"k", 60, 4⟩
  let p : Principal := ⟨1, .member 1 1⟩
  let e₁ := Act.event s
    (.registerOrganization ⟨"A", none, ⟨"A", "A", "a", "1", "secret"⟩⟩) (Memory.empty ⟨0⟩)
  let e₂ := Act.event s
    (.job p (.roleCreate ⟨"R", ["Read Role", "Ship It", "Read Role"], false, none⟩)) e₁.after
  let e₃ := Act.event s (.job p (.roleUpdate ⟨2, "R", ["Create Pallet"], false⟩)) e₂.after
  let e₄ := Act.event s (.job p (.roleUpdate ⟨2, " ", ["Delete User"], false⟩)) e₃.after
  let r : Role := ⟨2, "ROLE00002", "R", ["Create Pallet"], false, false, 1, ⟨0⟩, ⟨0⟩⟩
  have hrun : Run s [e₄, e₃, e₂, e₁] e₄.after := ((((Run.start ⟨0⟩).act _).act _).act _).act _
  have hr : r ∈ e₄.after.roles.rows := by decide +kernel
  have hlast : lastGrant [e₄, e₃, e₂, e₁] r.id = some ["Create Pallet"] := by decide +kernel
  have hnot : ¬ Appointed [e₄, e₃, e₂, e₁] r.id := by
    unfold Appointed
    decide +kernel
  refine ⟨s, [e₄, e₃, e₂, e₁], e₄.after, r, hrun, hr, hnot, hlast, ?_, ?_⟩
  · exact (evaluation_follows_the_last_grant hrun hr 7 1 .createPallet false).1.2
      (.inr ⟨_, hlast, List.mem_cons_self⟩)
  · refine (evaluation_follows_the_last_grant hrun hr 7 1 .deleteUser false).2.2 ?_
    rintro (hes | ⟨names, hnames, hname⟩)
    · exact hnot hes
    · rw [hlast] at hnames
      cases hnames
      revert hname
      decide

end Operation

end Depot
