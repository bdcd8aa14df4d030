import Depot.Proofs.Reading

namespace Depot.Operation

open Program Store

variable {p : Principal} {seen : List Memory} {allowed : List Memory → Call → Prop}

section Answers

variable {m : Memory}

theorem organization_updated {o row : Organization}
    (h : (Memory.handle (.organizations (.update o)) m).1 = .ok row) :
    row ∈ (Memory.handle (.organizations (.update o)) m).2.organizations.rows ∧ row.id = o.id := by
  simp only [Memory.handle, Memory.organizationCall] at h ⊢
  split at h
  · cases h
  · rename_i x rows hrows
    cases h
    obtain ⟨hrow, x, -, -, rfl⟩ := modifyFirst?_mem hrows
    exact ⟨hrow, rfl⟩

theorem role_updated {r row : Role} (h : (Memory.handle (.roles (.update r)) m).1 = .ok row) :
    row ∈ (Memory.handle (.roles (.update r)) m).2.roles.rows ∧ row.id = r.id := by
  simp only [Memory.handle, Memory.roleCall] at h ⊢
  split at h
  · cases h
  · rename_i x rows hrows
    cases h
    obtain ⟨hrow, x, -, hx, rfl⟩ := modifyFirst?_mem hrows
    exact ⟨hrow, by simpa using hx⟩

theorem user_updated {u row : User} (h : (Memory.handle (.users (.update u)) m).1 = .ok row) :
    row ∈ (Memory.handle (.users (.update u)) m).2.users.rows ∧ row.id = u.id := by
  simp only [Memory.handle, Memory.userCall, Memory.updateUser] at h ⊢
  split at h
  · cases h
  split at h
  · cases h
  split at h
  · cases h
  · rename_i hemail hphone _ x rows hrows
    cases h
    simp only [hemail, hphone]
    obtain ⟨hrow, x, -, hx, rfl⟩ := modifyFirst?_mem hrows
    exact ⟨hrow, by simpa using hx⟩

theorem container_updated {c row : Container}
    (h : (Memory.handle (.containers (.update c)) m).1 = .ok row) :
    row ∈ (Memory.handle (.containers (.update c)) m).2.containers.rows ∧ row.id = c.id := by
  simp only [Memory.handle, Memory.containerCall] at h ⊢
  split at h
  · cases h
  · rename_i x rows hrows
    cases h
    obtain ⟨hrow, x, -, hx, rfl⟩ := modifyFirst?_mem hrows
    exact ⟨hrow, by simpa using hx⟩

theorem pallet_updated {x row : Pallet}
    (h : (Memory.handle (.pallets (.update x)) m).1 = .ok row) :
    row ∈ (Memory.handle (.pallets (.update x)) m).2.pallets.rows ∧ row.id = x.id := by
  simp only [Memory.handle, Memory.palletCall] at h ⊢
  split at h
  · cases h
  · rename_i y rows hrows
    cases h
    obtain ⟨hrow, y, -, hy, rfl⟩ := modifyFirst?_mem hrows
    exact ⟨hrow, by simpa using hy⟩

theorem user_inserted {new : NewUser} {row : User}
    (h : (Memory.handle (.users (.insert new)) m).1 = .ok row) :
    row ∈ (Memory.handle (.users (.insert new)) m).2.users.rows ∧
      row.flags = Principal.flags ⟨row.id, new.kind⟩ := by
  simp only [Memory.handle, Memory.userCall, Memory.insertUser] at h ⊢
  split at h
  · cases h
  · rename_i hcheck
    cases h
    simp only [Table.insert]
    exact ⟨by simp, rfl⟩

end Answers

theorem shown_after {row own : Row} {m m' : Memory} (hrow : m'.Holds row)
    (hown : p.Granted seen own) (hkey : row.key = own.key) : p.Shown (m' :: m :: seen) row :=
  .same ⟨m', List.mem_cons_self, hrow⟩ (hown.mono (by simp)) hkey

section Writing

variable (s : Accounts.Settings)

theorem Organizations.update_conforms (id : Id) (name : String) (website : Option String) :
    Conforms Memory.handle
      (fun seen => Act.Licensed s seen (.job p (.organizationUpdate id name website)))
      (fun seen o => p.Shown seen (.organization o)) seen
      (Organizations.update p id name website) := by
  refine Conforms.ite (fun _ => .fail) fun hname => ?_
  refine (get_conforms (fun _ _ h => .read h.isRead) id).bind fun seen' o _ ho => ?_
  obtain ⟨ho, rfl⟩ := ho
  refine ⟨.job (.organizationUpdate hname ho), fun m => .ofExcept fun row hrow => ?_⟩
  obtain ⟨hrow, hid⟩ := organization_updated hrow
  exact shown_after hrow ho (by simp [Row.key, hid])

theorem Organizations.setArchived_conforms (id : Id) (archived : Bool) :
    Conforms Memory.handle
      (fun seen => Act.Licensed s seen (.job p (.organizationArchive id archived)))
      (fun seen o => p.Shown seen (.organization o)) seen
      (Organizations.setArchived p id archived) := by
  refine (get_conforms (fun _ _ h => .read h.isRead) id).bind fun seen' o _ ho => ?_
  obtain ⟨ho, rfl⟩ := ho
  refine Conforms.ite (fun _ => .fail) fun harchived => ?_
  refine ⟨.job (.organizationArchive harchived ho), fun m => .ofExcept fun row hrow => ?_⟩
  obtain ⟨hrow, hid⟩ := organization_updated hrow
  exact shown_after hrow ho (by simp [Row.key, hid])

theorem Roles.create_conforms (c : Roles.Creation) :
    Conforms Memory.handle (fun seen => Act.Licensed s seen (.job p (.roleCreate c)))
      (fun seen r => p.Shown seen (.role r)) seen (Roles.create p c) := by
  refine Conforms.ite (fun _ => .fail) fun hname => ?_
  refine Conforms.ite (fun _ => .fail) fun hpermissions => ?_
  refine Conforms.bind_ofExcept fun own howner => ?_
  have insert (seen : List Memory)
      (ho : p.isAdmin → ∃ o, Stored seen (.organization o) ∧ o.id = own)
      (ha : c.isOrgAdmin → p.Administers seen) :
      Conforms Memory.handle (fun seen => Act.Licensed s seen (.job p (.roleCreate c)))
        (fun seen r => p.Shown seen (.role r)) seen
        (call (.roles (.insert ⟨Text.trim c.name,
          if c.isOrgAdmin then [] else Permission.known c.permissions, c.isOrgAdmin, own⟩))) := by
    refine ⟨?_, fun m => .ofExcept fun row hrow => ?_⟩
    · refine .job (.roleCreate hname ?_ howner ho ha)
      intro hadmin hempty
      simp [hadmin, hempty] at hpermissions
    · cases hrow
      refine .own ⟨_, List.mem_cons_self, List.mem_append_right _ List.mem_cons_self, ?_⟩
      refine Principal.owns_of_owningTenant howner fun role hkind => ?_
      simp [Principal.Owns, hkind, Memory.roleRow]
  refine Conforms.join
    (P := fun seen => p.isAdmin → ∃ o, Stored seen (.organization o) ∧ o.id = own)
    (fun _ => ?_) (fun hp h => absurd h hp) fun seen' _ ho => ?_
  · refine .call (.read trivial) fun m o ho _ => ⟨o, .before (find_eq_ok ho).1, ?_⟩
    simpa using (find_eq_ok ho).2
  · refine Conforms.ite (fun _ => ?_) fun h => insert seen' ho fun h' => absurd h' h
    refine (administers_conforms fun _ _ h => .read h.isRead).bind fun seen'' b hs hb => ?_
    refine Conforms.ite (fun _ => .fail) fun hb' => ?_
    refine insert seen'' (fun hp => ?_) fun _ => hb (by simpa using hb')
    obtain ⟨o, hstored, hid⟩ := ho hp
    exact ⟨o, hstored.mono hs, hid⟩

theorem Roles.update_conforms (c : Roles.Change) :
    Conforms Memory.handle (fun seen => Act.Licensed s seen (.job p (.roleUpdate c)))
      (fun seen r => p.Shown seen (.role r)) seen (Roles.update p c) := by
  refine Conforms.ite (fun _ => .fail) fun hname => ?_
  refine Conforms.ite (fun _ => .fail) fun hpermissions => ?_
  refine (get_conforms (fun _ _ h => .read h.isRead) c.id).bind fun seen' r _ hr => ?_
  refine ⟨?_, fun m => .ofExcept fun row hrow => ?_⟩
  · refine .job (.roleUpdate hname ?_ hr.1 hr.2)
    simpa using hpermissions
  · obtain ⟨hrow, hid⟩ := role_updated hrow
    exact shown_after hrow hr.1 (by simp [Row.key, hid])

theorem Users.update_conforms (id : Id) (c : Users.Change) :
    Conforms Memory.handle (fun seen => Act.Licensed s seen (.job p (.userUpdate id c)))
      (fun seen u => p.Shown seen (.user u)) seen (Users.update p id c) := by
  refine (get_conforms (fun _ _ h => .read h.isRead) id).bind fun seen' u _ hu => ?_
  obtain ⟨hu, rfl⟩ := hu
  refine ⟨.job (.userUpdate hu), fun m => .ofExcept fun row hrow => ?_⟩
  obtain ⟨hrow, hid⟩ := user_updated hrow
  exact shown_after hrow hu (by simp [Row.key, hid, Users.Change.apply])

theorem Containers.create_conforms (c : Containers.Creation) :
    Conforms Memory.handle (fun seen => Act.Licensed s seen (.job p (.containerCreate c)))
      (fun seen x => p.Shown seen (.container x)) seen (Containers.create p c) := by
  refine Conforms.bind_ofExcept fun own howner => ?_
  refine ⟨.job (.containerCreate howner), fun m => .ofExcept fun row hrow => ?_⟩
  cases hrow
  refine .own ⟨_, List.mem_cons_self, List.mem_append_right _ List.mem_cons_self, ?_⟩
  refine Principal.owns_of_owningTenant howner fun role hkind => ?_
  simp [Principal.Owns, hkind, Memory.containerRow]

theorem Containers.update_conforms (id : Id) (description : Option String) :
    Conforms Memory.handle
      (fun seen => Act.Licensed s seen (.job p (.containerUpdate id description)))
      (fun seen x => p.Shown seen (.container x)) seen (Containers.update p id description) := by
  refine (get_conforms (fun _ _ h => .read h.isRead) id).bind fun seen' c _ hc => ?_
  obtain ⟨hc, rfl⟩ := hc
  refine ⟨.job (.containerUpdate hc), fun m => .ofExcept fun row hrow => ?_⟩
  obtain ⟨hrow, hid⟩ := container_updated hrow
  exact shown_after hrow hc (by simp [Row.key, hid])

theorem Containers.setArchived_conforms (id : Id) (archived : Bool) :
    Conforms Memory.handle
      (fun seen => Act.Licensed s seen (.job p (.containerArchive id archived)))
      (fun seen x => p.Shown seen (.container x)) seen (Containers.setArchived p id archived) := by
  refine (get_conforms (fun _ _ h => .read h.isRead) id).bind fun seen' c _ hc => ?_
  obtain ⟨hc, rfl⟩ := hc
  refine Conforms.ite (fun _ => .fail) fun harchived => ?_
  refine ⟨.job (.containerArchive harchived hc), fun m => .ofExcept fun row hrow => ?_⟩
  obtain ⟨hrow, hid⟩ := container_updated hrow
  exact shown_after hrow hc (by simp [Row.key, hid])

theorem Pallets.create_conforms (c : Pallets.Creation) :
    Conforms Memory.handle (fun seen => Act.Licensed s seen (.job p (.palletCreate c)))
      (fun seen x => p.Shown seen (.pallet x)) seen (Pallets.create p c) := by
  refine Conforms.bind_ofExcept fun own howner => ?_
  have insert (seen : List Memory) (hcontainer : ∀ id, c.containerId = some id →
      ∃ x, Stored seen (.container x) ∧ x.id = id ∧ x.organizationId = some own) :
      Conforms Memory.handle (fun seen => Act.Licensed s seen (.job p (.palletCreate c)))
        (fun seen x => p.Shown seen (.pallet x)) seen
        (call (.pallets (.insert ⟨c.description, own, c.containerId, p.id⟩))) := by
    refine ⟨.job (.palletCreate howner hcontainer), fun m => .ofExcept fun row hrow => ?_⟩
    cases hrow
    refine .own ⟨_, List.mem_cons_self, List.mem_append_right _ List.mem_cons_self, ?_⟩
    refine Principal.owns_of_owningTenant howner fun role hkind => ?_
    simp [Principal.Owns, hkind, Memory.palletRow]
  split
  · rename_i id hid
    refine (requireContainer_conforms (fun _ _ h => .read h.isRead) id own).bind fun seen' _ _ hc => ?_
    refine insert seen' fun id' hid' => ?_
    obtain rfl : id = id' := Option.some.inj (hid.symm.trans hid')
    exact hc
  · rename_i hnone
    exact insert seen fun id hid => absurd hid (hnone id)

theorem Pallets.update_conforms (c : Pallets.Change) :
    Conforms Memory.handle (fun seen => Act.Licensed s seen (.job p (.palletUpdate c)))
      (fun seen x => p.Shown seen (.pallet x)) seen (Pallets.update p c) := by
  refine (get_conforms (fun _ _ h => .read h.isRead) c.id).bind fun seen' x _ hx => ?_
  have write (seen'' : List Memory) (hs : seen' ⊆ seen'')
      (hcontainer : ∀ id own, c.containerId ≠ x.containerId → c.containerId = some id →
        x.organizationId = some own →
        ∃ y, Stored seen'' (.container y) ∧ y.id = id ∧ y.organizationId = some own) :
      Conforms Memory.handle (fun seen => Act.Licensed s seen (.job p (.palletUpdate c)))
        (fun seen x => p.Shown seen (.pallet x)) seen''
        (call (.pallets (.update
          { x with description := c.description, containerId := c.containerId }))) := by
    have hlicense := Job.Licensed.palletUpdate (s := s) (hx.1.mono hs) hx.2 hcontainer
    refine ⟨.job hlicense, fun m => .ofExcept fun row hrow => ?_⟩
    obtain ⟨hrow, hid⟩ := pallet_updated hrow
    exact shown_after hrow (hx.1.mono hs) (by simp [Row.key, hid])
  refine Conforms.ite (fun hmoved => ?_) fun hkept => ?_
  · split
    · rename_i id own hid howner
      refine (requireContainer_conforms (fun _ _ h => .read h.isRead) id own).bind fun seen'' _ hs hy => ?_
      refine write seen'' hs fun id' own' _ hid' howner' => ?_
      obtain rfl : id = id' := Option.some.inj (hid.symm.trans hid')
      obtain rfl : own = own' := Option.some.inj (howner.symm.trans howner')
      exact hy
    · rename_i hnone
      exact write seen' (List.Subset.refl _) fun id own _ hid howner =>
        (hnone id own hid howner).elim
  · exact write seen' (List.Subset.refl _) fun id own hmoved => absurd hmoved hkept

theorem Pallets.setArchived_conforms (id : Id) (archived : Bool) :
    Conforms Memory.handle (fun seen => Act.Licensed s seen (.job p (.palletArchive id archived)))
      (fun seen x => p.Shown seen (.pallet x)) seen (Pallets.setArchived p id archived) := by
  refine (get_conforms (fun _ _ h => .read h.isRead) id).bind fun seen' x _ hx => ?_
  obtain ⟨hx, rfl⟩ := hx
  refine Conforms.ite (fun _ => .fail) fun harchived => ?_
  refine ⟨.job (.palletArchive harchived hx), fun m => .ofExcept fun row hrow => ?_⟩
  obtain ⟨hrow, hid⟩ := pallet_updated hrow
  exact shown_after hrow hx (by simp [Row.key, hid])

theorem Accounts.changePassword_conforms (old new : String) :
    Conforms Memory.handle (fun seen => Act.Licensed s seen (.job p (.changePassword old new)))
      (fun _ _ => True) seen (Accounts.changePassword s p old new) := by
  refine Conforms.bind_call (.read trivial) fun m u hu => ?_
  refine Conforms.bind_ofExcept fun _ hold => ?_
  refine Conforms.ite (fun _ => .fail) fun hlength => ?_
  refine Conforms.ite (fun _ => .fail) fun hnew => ?_
  refine Conforms.bind_ofExcept fun hash hhash => ?_
  refine ⟨.job (.changePassword (.before (find_eq_ok hu).1) ?_ hold ?_ hnew hhash), fun m' => ?_⟩
  · simpa using (find_eq_ok hu).2
  · simpa using hlength
  · exact .ofExcept fun _ _ => trivial

theorem Accounts.registerMember_conforms (r : MemberRegistration) :
    Conforms Memory.handle (fun seen => Act.Licensed s seen (.registerMember p r))
      (fun seen u => p.Shown seen (.user u)) seen (Accounts.registerMember s p r) := by
  refine Conforms.bind_ofExcept fun own howner => ?_
  refine Conforms.bind_call (.read trivial) fun m o ho => ?_
  refine Conforms.bind_call (.read trivial) fun m' role hrole => ?_
  refine Conforms.ite (fun _ => .fail) fun horganization => ?_
  have ho' : ∃ x, Stored [m', m] (.organization x) ∧ x.id = own :=
    ⟨o, .before (find_eq_ok ho).1, by simpa using (find_eq_ok ho).2⟩
  have hrole' : Stored [m', m] (.role role) := ⟨m', by simp, (find_eq_ok hrole).1⟩
  have insert (seen' : List Memory) (hs : [m', m] ⊆ seen')
      (hadministers : role.isOrgAdmin → p.Administers seen') :
      Conforms Memory.handle (fun seen => Act.Licensed s seen (.registerMember p r))
        (fun seen u => p.Shown seen (.user u)) seen'
        ((ofExcept (Accounts.account s r.account)).bind fun a =>
          call (.users (.insert ⟨a, .member own role.id⟩))) := by
    refine Conforms.bind_ofExcept fun a ha => ⟨?_, fun m => .ofExcept fun row hrow => ?_⟩
    · obtain ⟨x, hx, hid⟩ := ho'
      refine .registerMember howner ⟨x, hx.mono hs, hid⟩ (hrole'.mono hs) ?_ ?_ hadministers ha
      · simpa using (find_eq_ok hrole).2
      · simpa using horganization
    · obtain ⟨hrow, hflags⟩ := user_inserted hrow
      refine .own ⟨_, List.mem_cons_self, hrow, ?_⟩
      have hmember : row.isMember = true := congrArg Flags.isMember hflags
      have horganization : row.organizationId = some own := congrArg Flags.organizationId hflags
      refine Principal.owns_of_owningTenant howner fun role' hkind => ?_
      simp [Principal.Owns, hkind, hmember, horganization]
  refine Conforms.ite (fun _ => ?_) fun h => insert _ (by simp) fun h' => absurd h' h
  refine (administers_conforms fun _ _ h => .read h.isRead).bind fun seen' b hs hb => ?_
  refine Conforms.ite (fun _ => .fail) fun hb' => ?_
  exact insert seen' (List.Subset.trans (by simp) hs) fun _ => hb (by simpa using hb')

end Writing

section Whole

variable (s : Accounts.Settings)

theorem answers_row {α : Type} {row : α → Row} {q : Program α}
    (hq : Conforms Memory.handle allowed (fun seen a => p.Shown seen (row a)) seen q) :
    Conforms Memory.handle allowed (fun seen v => ∀ r ∈ Value.rows v, p.Shown seen r) seen
      (q.bind fun a => .done (.row (row a))) := by
  refine hq.bind fun seen' a _ ha => .done fun r hr => ?_
  obtain rfl := List.mem_singleton.1 hr
  exact ha

theorem answers_page {α : Type} {type : RowType} {row : α → Row} {q : Program (List α)}
    (hq : Conforms Memory.handle allowed (fun seen as => ∀ a ∈ as, p.Shown seen (row a)) seen q) :
    Conforms Memory.handle allowed (fun seen v => ∀ r ∈ Value.rows v, p.Shown seen r) seen
      (q.bind fun as => .done (.page type (as.map row))) := by
  refine hq.bind fun seen' as _ has => .done fun r hr => ?_
  obtain ⟨a, ha, rfl⟩ := List.mem_map.1 hr
  exact has a ha

theorem answers_done {q : Program Unit}
    (hq : Conforms Memory.handle allowed (fun _ _ => True) seen q) :
    Conforms Memory.handle allowed (fun seen v => ∀ r ∈ Value.rows v, p.Shown seen r) seen
      (q.bind fun _ => .done .done) :=
  hq.bind_any fun _ _ => .done fun _ hr => absurd hr List.not_mem_nil

theorem requireAdmin_conforms {q : Program Unit}
    (hq : p.isAdmin → Conforms Memory.handle allowed (fun _ _ => True) seen q) :
    Conforms Memory.handle allowed (fun _ _ => True) seen
      ((ofExcept p.requireAdmin).bind fun _ => q) :=
  Conforms.bind_ofExcept fun _ h => hq (Principal.isAdmin_of_requireAdmin h)

/-- An operation makes no calls but those it is licensed to make, and what it answers may be shown
to its caller. -/
theorem Job.perform_conforms (j : Job) :
    Conforms Memory.handle (fun seen => Act.Licensed s seen (.job p j))
      (fun seen v => ∀ r ∈ v.rows, p.Shown seen r) seen (j.perform s p) := by
  have hread (seen : List Memory) (c : Call) (hc : c.IsLookup) :
      Act.Licensed s seen (.job p j) c := .read hc.isRead
  cases j with
  | organizations =>
    exact answers_page <|
      (Organizations.list_conforms hread).weaken fun _ _ _ h o ho => .own (h o ho)
  | organization finder =>
    exact answers_row ((findOrganization_conforms hread finder).weaken fun _ _ _ => .own)
  | roles o =>
    exact answers_page ((Roles.list_conforms hread o).weaken fun _ _ _ h r hr => .own (h r hr))
  | role finder => exact answers_row ((findRole_conforms hread finder).weaken fun _ _ _ => .own)
  | users filter o =>
    exact answers_page
      ((Users.list_conforms hread filter o).weaken fun _ _ _ h u hu => .own (h u hu))
  | user finder => exact answers_row ((findUser_conforms hread finder).weaken fun _ _ _ => .own)
  | me =>
    refine answers_row ⟨.read trivial, fun m => .ofExcept fun u hu => .self (.before ?_) ?_⟩
    · exact (find_eq_ok hu).1
    · simpa using (find_eq_ok hu).2
  | profile => exact answers_row ((Users.profile_conforms hread).weaken fun _ _ _ => .own)
  | containers =>
    exact answers_page ((Containers.list_conforms hread).weaken fun _ _ _ h c hc => .own (h c hc))
  | container finder =>
    exact answers_row ((findContainer_conforms hread finder).weaken fun _ _ _ => .own)
  | pallets c => exact answers_page (Pallets.list_conforms hread c)
  | pallet finder => exact answers_row ((findPallet_conforms hread finder).weaken fun _ _ _ => .own)
  | organizationUpdate id name website =>
    exact answers_row (Organizations.update_conforms s id name website)
  | organizationArchive id archived =>
    exact answers_row (Organizations.setArchived_conforms s id archived)
  | organizationDelete id =>
    refine answers_done <| requireAdmin_conforms fun hp =>
      ⟨.job (.organizationDelete hp), fun _ => ?_⟩
    exact .ofExcept fun _ _ => trivial
  | roleCreate c => exact answers_row (Roles.create_conforms s c)
  | roleUpdate c => exact answers_row (Roles.update_conforms s c)
  | roleDelete id =>
    refine answers_done (requireAdmin_conforms fun hp => ⟨.job (.roleDelete hp), fun _ => ?_⟩)
    exact .ofExcept fun _ _ => trivial
  | userUpdate id c => exact answers_row (Users.update_conforms s id c)
  | userDelete id =>
    refine answers_done (requireAdmin_conforms fun hp => ⟨.job (.userDelete hp), fun _ => ?_⟩)
    exact .ofExcept fun _ _ => trivial
  | changePassword old new => exact answers_done (Accounts.changePassword_conforms s old new)
  | containerCreate c => exact answers_row (Containers.create_conforms s c)
  | containerUpdate id description =>
    exact answers_row (Containers.update_conforms s id description)
  | containerArchive id archived =>
    exact answers_row (Containers.setArchived_conforms s id archived)
  | containerDelete id =>
    refine answers_done (requireAdmin_conforms fun hp => ⟨.job (.containerDelete hp), fun _ => ?_⟩)
    exact .ofExcept fun _ _ => trivial
  | palletCreate c => exact answers_row (Pallets.create_conforms s c)
  | palletUpdate c => exact answers_row (Pallets.update_conforms s c)
  | palletArchive id archived => exact answers_row (Pallets.setArchived_conforms s id archived)
  | palletDelete id =>
    refine answers_done (requireAdmin_conforms fun hp => ⟨.job (.palletDelete hp), fun _ => ?_⟩)
    exact .ofExcept fun _ _ => trivial

/-- What stands behind a reply: its rows may be shown to the caller, and its session is that of a
stored user. -/
structure Reply.Justified (a : Act) (seen : List Memory) (reply : Reply) : Prop where
  rows : ∀ p, a.caller? = some p → ∀ r ∈ reply.rows, p.Shown seen r
  session : ∀ t, reply.session = some t →
    ∃ u, Stored seen (.user u) ∧ u.principal = .ok t.principal

theorem Reply.Justified.anonymous {a : Act} {reply : Reply} (ha : a.caller? = none)
    (hreply : reply.session = none) : reply.Justified a seen := by
  refine ⟨fun p hp => ?_, fun t ht => ?_⟩
  · rw [ha] at hp
    cases hp
  · rw [hreply] at ht
    cases ht

theorem registerAdmin_conforms {r : Registration}
    (h : ∀ seen account, Accounts.account s r = .ok account →
      allowed seen (.users (.insert ⟨account, .admin⟩))) :
    Conforms Memory.handle allowed (fun _ _ => True) seen (Accounts.registerAdmin s r) :=
  Conforms.bind_ofExcept fun account ha => ⟨h _ account ha, fun _ => .ofExcept fun _ _ => trivial⟩

theorem Act.perform_conforms (a : Act) :
    Conforms Memory.handle (fun seen => Act.Licensed s seen a) (Reply.Justified a) seen
      (a.perform s) := by
  cases a with
  | seedAdmin email phone password =>
    refine Conforms.bind_any ⟨.read trivial, fun m => ?_⟩ fun _ _ => .done (.anonymous rfl rfl)
    dsimp only
    split
    · exact .done trivial
    · exact (registerAdmin_conforms s fun _ _ => .seedAdmin).bind_any fun _ _ => .done trivial
    · exact .fail
  | registerAdmin r =>
    exact (registerAdmin_conforms s fun _ _ => .registerAdmin).bind_any fun _ _ =>
      .done (.anonymous rfl rfl)
  | registerCustomer r =>
    refine Conforms.bind_any (Conforms.bind_ofExcept fun account ha => ?_) fun _ _ =>
      .done (.anonymous rfl rfl)
    exact ⟨.registerCustomer ha, fun _ => .ofExcept fun _ _ => trivial⟩
  | registerOrganization r =>
    refine Conforms.bind_any (Conforms.bind_ofExcept fun account ha => ?_) fun _ _ =>
      .done (.anonymous rfl rfl)
    exact ⟨.registerOrganization ha, fun _ => .ofExcept fun _ _ => trivial⟩
  | registerMember p r =>
    refine (Accounts.registerMember_conforms s r).bind fun seen' u _ hu =>
      .done ⟨?_, fun _ h => (nomatch h)⟩
    intro q hq row hrow
    obtain rfl : p = q := by simpa [Act.caller?] using hq
    obtain rfl := List.mem_singleton.1 hrow
    exact hu
  | login now door c =>
    refine (login_conforms (fun _ _ h => .read h.isRead) s now door c).bind fun seen' t _ ht =>
      .done ⟨fun _ h => (nomatch h), ?_⟩
    intro t' ht'
    obtain rfl : t = t' := by simpa using ht'
    exact ht
  | job p j =>
    refine (Job.perform_conforms s j).bind fun seen' v _ hv => .done ⟨?_, fun _ h => (nomatch h)⟩
    intro q hq row hrow
    obtain rfl : p = q := by simpa [Act.caller?] using hq
    exact hv row hrow

end Whole

end Depot.Operation
