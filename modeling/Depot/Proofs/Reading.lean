import Depot.Proofs.License

namespace Depot.Operation

open Program Store

variable {p : Principal} {seen : List Memory} {allowed : List Memory → Call → Prop}

theorem guarded_conforms {α : Type} {row : α → Row} {visible : α → Except Error α} {P : α → Prop}
    {q : Program α} (hv : ∀ a b, visible a = .ok b → b = a ∧ p.Owns (row a))
    (hq : Conforms Memory.handle allowed (fun seen a => Stored seen (row a) ∧ P a) seen q) :
    Conforms Memory.handle allowed (fun seen a => p.Granted seen (row a) ∧ P a) seen
      (q.bind fun a => Program.ofExcept (visible a)) := by
  refine hq.bind fun seen' a _ ha => Conforms.ofExcept fun b hb => ?_
  obtain ⟨rfl, hown⟩ := hv a b hb
  obtain ⟨⟨m, hm, hrow⟩, hP⟩ := ha
  exact ⟨⟨m, hm, hrow, hown⟩, hP⟩

theorem lookup_conforms {α : Type} {row : α → Row} {visible : α → Except Error α} {q : Program α}
    (hv : ∀ a b, visible a = .ok b → b = a ∧ p.Owns (row a))
    (hq : Conforms Memory.handle allowed (fun seen a => Stored seen (row a)) seen q) :
    Conforms Memory.handle allowed (fun seen a => p.Granted seen (row a)) seen
      (q.bind fun a => Program.ofExcept (visible a)) :=
  (guarded_conforms hv (hq.weaken fun _ _ _ h => ⟨h, trivial⟩)).weaken fun _ _ _ h => h.1

variable (hread : ∀ seen c, c.IsLookup → allowed seen c)

include hread

theorem Organizations.get_conforms (id : Id) :
    Conforms Memory.handle allowed (fun seen o => p.Granted seen (.organization o) ∧ o.id = id) seen
      (Organizations.get p id) :=
  guarded_conforms (fun _ _ => visible_eq_ok.1) <| .call (hread _ _ trivial) fun m o ho =>
    ⟨.before (find_eq_ok ho).1, by simpa using (find_eq_ok ho).2⟩

theorem Roles.get_conforms (id : Id) :
    Conforms Memory.handle allowed (fun seen r => p.Granted seen (.role r) ∧ r.id = id) seen
      (Roles.get p id) :=
  guarded_conforms (fun _ _ => visible_eq_ok.1) <| .call (hread _ _ trivial) fun m r hr =>
    ⟨.before (find_eq_ok hr).1, by simpa using (find_eq_ok hr).2⟩

theorem Users.get_conforms (id : Id) :
    Conforms Memory.handle allowed (fun seen u => p.Granted seen (.user u) ∧ u.id = id) seen
      (Users.get p id) :=
  guarded_conforms (fun _ _ => visible_eq_ok.1) <| .call (hread _ _ trivial) fun m u hu =>
    ⟨.before (find_eq_ok hu).1, by simpa using (find_eq_ok hu).2⟩

theorem Containers.get_conforms (id : Id) :
    Conforms Memory.handle allowed (fun seen c => p.Granted seen (.container c) ∧ c.id = id) seen
      (Containers.get p id) :=
  guarded_conforms (fun _ _ => visible_eq_ok.1) <| .call (hread _ _ trivial) fun m c hc =>
    ⟨.before (find_eq_ok hc).1, by simpa using (find_eq_ok hc).2⟩

theorem Pallets.get_conforms (id : Id) :
    Conforms Memory.handle allowed (fun seen x => p.Granted seen (.pallet x) ∧ x.id = id) seen
      (Pallets.get p id) :=
  guarded_conforms (fun _ _ => visible_eq_ok.1) <| .call (hread _ _ trivial) fun m x hx =>
    ⟨.before (find_eq_ok hx).1, by simpa using (find_eq_ok hx).2⟩

theorem findOrganization_conforms (finder : Finder) :
    Conforms Memory.handle allowed (fun seen o => p.Granted seen (.organization o)) seen
      (findOrganization p finder) := by
  cases finder with
  | id id => exact (Organizations.get_conforms hread id).weaken fun _ _ _ h => h.1
  | code code =>
    exact lookup_conforms (fun _ _ => Organizations.visible_eq_ok.1) <|
      .call (hread _ _ trivial) fun _ _ ho => .before (find_eq_ok ho).1
  | _ => exact .fail

theorem findRole_conforms (finder : Finder) :
    Conforms Memory.handle allowed (fun seen r => p.Granted seen (.role r)) seen
      (findRole p finder) := by
  cases finder with
  | id id => exact (Roles.get_conforms hread id).weaken fun _ _ _ h => h.1
  | code code =>
    exact lookup_conforms (fun _ _ => Roles.visible_eq_ok.1) <|
      .call (hread _ _ trivial) fun _ _ hr => .before (find_eq_ok hr).1
  | _ => exact .fail

theorem findUser_conforms (finder : Finder) :
    Conforms Memory.handle allowed (fun seen u => p.Granted seen (.user u)) seen
      (findUser p finder) := by
  cases finder with
  | id id => exact (Users.get_conforms hread id).weaken fun _ _ _ h => h.1
  | email email =>
    exact lookup_conforms (fun _ _ => Users.visible_eq_ok.1) <|
      .call (hread _ _ trivial) fun _ _ hu => .before (find_eq_ok hu).1
  | phone phone =>
    exact lookup_conforms (fun _ _ => Users.visible_eq_ok.1) <|
      .call (hread _ _ trivial) fun _ _ hu => .before (find_eq_ok hu).1
  | _ => exact .fail

theorem findContainer_conforms (finder : Finder) :
    Conforms Memory.handle allowed (fun seen c => p.Granted seen (.container c)) seen
      (findContainer p finder) := by
  cases finder with
  | id id => exact (Containers.get_conforms hread id).weaken fun _ _ _ h => h.1
  | code code =>
    exact lookup_conforms (fun _ _ => Containers.visible_eq_ok.1) <|
      .call (hread _ _ trivial) fun _ _ hc => .before (find_eq_ok hc).1
  | uid uid =>
    exact lookup_conforms (fun _ _ => Containers.visible_eq_ok.1) <|
      .call (hread _ _ trivial) fun _ _ hc => .before (find_eq_ok hc).1
  | _ => exact .fail

theorem findPallet_conforms (finder : Finder) :
    Conforms Memory.handle allowed (fun seen x => p.Granted seen (.pallet x)) seen
      (findPallet p finder) := by
  cases finder with
  | id id => exact (Pallets.get_conforms hread id).weaken fun _ _ _ h => h.1
  | code code =>
    exact lookup_conforms (fun _ _ => Pallets.visible_eq_ok.1) <|
      .call (hread _ _ trivial) fun _ _ hx => .before (find_eq_ok hx).1
  | uid uid =>
    exact lookup_conforms (fun _ _ => Pallets.visible_eq_ok.1) <|
      .call (hread _ _ trivial) fun _ _ hx => .before (find_eq_ok hx).1
  | _ => exact .fail

theorem Organizations.list_conforms :
    Conforms Memory.handle allowed (fun seen os => ∀ o ∈ os, p.Granted seen (.organization o)) seen
      (Organizations.list p) := by
  obtain ⟨id, kind⟩ := p
  cases kind with
  | admin =>
    refine .call (hread _ _ trivial) fun _ os hos o ho => .before ?_ trivial
    cases hos
    exact ho
  | member own role =>
    refine Conforms.bind_call (hread _ _ trivial) fun m x hx => .done fun o ho => ?_
    obtain rfl := List.mem_singleton.1 ho
    exact .before (find_eq_ok hx).1 (by simpa [Principal.Owns] using (find_eq_ok hx).2)
  | customer => exact .done (by simp)

theorem Roles.list_conforms (organization : Option Id) :
    Conforms Memory.handle allowed (fun seen rs => ∀ r ∈ rs, p.Granted seen (.role r)) seen
      (Roles.list p organization) := by
  obtain ⟨id, kind⟩ := p
  cases kind with
  | admin =>
    cases organization with
    | none =>
      refine .call (hread _ _ trivial) fun _ rs hrs r hr => .before ?_ trivial
      cases hrs
      exact hr
    | some o =>
      refine .call (hread _ _ trivial) fun _ rs hrs r hr => .before ?_ trivial
      cases hrs
      exact List.mem_of_mem_filter hr
  | member own role =>
    refine .call (hread _ _ trivial) fun m rs hrs r hr => ?_
    cases hrs
    obtain ⟨hr, hown⟩ := List.mem_filter.1 hr
    exact .before hr (by simpa [Principal.Owns] using hown)
  | customer => exact .fail

theorem Users.list_conforms (filter : UserFilter) (organization : Option Id) :
    Conforms Memory.handle allowed (fun seen us => ∀ u ∈ us, p.Granted seen (.user u)) seen
      (Users.list p filter organization) := by
  obtain ⟨id, kind⟩ := p
  cases kind with
  | admin =>
    cases organization with
    | none =>
      refine .call (hread _ _ trivial) fun _ us hus u hu => .before ?_ trivial
      cases hus
      exact List.mem_of_mem_filter hu
    | some o =>
      refine .call (hread _ _ trivial) fun _ us hus u hu => .before ?_ trivial
      cases hus
      exact List.mem_of_mem_filter hu
  | member own role =>
    refine .call (hread _ _ trivial) fun m us hus u hu => ?_
    cases hus
    obtain ⟨hu, hown⟩ := List.mem_filter.1 hu
    exact .before hu (by simpa [Principal.Owns] using hown)
  | customer => exact .fail

theorem Containers.list_conforms :
    Conforms Memory.handle allowed (fun seen cs => ∀ c ∈ cs, p.Granted seen (.container c)) seen
      (Containers.list p) := by
  obtain ⟨id, kind⟩ := p
  cases kind with
  | admin =>
    refine .call (hread _ _ trivial) fun _ cs hcs c hc => .before ?_ trivial
    cases hcs
    exact hc
  | member own role =>
    refine .call (hread _ _ trivial) fun m cs hcs c hc => ?_
    cases hcs
    obtain ⟨hc, hown⟩ := List.mem_filter.1 hc
    exact .before hc (by simpa [Principal.Owns] using hown)
  | customer => exact .done (by simp)

theorem Pallets.list_conforms (container : Option Id) :
    Conforms Memory.handle allowed (fun seen xs => ∀ x ∈ xs, p.Shown seen (.pallet x)) seen
      (Pallets.list p container) := by
  cases container with
  | some id =>
    refine Conforms.bind_call (hread _ _ trivial) fun m c hc => ?_
    refine Conforms.bind_ofExcept fun _ hguard => ?_
    refine .call (hread _ _ trivial) fun m' xs hxs x hx => ?_
    cases hxs
    obtain ⟨hx, hplace⟩ := List.mem_filter.1 hx
    refine .content ⟨m', by simp, hx⟩ ⟨m, by simp, (find_eq_ok hc).1, ?_⟩ (by simpa using hplace)
    exact Containers.guard_eq_ok.1 hguard
  | none =>
    obtain ⟨id, kind⟩ := p
    cases kind with
    | admin =>
      refine .call (hread _ _ trivial) fun _ xs hxs x hx => .own (.before ?_ trivial)
      cases hxs
      exact hx
    | member own role =>
      refine .call (hread _ _ trivial) fun m xs hxs x hx => ?_
      cases hxs
      obtain ⟨hx, hown⟩ := List.mem_filter.1 hx
      exact .own (.before hx (by simpa [Principal.Owns] using hown))
    | customer => exact .done (by simp)

theorem Users.profile_conforms :
    Conforms Memory.handle allowed (fun seen q => p.Granted seen (.profile q)) seen
      (Users.profile p) := by
  refine Conforms.ite (fun _ => .fail) fun hp => .call (hread _ _ trivial) fun m q hq => ?_
  refine .before (find_eq_ok hq).1 ?_
  obtain ⟨id, kind⟩ := p
  cases kind with
  | customer => simpa [Principal.Owns] using (find_eq_ok hq).2
  | admin | member => exact absurd rfl hp

theorem administers_conforms :
    Conforms Memory.handle allowed (fun seen b => b = true → p.Administers seen) seen
      (Authorization.administers p) := by
  obtain ⟨id, kind⟩ := p
  cases kind with
  | admin => exact .done fun _ => trivial
  | member own role =>
    refine Conforms.bind_call (hread _ _ trivial) fun m r hr => .done fun hadmin => ?_
    exact ⟨r, .before (find_eq_ok hr).1, by simpa using (find_eq_ok hr).2, hadmin⟩
  | customer => exact .done nofun

theorem requireContainer_conforms (id own : Id) :
    Conforms Memory.handle allowed
      (fun seen _ => ∃ c, Stored seen (.container c) ∧ c.id = id ∧ c.organizationId = some own) seen
      (Pallets.requireContainer id own) := by
  refine ⟨hread _ _ trivial, fun m => ?_⟩
  cases hc : (Memory.handle (.containers (.byId id)) m).1 with
  | ok c =>
    refine Conforms.ite (fun hown => .done ⟨c, ?_, ?_, hown⟩) fun _ => .fail
    · exact .before (find_eq_ok hc).1
    · simpa using (find_eq_ok hc).2
  | error e => cases e <;> exact .fail

theorem findUserByCredentials_conforms (c : Credentials) :
    Conforms Memory.handle allowed (fun seen u => Stored seen (.user u)) seen
      (Accounts.findUser c) := by
  unfold Accounts.findUser
  split
  · exact .call (hread _ _ trivial) fun _ u hu => .before (find_eq_ok hu).1
  · split
    · exact .call (hread _ _ trivial) fun _ u hu => .before (find_eq_ok hu).1
    · exact .fail

theorem login_conforms (s : Accounts.Settings) (now : Int) (door : Accounts.Door)
    (c : Credentials) :
    Conforms Memory.handle allowed
      (fun seen t => ∃ u, Stored seen (.user u) ∧ u.principal = .ok t.principal) seen
      (Accounts.login s now door c) := by
  refine (findUserByCredentials_conforms hread c).bind fun seen' u _ hu => ?_
  refine Conforms.ite (fun _ => .fail) fun _ => ?_
  refine Conforms.bind_ofExcept fun _ _ => Conforms.bind_ofExcept fun q hq => ?_
  exact Conforms.bind_ofExcept fun _ _ => .done ⟨u, hu, hq⟩

end Depot.Operation
