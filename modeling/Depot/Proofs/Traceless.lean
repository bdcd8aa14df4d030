import Depot.Proofs.Effects

namespace Depot.Store

namespace Memory

variable {m : Memory} {e : Error}

theorem insertUser_eq_of_error {account : NewAccount} {kind : Kind} :
    (m.insertUser account kind).1 = .error e → (m.insertUser account kind).2 = m := by
  unfold insertUser
  split
  · exact fun _ => rfl
  · exact nofun

theorem insertCustomer_eq_of_error {account : NewAccount} :
    (m.insertCustomer account).1 = .error e → (m.insertCustomer account).2 = m := by
  unfold insertCustomer
  split
  · rename_i e' m' hinsert
    have hm := insertUser_eq_of_error (congrArg Prod.fst hinsert)
    rw [hinsert] at hm
    exact fun _ => hm
  · exact nofun

theorem register_eq_of_error {organization : NewOrganization} {owner : NewAccount} :
    (m.register organization owner).1 = .error e → (m.register organization owner).2 = m := by
  unfold register
  split
  · exact fun _ => rfl
  · exact nofun

theorem updateUser_eq_of_error {user : User} :
    (m.updateUser user).1 = .error e → (m.updateUser user).2 = m := by
  unfold updateUser
  split
  · exact fun _ => rfl
  split
  · exact fun _ => rfl
  dsimp only
  split
  · exact fun _ => rfl
  · exact nofun

theorem handle_eq_of_error {c : Call} (hc : ¬ c.IsRead) :
    (Memory.handle c m).1 = .error e → (Memory.handle c m).2 = m := by
  cases c with
  | organizations c =>
    cases c with
    | register organization owner => exact register_eq_of_error
    | update | delete =>
      dsimp only [handle, organizationCall]
      split
      · exact fun _ => rfl
      · intro h
        cases h
    | _ => exact absurd trivial hc
  | roles c =>
    cases c with
    | insert role =>
      intro h
      cases h
    | update | delete =>
      dsimp only [handle, roleCall]
      split
      · exact fun _ => rfl
      · intro h
        cases h
    | _ => exact absurd trivial hc
  | users c =>
    cases c with
    | insert user => exact insertUser_eq_of_error
    | insertCustomer account => exact insertCustomer_eq_of_error
    | update user => exact updateUser_eq_of_error
    | updatePassword | delete =>
      dsimp only [handle, userCall]
      split
      · exact fun _ => rfl
      · intro h
        cases h
    | _ => exact absurd trivial hc
  | profiles c => exact absurd trivial hc
  | containers c =>
    cases c with
    | insert container =>
      intro h
      cases h
    | update | delete =>
      dsimp only [handle, containerCall]
      split
      · exact fun _ => rfl
      · intro h
        cases h
    | _ => exact absurd trivial hc
  | pallets c =>
    cases c with
    | insert pallet =>
      intro h
      cases h
    | update | delete =>
      dsimp only [handle, palletCall]
      split
      · exact fun _ => rfl
      · intro h
        cases h
    | _ => exact absurd trivial hc

end Memory

namespace Site

variable {σ : Site} {c : Call}

theorem handle_cases (c : Call) (σ : Site) :
    Site.handle c σ = (.error (.database .unavailable), σ) ∨
      Site.handle c σ =
        ((Memory.handle c σ.memory).1, { σ with memory := (Memory.handle c σ.memory).2 }) := by
  unfold Site.handle
  split
  · exact .inl rfl
  · exact .inr rfl

theorem handle_lookup (hc : c.IsLookup) : (Site.handle c σ).2 = σ := by
  obtain h | h := handle_cases c σ
  · rw [h]
  · rw [h, hc.handle_eq]

theorem handle_eq_of_error {e : Error} (hc : ¬ c.IsRead) (he : (Site.handle c σ).1 = .error e) :
    (Site.handle c σ).2 = σ := by
  obtain h | h := handle_cases c σ
  · rw [h]
  · rw [h] at he ⊢
    rw [Memory.handle_eq_of_error hc he]

end Site

end Depot.Store

namespace Depot.Program

open Store

variable {α β σ : Type}

/-- The program looks rows up. It may end with a call of another kind and what that one answers, put
into another form. -/
inductive EndsWith (last : Call → Prop) {α : Type} : Program α → Prop
  | done (a : α) : EndsWith last (.done a)
  | fail (e : Error) : EndsWith last (.fail e)
  | look {c : Call} {next : Except Error c.Answer → Program α} (hc : c.IsLookup)
    (hnext : ∀ r, EndsWith last (next r)) : EndsWith last (.ask c next)
  | last {c : Call} (hc : last c) (f : c.Answer → α) :
    EndsWith last (.ask c fun r => ofExcept (r.map f))

/-- The program does nothing but look rows up, whatever it is answered. -/
abbrev Looks (p : Program α) : Prop := EndsWith (fun _ => False) p

namespace EndsWith

variable {last : Call → Prop} {p : Program α} {f : α → Program β} {c : Call} {handle : Handler σ}

theorem ofExcept (r : Except Error α) : EndsWith last (.ofExcept r) := by
  cases r with
  | ok a => exact .done a
  | error e => exact .fail e

theorem lookup (hc : c.IsLookup) : EndsWith last (call c) := .look hc ofExcept

theorem write (hc : last c) : EndsWith last (call c) := by
  have hcall : call c = .ask c fun r => Program.ofExcept (r.map id) := by
    unfold call
    congr 1
    funext r
    cases r <;> rfl
  rw [hcall]
  exact .last hc id

theorem ite {b : Prop} [Decidable b] {q : Program α} (hp : EndsWith last p) (hq : EndsWith last q) :
    EndsWith last (if b then p else q) := by
  split
  · exact hp
  · exact hq

theorem bind (hp : Looks p) (hf : ∀ a, EndsWith last (f a)) : EndsWith last (p.bind f) := by
  induction hp with
  | done a => exact hf a
  | fail e => exact .fail e
  | look hc _ ih => exact .look hc fun r => ih r
  | last hc f => exact hc.elim

theorem bind_ofExcept {r : Except Error α} (hf : ∀ a, EndsWith last (f a)) :
    EndsWith last ((Program.ofExcept r).bind f) :=
  .bind (ofExcept r) hf

theorem bind_call {f : c.Answer → Program β} (hc : c.IsLookup) (hf : ∀ a, EndsWith last (f a)) :
    EndsWith last ((call c).bind f) :=
  .bind (lookup hc) hf

theorem guarded {visible : c.Answer → Except Error β} (hc : c.IsLookup) :
    EndsWith last ((call c).bind fun a => Program.ofExcept (visible a)) :=
  .bind_call hc fun _ => ofExcept _

theorem map (hp : EndsWith last p) (g : α → β) : EndsWith last (p.bind fun a => .done (g a)) := by
  induction hp with
  | done a => exact .done (g a)
  | fail e => exact .fail e
  | look hc _ ih => exact .look hc fun r => ih r
  | @last c hc f =>
    have hnext : (fun r => (Program.ofExcept (Except.map f r)).bind fun a => .done (g a)) =
        fun r : Except Error c.Answer => Program.ofExcept (r.map fun x => g (f x)) := by
      funext r
      cases r <;> rfl
    rw [ask_bind, hnext]
    exact .last hc _

theorem run_of_error (hlook : ∀ c s, c.IsLookup → (handle c s).2 = s)
    (hlast : ∀ c s e, last c → (handle c s).1 = .error e → (handle c s).2 = s)
    (hp : EndsWith last p) {s : σ} {e : Error} (h : (p.run handle s).1 = .error e) :
    (p.run handle s).2 = s := by
  induction hp generalizing s with
  | done a => rfl
  | fail e => rfl
  | @look c next hc _ ih =>
    rw [run_ask, hlook c s hc] at h ⊢
    exact ih _ h
  | @last c hc f =>
    rw [run_ask, run_ofExcept] at h ⊢
    cases hr : (handle c s).1 with
    | ok a =>
      rw [hr] at h
      cases h
    | error e' => exact hlast c s e' hc hr

end EndsWith

end Depot.Program

namespace Depot.Operation

open Program Store

variable {p : Principal} {last : Call → Prop}

section Looking

theorem Organizations.get_looks (id : Id) : EndsWith last (Organizations.get p id) :=
  .guarded trivial

theorem Roles.get_looks (id : Id) : EndsWith last (Roles.get p id) := .guarded trivial

theorem Users.get_looks (id : Id) : EndsWith last (Users.get p id) := .guarded trivial

theorem Containers.get_looks (id : Id) : EndsWith last (Containers.get p id) := .guarded trivial

theorem Pallets.get_looks (id : Id) : EndsWith last (Pallets.get p id) := .guarded trivial

theorem findOrganization_looks (finder : Finder) : EndsWith last (findOrganization p finder) := by
  cases finder with
  | id id => exact Organizations.get_looks id
  | code code => exact .guarded trivial
  | uid | email | phone | missing => exact .fail _

theorem findRole_looks (finder : Finder) : EndsWith last (findRole p finder) := by
  cases finder with
  | id id => exact Roles.get_looks id
  | code code => exact .guarded trivial
  | uid | email | phone | missing => exact .fail _

theorem findUser_looks (finder : Finder) : EndsWith last (findUser p finder) := by
  cases finder with
  | id id => exact Users.get_looks id
  | email | phone => exact .guarded trivial
  | code | uid | missing => exact .fail _

theorem findContainer_looks (finder : Finder) : EndsWith last (findContainer p finder) := by
  cases finder with
  | id id => exact Containers.get_looks id
  | uid | code => exact .guarded trivial
  | email | phone | missing => exact .fail _

theorem findPallet_looks (finder : Finder) : EndsWith last (findPallet p finder) := by
  cases finder with
  | id id => exact Pallets.get_looks id
  | uid | code => exact .guarded trivial
  | email | phone | missing => exact .fail _

theorem Organizations.list_looks : EndsWith last (Organizations.list p) := by
  obtain ⟨id, kind⟩ := p
  cases kind with
  | admin => exact .lookup trivial
  | member own role => exact .bind_call trivial fun o => .done [o]
  | customer => exact .done []

theorem Roles.list_looks (organization : Option Id) :
    EndsWith last (Roles.list p organization) := by
  obtain ⟨id, kind⟩ := p
  cases kind with
  | admin => cases organization <;> exact .lookup trivial
  | member own role => exact .lookup trivial
  | customer => exact .fail _

theorem Users.list_looks (filter : UserFilter) (organization : Option Id) :
    EndsWith last (Users.list p filter organization) := by
  obtain ⟨id, kind⟩ := p
  cases kind with
  | admin => cases organization <;> exact .lookup trivial
  | member own role => exact .lookup trivial
  | customer => exact .fail _

theorem Containers.list_looks : EndsWith last (Containers.list p) := by
  obtain ⟨id, kind⟩ := p
  cases kind with
  | admin | member => exact .lookup trivial
  | customer => exact .done []

theorem Pallets.list_looks (container : Option Id) : EndsWith last (Pallets.list p container) := by
  cases container with
  | some id => exact .bind_call trivial fun _ => .bind_ofExcept fun _ => .lookup trivial
  | none =>
    obtain ⟨id, kind⟩ := p
    cases kind with
    | admin | member => exact .lookup trivial
    | customer => exact .done []

theorem Users.profile_looks : EndsWith last (Users.profile p) := .ite (.fail _) (.lookup trivial)

theorem administers_looks : EndsWith last (Authorization.administers p) := by
  obtain ⟨id, kind⟩ := p
  cases kind with
  | admin => exact .done true
  | member own role => exact .bind_call trivial fun r => .done r.isOrgAdmin
  | customer => exact .done false

theorem requireContainer_looks (id own : Id) :
    EndsWith last (Pallets.requireContainer id own) := by
  refine .look trivial fun r => ?_
  cases r with
  | ok c => exact .ite (.done ()) (.fail _)
  | error e => cases e <;> exact .fail _

theorem login_looks (s : Accounts.Settings) (now : Int) (door : Accounts.Door) (c : Credentials) :
    EndsWith last (Accounts.login s now door c) := by
  have hfind : Looks (Accounts.findUser c) := by
    unfold Accounts.findUser
    split
    · exact .lookup trivial
    · split
      · exact .lookup trivial
      · exact .fail _
  refine .bind hfind fun u => .ite (.fail _) (.bind_ofExcept fun _ => ?_)
  exact .bind_ofExcept fun _ => .bind_ofExcept fun _ => .done _

end Looking

abbrev WritesLast {α : Type} (q : Program α) : Prop := EndsWith (fun c => ¬ c.IsRead) q

theorem Organizations.update_last (id : Id) (name : String) (website : Option String) :
    WritesLast (Organizations.update p id name website) :=
  .ite (.fail _) (.bind (get_looks id) fun _ => .write not_false)

theorem Organizations.setArchived_last (id : Id) (archived : Bool) :
    WritesLast (Organizations.setArchived p id archived) :=
  .bind (get_looks id) fun _ => .ite (.fail _) (.write not_false)

theorem guard_last {α : Type} {b : Prop} [Decidable b] {q : Program α} (hq : WritesLast q) :
    WritesLast (if b then (Authorization.administers p).bind fun administers =>
      if !administers then .fail .notPermitted else q else q) :=
  .ite (.bind administers_looks fun _ => .ite (.fail _) hq) hq

theorem Roles.create_last (c : Roles.Creation) : WritesLast (Roles.create p c) := by
  refine .ite (.fail _) (.ite (.fail _) (.bind_ofExcept fun own => ?_))
  exact .ite (.bind_call trivial fun _ => guard_last (.write not_false))
    (guard_last (.write not_false))

theorem Roles.update_last (c : Roles.Change) : WritesLast (Roles.update p c) :=
  .ite (.fail _) (.ite (.fail _) (.bind (get_looks c.id) fun _ => .write not_false))

theorem Users.update_last (id : Id) (c : Users.Change) : WritesLast (Users.update p id c) :=
  .bind (get_looks id) fun _ => .write not_false

theorem Containers.create_last (c : Containers.Creation) : WritesLast (Containers.create p c) :=
  .bind_ofExcept fun _ => .write not_false

theorem Containers.update_last (id : Id) (description : Option String) :
    WritesLast (Containers.update p id description) :=
  .bind (get_looks id) fun _ => .write not_false

theorem Containers.setArchived_last (id : Id) (archived : Bool) :
    WritesLast (Containers.setArchived p id archived) :=
  .bind (get_looks id) fun _ => .ite (.fail _) (.write not_false)

theorem Pallets.create_last (c : Pallets.Creation) : WritesLast (Pallets.create p c) := by
  refine .bind_ofExcept fun own => ?_
  dsimp only
  split
  · exact .bind (requireContainer_looks _ own) fun _ => .write not_false
  · exact .write not_false

theorem Pallets.update_last (c : Pallets.Change) : WritesLast (Pallets.update p c) := by
  refine .bind (get_looks c.id) fun x => .ite ?_ (.write not_false)
  split
  · exact .bind (requireContainer_looks _ _) fun _ => .write not_false
  · exact .write not_false

theorem Pallets.setArchived_last (id : Id) (archived : Bool) :
    WritesLast (Pallets.setArchived p id archived) :=
  .bind (get_looks id) fun _ => .ite (.fail _) (.write not_false)

variable (s : Accounts.Settings)

theorem Accounts.changePassword_last (old new : String) :
    WritesLast (Accounts.changePassword s p old new) := by
  refine .bind_call trivial fun _ => .bind_ofExcept fun _ => .ite (.fail _) (.ite (.fail _) ?_)
  exact .bind_ofExcept fun _ => .write not_false

theorem Accounts.registerAdmin_last (r : Registration) :
    WritesLast (Accounts.registerAdmin s r) :=
  .bind_ofExcept fun _ => .write not_false

theorem Accounts.registerMember_last (r : MemberRegistration) :
    WritesLast (Accounts.registerMember s p r) := by
  refine .bind_ofExcept fun own => .bind_call trivial fun _ => .bind_call trivial fun role => ?_
  exact .ite (.fail _) (guard_last (.bind_ofExcept fun _ => .write not_false))

theorem Accounts.seedAdmin_last (email phone password : String) :
    WritesLast (Accounts.seedAdmin s email phone password) := by
  refine .look trivial fun r => ?_
  split
  · exact .done none
  · exact (registerAdmin_last s _).map _
  · exact .fail _

theorem Job.perform_last (j : Job) : WritesLast (j.perform s p) := by
  cases j with
  | organizations => exact Organizations.list_looks.map _
  | organization finder => exact (findOrganization_looks finder).map _
  | roles o => exact (Roles.list_looks o).map _
  | role finder => exact (findRole_looks finder).map _
  | users filter o => exact (Users.list_looks filter o).map _
  | user finder => exact (findUser_looks finder).map _
  | me =>
    refine EndsWith.map ?_ _
    exact .lookup trivial
  | profile => exact Users.profile_looks.map _
  | containers => exact Containers.list_looks.map _
  | container finder => exact (findContainer_looks finder).map _
  | pallets c => exact (Pallets.list_looks c).map _
  | pallet finder => exact (findPallet_looks finder).map _
  | organizationUpdate id name website => exact (Organizations.update_last id name website).map _
  | organizationArchive id archived => exact (Organizations.setArchived_last id archived).map _
  | roleCreate c => exact (Roles.create_last c).map _
  | roleUpdate c => exact (Roles.update_last c).map _
  | userUpdate id c => exact (Users.update_last id c).map _
  | containerCreate c => exact (Containers.create_last c).map _
  | containerUpdate id description => exact (Containers.update_last id description).map _
  | containerArchive id archived => exact (Containers.setArchived_last id archived).map _
  | palletCreate c => exact (Pallets.create_last c).map _
  | palletUpdate c => exact (Pallets.update_last c).map _
  | palletArchive id archived => exact (Pallets.setArchived_last id archived).map _
  | changePassword old new => exact (Accounts.changePassword_last s old new).map _
  | organizationDelete | roleDelete | userDelete | containerDelete | palletDelete =>
    refine EndsWith.map ?_ _
    exact .bind_ofExcept fun _ => .write not_false

theorem Act.perform_last (a : Act) : WritesLast (a.perform s) := by
  cases a with
  | seedAdmin email phone password => exact (Accounts.seedAdmin_last s email phone password).map _
  | registerAdmin r => exact (Accounts.registerAdmin_last s r).map _
  | registerCustomer r | registerOrganization r =>
    refine EndsWith.map ?_ _
    exact .bind_ofExcept fun _ => .write not_false
  | registerMember p r => exact (Accounts.registerMember_last s r).map _
  | login now door c => exact (login_looks s now door c).map _
  | job p j => exact (Job.perform_last s j).map _

theorem Act.event_writes (a : Act) (m : Memory) :
    (a.event s m).after = m ∨
      ∃ c, ∃ seen ⊆ [m], ¬ c.IsRead ∧ Act.Licensed s seen a c ∧ ∃ x : c.Answer, ∃ reply : Reply,
        (Memory.handle c m).1 = .ok x ∧ reply.rows = c.rows x ∧
          (a.event s m).outcome = .ok reply ∧ (a.event s m).after = (Memory.handle c m).2 := by
  obtain ⟨e, -, hafter⟩ | ⟨reply, -, -, hafter⟩ |
    ⟨c, seen, hseen, hread, hc, f, hf, houtcome, hafter⟩ := a.event_cases s m
  · exact .inl hafter
  · exact .inl hafter
  · cases hx : (Memory.handle c m).1 with
    | error e => exact .inl (hafter.trans (Memory.handle_eq_of_error hread hx))
    | ok x =>
      rw [hx] at houtcome
      exact .inr ⟨c, seen, hseen, hread, hc, x, f x, hx, hf x, houtcome, hafter⟩

/-- Whoever asks for what, and whichever tables cannot be reached: what ends in an error has changed
nothing. -/
theorem failed_acts_leave_no_trace (a : Act) (σ : Site) {e : Error}
    (h : ((a.perform s).run Site.handle σ).1 = .error e) :
    ((a.perform s).run Site.handle σ).2 = σ :=
  (Act.perform_last s a).run_of_error (fun _ _ => Site.handle_lookup)
    (fun _ _ _ => Site.handle_eq_of_error) h

/-- The organization of a new member is found before it turns out that no role can be looked up; an
organization whose owner brings a phone that is taken gets no number. -/
theorem failures_on_the_way_leave_no_trace :
    ∃ (s : Accounts.Settings) (member organization : Act) (σ : Site),
      σ.memory.organizations.sequence = 1 ∧ σ.memory.users.sequence = 1 ∧
        ((member.perform s).run Site.handle σ).1 = .error (.database .unavailable) ∧
        ((member.perform s).run Site.handle σ).2 = σ ∧
        ((organization.perform s).run Site.handle σ).1 = .error .phoneTaken ∧
        ((organization.perform s).run Site.handle σ).2 = σ := by
  let s : Accounts.Settings := ⟨"k", 60, 4⟩
  let founding : Act :=
    .registerOrganization ⟨"Acme", none, ⟨"Ada", "A", "ada@x.org", "1", "secret"⟩⟩
  let σ : Site := ⟨((founding.perform s).run Memory.handle (Memory.empty ⟨0⟩)).2, [.roles]⟩
  let member : Act :=
    .registerMember ⟨9, .admin⟩ ⟨⟨"Bob", "B", "bob@x.org", "2", "secret"⟩, some 1, 1⟩
  let organization : Act :=
    .registerOrganization ⟨"Beta", none, ⟨"Eve", "E", "eve@x.org", "1", "secret"⟩⟩
  have hmember : ((member.perform s).run Site.handle σ).1 = .error (.database .unavailable) := by
    decide +kernel
  have horganization : ((organization.perform s).run Site.handle σ).1 = .error .phoneTaken := by
    decide +kernel
  refine ⟨s, member, organization, σ, ?_, ?_,
    hmember, failed_acts_leave_no_trace s member σ hmember,
    horganization, failed_acts_leave_no_trace s organization σ horganization⟩
  · decide +kernel
  · decide +kernel

end Depot.Operation
