import Depot.Proofs.Run

namespace Depot.Store

open Operation

theorem Call.IsLookup.handle_eq {c : Call} (h : c.IsLookup) (m : Memory) :
    (Memory.handle c m).2 = m := by
  cases c with
  | organizations c | roles c | users c | profiles c | containers c | pallets c =>
    cases c
    all_goals first
      | rfl
      | exact h.elim

def Call.rows : (c : Call) → c.Answer → List Row
  | .organizations (.register _ _), (o, r, u) => [.organization o, .role r, .user u]
  | .organizations (.update _), o => [.organization o]
  | .roles (.insert _), r => [.role r]
  | .roles (.update _), r => [.role r]
  | .users (.insert _), u => [.user u]
  | .users (.insertCustomer _), (u, q) => [.user u, .profile q]
  | .users (.update _), u => [.user u]
  | .containers (.insert _), c => [.container c]
  | .containers (.update _), c => [.container c]
  | .pallets (.insert _), x => [.pallet x]
  | .pallets (.update _), x => [.pallet x]
  | _, _ => []

end Depot.Store

namespace Depot.Program

open Operation Store

variable {α β : Type}

/-- After some lookups the program gives up, answers what it may answer without a write, or makes one
write, of which it shows the rows. -/
def Decisive (idle : α → Prop) (shown : α → List Row) : Program α → Prop
  | .done a => idle a
  | .fail _ => True
  | .ask c next =>
    (c.IsLookup ∧ ∀ m, Decisive idle shown (next (Memory.handle c m).1)) ∨
      ¬ c.IsRead ∧ ∃ f : c.Answer → α,
        (next = fun r => ofExcept (r.map f)) ∧ ∀ x, shown (f x) = c.rows x

namespace Decisive

variable {idle : α → Prop} {shown : α → List Row} {idle' : β → Prop} {shown' : β → List Row}
variable {allowed : List Memory → Call → Prop} {post : List Memory → α → Prop}
variable {seen : List Memory} {p : Program α} {m : Memory}

theorem done {a : α} (h : idle a) : Decisive idle shown (.done a) := h

theorem fail {e : Error} : Decisive idle shown (.fail e) := trivial

theorem write {c : Call} {shown : c.Answer → List Row} {idle : c.Answer → Prop} (hc : ¬ c.IsRead)
    (hshown : ∀ x, shown x = c.rows x) : Decisive idle shown (call c) := by
  refine .inr ⟨hc, id, ?_, hshown⟩
  funext r
  cases r <;> rfl

theorem ite {c : Prop} [Decidable c] {q : Program α} (hp : Decisive idle shown p)
    (hq : Decisive idle shown q) : Decisive idle shown (if c then p else q) := by
  split
  · exact hp
  · exact hq

theorem bind_ofExcept {r : Except Error α} {f : α → Program β}
    (hf : ∀ a, Decisive idle' shown' (f a)) :
    Decisive idle' shown' ((Program.ofExcept r).bind f) := by
  cases r with
  | ok a => exact hf a
  | error e => exact fail

theorem bind_call {c : Call} {f : c.Answer → Program β} (hc : c.IsLookup)
    (hf : ∀ a, Decisive idle' shown' (f a)) : Decisive idle' shown' ((call c).bind f) :=
  .inl ⟨hc, fun _ => bind_ofExcept hf⟩

theorem bind {f : α → Program β} (hp : Conforms Memory.handle (fun _ c => c.IsLookup) post [] p)
    (hf : ∀ a, Decisive idle' shown' (f a)) : Decisive idle' shown' (p.bind f) := by
  generalize ([] : List Memory) = seen at hp
  induction p generalizing seen with
  | done a => exact hf a
  | fail e => exact fail
  | ask c next ih => exact .inl ⟨hp.1, fun m => ih _ _ (hp.2 m)⟩

theorem map {g : α → β} (h : Decisive idle shown p) (hidle : ∀ a, idle a → idle' (g a))
    (hshown : ∀ a, shown' (g a) = shown a) :
    Decisive idle' shown' (p.bind fun a => .done (g a)) := by
  induction p with
  | done a => exact hidle a h
  | fail e => exact fail
  | ask c next ih =>
    obtain ⟨hc, hnext⟩ | ⟨hc, f, rfl, hf⟩ := h
    · exact .inl ⟨hc, fun m => ih _ (hnext m)⟩
    · refine .inr ⟨hc, fun x => g (f x), ?_, fun x => (hshown _).trans (hf x)⟩
      funext r
      cases r <;> rfl

theorem run (h : Decisive idle shown p) (hp : Conforms Memory.handle allowed post seen p)
    (hseen : seen ⊆ [m]) :
    (∃ e, p.run Memory.handle m = (.error e, m)) ∨
      (∃ a, idle a ∧ p.run Memory.handle m = (.ok a, m)) ∨
      ∃ c, ∃ seen' ⊆ [m], ¬ c.IsRead ∧ allowed seen' c ∧ ∃ f : c.Answer → α,
        (∀ x, shown (f x) = c.rows x) ∧
          p.run Memory.handle m = ((Memory.handle c m).1.map f, (Memory.handle c m).2) := by
  induction p generalizing seen with
  | done a => exact .inr (.inl ⟨a, h, rfl⟩)
  | fail e => exact .inl ⟨e, rfl⟩
  | ask c next ih =>
    obtain ⟨hc, hnext⟩ | ⟨hc, f, rfl, hf⟩ := h
    · have hm : (Memory.handle c m).2 = m := hc.handle_eq m
      have hseen' : (Memory.handle c m).2 :: m :: seen ⊆ [m] := by
        rw [hm]
        simpa using hseen
      rw [run_ask, hm]
      exact ih _ (hnext m) (hp.2 m) hseen'
    · refine .inr (.inr ⟨c, seen, hseen, hc, hp.1, f, hf, ?_⟩)
      rw [run_ask, run_ofExcept]

end Decisive

end Depot.Program

namespace Depot.Operation

open Program Store

variable {p : Principal}

theorem looks (_ : List Memory) (c : Call) (h : c.IsLookup) : c.IsLookup := h

/-- What ends with a write, unless it fails, and shows the row that was written. -/
abbrev Writes {α : Type} (row : α → Row) (q : Program α) : Prop :=
  Decisive (fun _ => False) (fun a => [row a]) q

/-- What ends with a write, unless it fails, and shows nothing. -/
abbrev Removes (q : Program Unit) : Prop := Decisive (fun _ => False) (fun _ => []) q

theorem Organizations.update_writes (id : Id) (name : String) (website : Option String) :
    Writes .organization (Organizations.update p id name website) := by
  refine .ite .fail ?_
  exact .bind (get_conforms looks id) fun _ => .write not_false fun _ => rfl

theorem Organizations.setArchived_writes (id : Id) (archived : Bool) :
    Writes .organization (Organizations.setArchived p id archived) := by
  refine .bind (get_conforms looks id) fun o => ?_
  exact .ite .fail (.write not_false fun _ => rfl)

theorem Roles.create_writes (c : Roles.Creation) : Writes .role (Roles.create p c) := by
  refine .ite .fail (.ite .fail (.bind_ofExcept fun own => ?_))
  have insert : Writes .role (call (.roles (.insert ⟨Text.trim c.name,
      if c.isOrgAdmin then [] else Permission.known c.permissions, c.isOrgAdmin, own⟩))) :=
    .write not_false fun _ => rfl
  have rest : Writes .role (if c.isOrgAdmin then
      (Authorization.administers p).bind fun administers =>
        if !administers then .fail .notPermitted else call (.roles (.insert ⟨Text.trim c.name,
          if c.isOrgAdmin then [] else Permission.known c.permissions, c.isOrgAdmin, own⟩))
      else call (.roles (.insert ⟨Text.trim c.name,
        if c.isOrgAdmin then [] else Permission.known c.permissions, c.isOrgAdmin, own⟩))) :=
    .ite (.bind (administers_conforms looks) fun _ => .ite .fail insert) insert
  exact .ite (.bind_call trivial fun _ => rest) rest

theorem Roles.update_writes (c : Roles.Change) : Writes .role (Roles.update p c) := by
  refine .ite .fail (.ite .fail ?_)
  exact .bind (get_conforms looks c.id) fun _ => .write not_false fun _ => rfl

theorem Users.update_writes (id : Id) (c : Users.Change) : Writes .user (Users.update p id c) :=
  .bind (get_conforms looks id) fun _ => .write not_false fun _ => rfl

theorem Containers.create_writes (c : Containers.Creation) :
    Writes .container (Containers.create p c) :=
  .bind_ofExcept fun _ => .write not_false fun _ => rfl

theorem Containers.update_writes (id : Id) (description : Option String) :
    Writes .container (Containers.update p id description) :=
  .bind (get_conforms looks id) fun _ => .write not_false fun _ => rfl

theorem Containers.setArchived_writes (id : Id) (archived : Bool) :
    Writes .container (Containers.setArchived p id archived) := by
  refine .bind (get_conforms looks id) fun c => ?_
  exact .ite .fail (.write not_false fun _ => rfl)

theorem Pallets.create_writes (c : Pallets.Creation) : Writes .pallet (Pallets.create p c) := by
  refine .bind_ofExcept fun own => ?_
  have insert : Writes .pallet
      (call (.pallets (.insert ⟨c.description, own, c.containerId, p.id⟩))) :=
    .write not_false fun _ => rfl
  split
  · exact .bind (requireContainer_conforms looks _ own) fun _ => insert
  · exact insert

theorem Pallets.update_writes (c : Pallets.Change) : Writes .pallet (Pallets.update p c) := by
  refine .bind (get_conforms looks c.id) fun x => ?_
  have write : Writes .pallet (call (.pallets (.update
      { x with description := c.description, containerId := c.containerId }))) :=
    .write not_false fun _ => rfl
  refine .ite ?_ write
  split
  · exact .bind (requireContainer_conforms looks _ _) fun _ => write
  · exact write

theorem Pallets.setArchived_writes (id : Id) (archived : Bool) :
    Writes .pallet (Pallets.setArchived p id archived) := by
  refine .bind (get_conforms looks id) fun x => ?_
  exact .ite .fail (.write not_false fun _ => rfl)

theorem Accounts.changePassword_removes (s : Accounts.Settings) (old new : String) :
    Removes (Accounts.changePassword s p old new) := by
  refine .bind_call trivial fun _ => .bind_ofExcept fun _ => .ite .fail (.ite .fail ?_)
  exact .bind_ofExcept fun _ => .write not_false fun _ => rfl

def Job.IsQuery : Job → Prop
  | .organizations | .organization _ | .roles _ | .role _ | .users .. | .user _ | .me | .profile
  | .containers | .container _ | .pallets _ | .pallet _ => True
  | _ => False

variable (s : Accounts.Settings)

theorem Job.perform_decisive (j : Job) :
    Decisive (fun _ => j.IsQuery) Value.rows (j.perform s p) := by
  have query {α : Type} {g : α → Value} {q : Program α} {post : List Memory → α → Prop}
      (hq : Conforms Memory.handle (fun _ c => c.IsLookup) post [] q) (hj : j.IsQuery) :
      Decisive (fun _ => j.IsQuery) Value.rows (q.bind fun a => .done (g a)) :=
    .bind hq fun _ => .done hj
  have written {α : Type} {row : α → Row} {q : Program α} (hq : Writes row q) :
      Decisive (fun _ => j.IsQuery) Value.rows (q.bind fun a => .done (.row (row a))) :=
    hq.map (fun _ h => h.elim) fun _ => rfl
  have removed {q : Program Unit} (hq : Removes q) :
      Decisive (fun _ => j.IsQuery) Value.rows (q.bind fun _ => .done .done) :=
    hq.map (fun _ h => h.elim) fun _ => rfl
  cases j with
  | organizations => exact query (Organizations.list_conforms looks) trivial
  | organization finder => exact query (findOrganization_conforms looks finder) trivial
  | roles o => exact query (Roles.list_conforms looks o) trivial
  | role finder => exact query (findRole_conforms looks finder) trivial
  | users filter o => exact query (Users.list_conforms looks filter o) trivial
  | user finder => exact query (findUser_conforms looks finder) trivial
  | me => exact .bind_call trivial fun _ => .done trivial
  | profile => exact query (Users.profile_conforms looks) trivial
  | containers => exact query (Containers.list_conforms looks) trivial
  | container finder => exact query (findContainer_conforms looks finder) trivial
  | pallets c => exact query (Pallets.list_conforms looks c) trivial
  | pallet finder => exact query (findPallet_conforms looks finder) trivial
  | organizationUpdate id name website =>
    exact written (Organizations.update_writes id name website)
  | organizationArchive id archived => exact written (Organizations.setArchived_writes id archived)
  | roleCreate c => exact written (Roles.create_writes c)
  | roleUpdate c => exact written (Roles.update_writes c)
  | userUpdate id c => exact written (Users.update_writes id c)
  | containerCreate c => exact written (Containers.create_writes c)
  | containerUpdate id description => exact written (Containers.update_writes id description)
  | containerArchive id archived => exact written (Containers.setArchived_writes id archived)
  | palletCreate c => exact written (Pallets.create_writes c)
  | palletUpdate c => exact written (Pallets.update_writes c)
  | palletArchive id archived => exact written (Pallets.setArchived_writes id archived)
  | changePassword old new => exact removed (Accounts.changePassword_removes s old new)
  | organizationDelete | roleDelete | userDelete | containerDelete | palletDelete =>
    exact removed (.bind_ofExcept fun _ => .write not_false fun _ => rfl)

theorem Accounts.registerAdmin_writes (r : Registration) :
    Writes .user (Accounts.registerAdmin s r) :=
  .bind_ofExcept fun _ => .write not_false fun _ => rfl

theorem Accounts.registerMember_writes (r : MemberRegistration) :
    Writes .user (Accounts.registerMember s p r) := by
  refine .bind_ofExcept fun own => .bind_call trivial fun _ => .bind_call trivial fun role => ?_
  have insert : Writes .user ((Program.ofExcept (Accounts.account s r.account)).bind fun a =>
      call (.users (.insert ⟨a, .member own role.id⟩))) :=
    .bind_ofExcept fun _ => .write not_false fun _ => rfl
  refine .ite .fail (.ite (.bind (administers_conforms looks) fun b => ?_) insert)
  exact .ite .fail insert

def Act.MayRest : Act → Reply → Prop
  | .login .., _ => True
  | .seedAdmin .., reply => reply.rows = []
  | .job _ j, _ => j.IsQuery
  | _, _ => False

theorem Act.perform_decisive (a : Act) : Decisive a.MayRest Reply.rows (a.perform s) := by
  cases a with
  | seedAdmin email phone password =>
    refine .inl ⟨trivial, fun m => ?_⟩
    dsimp only
    split
    · exact .done rfl
    · have hwrite : Decisive (fun _ => False) (fun u : Option User => (u.map Row.user).toList)
          ((Accounts.registerAdmin s ⟨"Super", "Admin", email, phone, password⟩).bind fun u =>
            .done (some u)) :=
        (Accounts.registerAdmin_writes s _).map (fun _ h => h.elim) fun _ => rfl
      exact hwrite.map (fun _ h => h.elim) fun _ => rfl
    · exact .fail
  | registerAdmin r =>
    exact (Accounts.registerAdmin_writes s r).map (fun _ h => h.elim) fun _ => rfl
  | registerCustomer r =>
    have hwrite : Decisive (fun _ => False) (fun x : User × Profile => [.user x.1, .profile x.2])
        (Accounts.registerCustomer s r) :=
      .bind_ofExcept fun _ => .write not_false fun _ => rfl
    exact hwrite.map (fun _ h => h.elim) fun _ => rfl
  | registerOrganization r =>
    have hwrite : Decisive (fun _ => False)
        (fun x : Organization × Role × User => [.organization x.1, .role x.2.1, .user x.2.2])
        (Accounts.registerOrganization s r) :=
      .bind_ofExcept fun _ => .write not_false fun _ => rfl
    exact hwrite.map (fun _ h => h.elim) fun _ => rfl
  | registerMember p r =>
    exact (Accounts.registerMember_writes s r).map (fun _ h => h.elim) fun _ => rfl
  | login now door c => exact .bind (login_conforms looks s now door c) fun _ => .done trivial
  | job p j => exact (Job.perform_decisive s j).map (fun _ h => h) fun _ => rfl

/-- An act fails and leaves everything as it is, or rests, or makes one write by its license, and its
outcome is that of the write. -/
theorem Act.event_cases (a : Act) (m : Memory) :
    (∃ e, (a.event s m).outcome = .error e ∧ (a.event s m).after = m) ∨
      (∃ reply, a.MayRest reply ∧ (a.event s m).outcome = .ok reply ∧ (a.event s m).after = m) ∨
      ∃ c, ∃ seen ⊆ [m], ¬ c.IsRead ∧ Act.Licensed s seen a c ∧ ∃ f : c.Answer → Reply,
        (∀ x, (f x).rows = c.rows x) ∧ (a.event s m).outcome = (Memory.handle c m).1.map f ∧
          (a.event s m).after = (Memory.handle c m).2 := by
  obtain ⟨e, hrun⟩ | ⟨reply, hrest, hrun⟩ | ⟨c, seen, hseen, hc, hlicense, f, hf, hrun⟩ :=
    (Act.perform_decisive s a).run (m := m) (Act.perform_conforms s a) (List.nil_subset _)
  · exact .inl ⟨e, congrArg Prod.fst hrun, congrArg Prod.snd hrun⟩
  · exact .inr (.inl ⟨reply, hrest, congrArg Prod.fst hrun, congrArg Prod.snd hrun⟩)
  · exact .inr (.inr ⟨c, seen, hseen, hc, hlicense, f, hf, congrArg Prod.fst hrun,
      congrArg Prod.snd hrun⟩)

theorem Act.event_of_ok {a : Act} {m : Memory} {reply : Reply}
    (h : (a.event s m).outcome = .ok reply) :
    (a.MayRest reply ∧ (a.event s m).after = m) ∨
      ∃ c, ∃ seen ⊆ [m], ¬ c.IsRead ∧ Act.Licensed s seen a c ∧ ∃ x : c.Answer,
        (Memory.handle c m).1 = .ok x ∧ reply.rows = c.rows x ∧
          (a.event s m).after = (Memory.handle c m).2 := by
  obtain ⟨e, herror, -⟩ | ⟨reply', hrest, hreply', hafter⟩ |
    ⟨c, seen, hseen, hread, hc, f, hf, houtcome, hafter⟩ := a.event_cases s m
  · rw [h] at herror
    cases herror
  · obtain rfl : reply' = reply := Except.ok.inj (hreply'.symm.trans h)
    exact .inl ⟨hrest, hafter⟩
  · rw [h] at houtcome
    cases hx : (Memory.handle c m).1 with
    | error e =>
      rw [hx] at houtcome
      cases houtcome
    | ok x =>
      rw [hx] at houtcome
      obtain rfl : reply = f x := Except.ok.inj houtcome
      exact .inr ⟨c, seen, hseen, hread, hc, x, hx, hf x, hafter⟩

theorem Run.later {s : Accounts.Settings} {es : List Event} {m : Memory} (h : Run s es m) (a : Act) :
    m.Later (a.event s m).after := by
  obtain ⟨e, -, hafter⟩ | ⟨reply, -, -, hafter⟩ | ⟨c, seen, hseen, -, hc, f, -, -, hafter⟩ :=
    a.event_cases s m
  · rw [hafter]
    exact .refl
  · rw [hafter]
    exact .refl
  · rw [hafter]
    exact (Memory.handle_step c (h.faithful hseen hc)).later

end Depot.Operation
