import Depot.GraphQL.RootField
import Depot.Proofs.Transactions

namespace Depot

def Error.IsInternal (e : Error) : Prop := 500 ≤ e.status

instance (e : Error) : Decidable e.IsInternal := inferInstanceAs (Decidable (500 ≤ e.status))

theorem Error.not_isInternal_notFound (message : String) : ¬ (notFound message).IsInternal := by
  change ¬ 500 ≤ 404
  decide

/-- The database gives no answer: it neither misses a row nor refuses to break a rule. -/
def DatabaseFault.IsOutage : DatabaseFault → Prop
  | .noRow | .refused _ _ => False
  | _ => True

def TellsOutages (blame : DatabaseFault → Error) : Prop :=
  ∀ f : DatabaseFault, f.IsOutage → blame f = .database f

theorem toError_tellsOutages : TellsOutages DatabaseFault.toError := by
  intro f hf
  cases f with
  | noRow | refused => cases hf
  | _ => rfl

theorem toWriteError_tellsOutages : TellsOutages DatabaseFault.toWriteError := by
  intro f hf
  cases f with
  | noRow | refused => cases hf
  | _ => rfl

end Depot

namespace Depot.Sql

open Store

variable {α β σ : Type}

namespace Script

/-- Nothing but this error can come out of the script, which does no more than roll back. -/
inductive Doomed (e : Error) {α : Type} : Script α → Prop
  | fail : Doomed e (.fail e)
  | rollback {next : Except DatabaseFault Reply → Script α} (hnext : ∀ r, Doomed e (next r)) :
    Doomed e (.send .rollback next)

namespace Doomed

variable {e : Error} {p : Script α}

theorem bind (h : Doomed e p) (f : α → Script β) : Doomed e (p.bind f) := by
  induction h with
  | fail => exact .fail
  | rollback _ ih => exact .rollback ih

theorem close (h : Doomed e p) : Doomed e p.close := by
  induction h with
  | fail => exact .rollback fun _ => .fail
  | rollback _ ih => exact .rollback ih

theorem run (h : Doomed e p) (db : Database σ) (s : σ) : (p.run db s).1 = .error e := by
  induction h generalizing s with
  | fail => rfl
  | rollback _ ih => exact ih _ _

end Doomed

/-- The script ends with the first command that is not answered, whatever the command was. A rollback
comes too late to matter. -/
inductive GivesUp {α : Type} : Script α → Prop
  | done (a : α) : GivesUp (.done a)
  | fail (e : Error) : GivesUp (.fail e)
  | send {c : Command} {next : Except DatabaseFault Reply → Script α}
    (hfault : ∀ f : DatabaseFault, f.IsOutage → c ≠ .rollback →
      Doomed (.database f) (next (.error f)))
    (hnext : ∀ r, GivesUp (next r)) : GivesUp (.send c next)

namespace GivesUp

variable {p : Script α} {f : α → Script β} {blame : DatabaseFault → Error} {k : RowKind α}

theorem bind (hp : GivesUp p) (hf : ∀ a, GivesUp (f a)) : GivesUp (p.bind f) := by
  induction hp with
  | done a => exact hf a
  | fail e => exact .fail e
  | send hfault _ ih => exact .send (fun fault h hc => (hfault fault h hc).bind f) ih

theorem abandon (e : Error) : GivesUp (abandon e : Script α) :=
  .send (fun _ _ hc => absurd rfl hc) fun _ => .fail e

theorem close (hp : GivesUp p) : GivesUp p.close := by
  induction hp with
  | done a =>
    refine .send (fun fault h _ => ?_) fun r => ?_
    · rw [← toError_tellsOutages fault h]
      exact .rollback fun _ => .fail
    · cases r with
      | ok r => exact .done a
      | error fault => exact abandon _
  | fail e => exact abandon e
  | send hfault _ ih => exact .send (fun fault h hc => (hfault fault h hc).close) ih

theorem transaction (hp : GivesUp p) : GivesUp (transaction p) := by
  refine .send (fun fault h _ => ?_) fun r => ?_
  · rw [← toError_tellsOutages fault h]
    exact .fail
  · cases r with
    | ok r => exact hp.close
    | error fault => exact .fail _

theorem reply (hblame : TellsOutages blame) (s : Statement) : GivesUp (reply blame s) := by
  refine .send (fun fault h _ => ?_) fun r => ?_
  · rw [← hblame fault h]
    exact .fail
  · cases r with
    | ok r => exact .done r
    | error fault => exact .fail _

theorem lift (r : Except DatabaseFault α) : GivesUp (lift blame r) := by
  cases r with
  | ok a => exact .done a
  | error fault => exact .fail _

theorem first? (hblame : TellsOutages blame) (s : Statement) : GivesUp (first? blame k s) := by
  refine .bind (reply hblame s) fun r => ?_
  split
  · exact .done none
  · exact .bind (lift _) fun a => .done (some a)

theorem first (hblame : TellsOutages blame) (s : Statement) : GivesUp (first blame k s) := by
  refine .bind (first? hblame s) fun found => ?_
  cases found with
  | some a => exact .done a
  | none => exact .fail _

theorem found (hblame : TellsOutages blame) (s : Statement) : GivesUp (found blame k s) := by
  refine .bind (first? hblame s) fun found => ?_
  cases found with
  | some a => exact .done a
  | none => exact .fail _

theorem all (s : Statement) : GivesUp (all k s) :=
  .bind (reply toError_tellsOutages s) fun _ => lift _

theorem touch (hblame : TellsOutages blame) (missing : Error) (s : Statement) :
    GivesUp (touch blame missing s) := by
  refine .bind (reply hblame s) fun r => ?_
  split
  · exact .fail missing
  · exact .done ()

theorem run (h : GivesUp p) {db : Database σ} {s : σ} {c : Command} {fault : DatabaseFault}
    (hx : (c, .error fault) ∈ p.talk db s) (hc : c ≠ .rollback) (hfault : fault.IsOutage) :
    (p.run db s).1 = .error (.database fault) := by
  induction h generalizing s with
  | done | fail => cases hx
  | @send c' next hdoomed _ ih =>
    obtain hx | hx := List.mem_cons.1 hx
    · obtain ⟨rfl, hanswer⟩ := Prod.mk.inj hx
      change ((next (db c s).1).run db _).1 = _
      rw [← hanswer]
      exact (hdoomed fault hfault hc).run db _
    · exact ih _ hx

end GivesUp

end Script

open Script

theorem RowKind.nextId_givesUp (k : RowKind α) : GivesUp k.nextId := .first toError_tellsOutages _

theorem RowKind.insert_givesUp (k : RowKind α) (columns values : String) (params : List Param) :
    GivesUp (k.insert columns values params) :=
  .first toWriteError_tellsOutages _

theorem RowKind.update_givesUp (k : RowKind α) {blame : DatabaseFault → Error}
    (hblame : TellsOutages blame) (assignments : String) (params : List Param) :
    GivesUp (transaction (k.update blame assignments params)) :=
  .transaction (.found hblame _)

theorem RowKind.delete_givesUp (k : RowKind α) (id : Id) : GivesUp (k.delete id) :=
  .transaction (.touch toWriteError_tellsOutages _ _)

theorem RowKind.numbered_givesUp (k : RowKind α) (columns values : String) (params : Id → List Param) :
    GivesUp (transaction (k.nextId.bind fun id => k.insert columns values (params id))) :=
  .transaction (.bind k.nextId_givesUp fun _ => k.insert_givesUp _ _ _)

theorem register_givesUp (o : NewOrganization) (owner : NewAccount) : GivesUp (register o owner) := by
  refine .bind organizations.nextId_givesUp fun _ => .bind (organizations.insert_givesUp _ _ _) fun _ => ?_
  refine .bind roles.nextId_givesUp fun _ => .bind (roles.insert_givesUp _ _ _) fun _ => ?_
  exact .bind (users.insert_givesUp _ _ _) fun _ => .done _

theorem insertCustomer_givesUp (drawn : Nat) (a : NewAccount) : GivesUp (insertCustomer drawn a) := by
  refine .bind (users.insert_givesUp _ _ _) fun _ => ?_
  exact .bind (profiles.insert_givesUp _ _ _) fun _ => .done _

theorem script_givesUp (drawn : Nat) (c : Call) : GivesUp (script drawn c) := by
  cases c with
  | organizations c =>
    cases c with
    | byId | byCode => exact .found toError_tellsOutages _
    | many | list => exact .all _
    | register o owner => exact .transaction (register_givesUp o owner)
    | update => exact organizations.update_givesUp toError_tellsOutages _ _
    | delete id => exact organizations.delete_givesUp id
  | roles c =>
    cases c with
    | byId | byCode => exact .found toError_tellsOutages _
    | many | list | ofOrganization => exact .all _
    | insert r => exact roles.numbered_givesUp _ _ _
    | update => exact roles.update_givesUp toError_tellsOutages _ _
    | delete id => exact roles.delete_givesUp id
  | users c =>
    cases c with
    | byId | byEmail | byPhone => exact .found toError_tellsOutages _
    | many | list | ofOrganization => exact .all _
    | insert u => exact .transaction (users.insert_givesUp _ _ _)
    | insertCustomer a => exact .transaction (insertCustomer_givesUp drawn a)
    | update => exact users.update_givesUp toWriteError_tellsOutages _ _
    | updatePassword => exact .transaction (.touch toError_tellsOutages _ _)
    | delete id => exact users.delete_givesUp id
  | profiles c =>
    cases c with
    | byUser => exact .found toError_tellsOutages _
    | many => exact .all _
  | containers c =>
    cases c with
    | byId | byUid | byCode => exact .found toError_tellsOutages _
    | many | list | ofOrganization => exact .all _
    | insert c => exact containers.numbered_givesUp _ _ _
    | update => exact containers.update_givesUp toError_tellsOutages _ _
    | delete id => exact containers.delete_givesUp id
  | pallets c =>
    cases c with
    | byId | byUid | byCode => exact .found toError_tellsOutages _
    | list | ofOrganization | ofContainer | ofContainers => exact .all _
    | insert x => exact pallets.numbered_givesUp _ _ _
    | update => exact pallets.update_givesUp toWriteError_tellsOutages _ _
    | delete id => exact pallets.delete_givesUp id

end Depot.Sql

namespace Depot.Program

open Store

variable {α β σ : Type}

def refusals (handle : Handler σ) : Program α → σ → List Error
  | .done _, _ | .fail _, _ => []
  | .ask c next, s =>
    let rest := (next (handle c s).1).refusals handle (handle c s).2
    match (handle c s).1 with
    | .ok _ => rest
    | .error e => e :: rest

/-- The program ends with the first call that is answered with a fault of the server, and hands the error
on. -/
inductive GivesUp {α : Type} : Program α → Prop
  | done (a : α) : GivesUp (.done a)
  | fail (e : Error) : GivesUp (.fail e)
  | ask {c : Call} {next : Except Error c.Answer → Program α}
    (hfault : ∀ e : Error, e.IsInternal → next (.error e) = .fail e) (hnext : ∀ r, GivesUp (next r)) :
    GivesUp (.ask c next)

namespace GivesUp

variable {p q : Program α} {f : α → Program β} {c : Call} {handle : Handler σ}

theorem ofExcept (r : Except Error α) : GivesUp (.ofExcept r) := by
  cases r with
  | ok a => exact .done a
  | error e => exact .fail e

theorem call : GivesUp (call c) := .ask (fun _ _ => rfl) ofExcept

theorem ite {b : Prop} [Decidable b] (hp : GivesUp p) (hq : GivesUp q) : GivesUp (if b then p else q) := by
  split
  · exact hp
  · exact hq

theorem bind (hp : GivesUp p) (hf : ∀ a, GivesUp (f a)) : GivesUp (p.bind f) := by
  induction hp with
  | done a => exact hf a
  | fail e => exact .fail e
  | @ask c next hfault _ ih =>
    refine .ask (fun e he => ?_) ih
    rw [hfault e he]
    rfl

theorem map (hp : GivesUp p) (g : α → β) : GivesUp (p.bind fun a => .done (g a)) :=
  .bind hp fun a => .done (g a)

theorem bind_ofExcept {r : Except Error α} (hf : ∀ a, GivesUp (f a)) :
    GivesUp ((Program.ofExcept r).bind f) :=
  .bind (ofExcept r) hf

theorem bind_call {f : c.Answer → Program β} (hf : ∀ a, GivesUp (f a)) :
    GivesUp ((Program.call c).bind f) :=
  .bind call hf

theorem guarded {visible : c.Answer → Except Error β} :
    GivesUp ((Program.call c).bind fun a => Program.ofExcept (visible a)) :=
  .bind_call fun _ => ofExcept _

theorem run (h : GivesUp p) {s : σ} {e : Error} (hmet : e ∈ p.refusals handle s) (he : e.IsInternal) :
    (p.run handle s).1 = .error e := by
  induction h generalizing s with
  | done | fail => cases hmet
  | @ask c next hfault _ ih =>
    rw [run_ask]
    simp only [refusals] at hmet
    cases hr : (handle c s).1 with
    | ok a =>
      rw [hr] at hmet
      exact ih _ hmet
    | error e' =>
      rw [hr] at hmet
      obtain rfl | hmet := List.mem_cons.1 hmet
      · rw [hfault e he]
        rfl
      · exact ih _ hmet

end GivesUp

end Depot.Program

namespace Depot.Operation

open Program Store

variable {p : Principal}

theorem Organizations.list_givesUp : GivesUp (Organizations.list p) := by
  obtain ⟨id, kind⟩ := p
  cases kind with
  | admin => exact .call
  | member own role => exact .map .call fun o => [o]
  | customer => exact .done []

theorem Organizations.get_givesUp (id : Id) : GivesUp (Organizations.get p id) := .guarded

theorem Organizations.update_givesUp (id : Id) (name : String) (website : Option String) :
    GivesUp (Organizations.update p id name website) :=
  .ite (.fail _) (.bind (get_givesUp id) fun _ => .call)

theorem Organizations.setArchived_givesUp (id : Id) (archived : Bool) :
    GivesUp (Organizations.setArchived p id archived) :=
  .bind (get_givesUp id) fun _ => .ite (.fail _) .call

theorem administers_givesUp : GivesUp (Authorization.administers p) := by
  obtain ⟨id, kind⟩ := p
  cases kind with
  | admin => exact .done true
  | member own role => exact .bind_call fun role => .done role.isOrgAdmin
  | customer => exact .done false

theorem guard_givesUp {α : Type} {b : Prop} [Decidable b] {q : Program α} (hq : GivesUp q) :
    GivesUp (if b then (Authorization.administers p).bind fun administers =>
      if !administers then .fail .notPermitted else q else q) :=
  .ite (.bind administers_givesUp fun _ => .ite (.fail _) hq) hq

theorem Roles.list_givesUp (organization : Option Id) : GivesUp (Roles.list p organization) := by
  obtain ⟨id, kind⟩ := p
  cases kind with
  | admin => cases organization <;> exact .call
  | member own role => exact .call
  | customer => exact .fail _

theorem Roles.get_givesUp (id : Id) : GivesUp (Roles.get p id) := .guarded

theorem Roles.create_givesUp (c : Roles.Creation) : GivesUp (Roles.create p c) := by
  refine .ite (.fail _) (.ite (.fail _) (.bind_ofExcept fun own => ?_))
  exact .ite (.bind_call fun _ => guard_givesUp .call) (guard_givesUp .call)

theorem Roles.update_givesUp (c : Roles.Change) : GivesUp (Roles.update p c) :=
  .ite (.fail _) (.ite (.fail _) (.bind (get_givesUp c.id) fun _ => .call))

theorem Users.list_givesUp (filter : UserFilter) (organization : Option Id) :
    GivesUp (Users.list p filter organization) := by
  obtain ⟨id, kind⟩ := p
  cases kind with
  | admin => cases organization <;> exact .call
  | member own role => exact .call
  | customer => exact .fail _

theorem Users.get_givesUp (id : Id) : GivesUp (Users.get p id) := .guarded

theorem Users.profile_givesUp : GivesUp (Users.profile p) := .ite (.fail _) .call

theorem Users.update_givesUp (id : Id) (c : Users.Change) : GivesUp (Users.update p id c) :=
  .bind (get_givesUp id) fun _ => .call

theorem Containers.list_givesUp : GivesUp (Containers.list p) := by
  obtain ⟨id, kind⟩ := p
  cases kind with
  | admin | member => exact .call
  | customer => exact .done []

theorem Containers.get_givesUp (id : Id) : GivesUp (Containers.get p id) := .guarded

theorem Containers.create_givesUp (c : Containers.Creation) : GivesUp (Containers.create p c) :=
  .bind_ofExcept fun _ => .call

theorem Containers.update_givesUp (id : Id) (description : Option String) :
    GivesUp (Containers.update p id description) :=
  .bind (get_givesUp id) fun _ => .call

theorem Containers.setArchived_givesUp (id : Id) (archived : Bool) :
    GivesUp (Containers.setArchived p id archived) :=
  .bind (get_givesUp id) fun _ => .ite (.fail _) .call

theorem Pallets.list_givesUp (container : Option Id) : GivesUp (Pallets.list p container) := by
  cases container with
  | some id => exact .bind_call fun _ => .bind_ofExcept fun _ => .call
  | none =>
    obtain ⟨id, kind⟩ := p
    cases kind with
    | admin | member => exact .call
    | customer => exact .done []

theorem Pallets.get_givesUp (id : Id) : GivesUp (Pallets.get p id) := .guarded

theorem Pallets.requireContainer_givesUp (id own : Id) : GivesUp (Pallets.requireContainer id own) := by
  refine .ask (fun e he => ?_) fun r => ?_
  · cases e with
    | notFound message => exact absurd he (Error.not_isInternal_notFound message)
    | _ => rfl
  · split
    · exact .ite (.done ()) (.fail _)
    · exact .fail _
    · exact .fail _

theorem Pallets.create_givesUp (c : Pallets.Creation) : GivesUp (Pallets.create p c) := by
  refine .bind_ofExcept fun own => ?_
  dsimp only
  split
  · exact .bind (requireContainer_givesUp _ own) fun _ => .call
  · exact .call

theorem Pallets.update_givesUp (c : Pallets.Change) : GivesUp (Pallets.update p c) := by
  refine .bind (get_givesUp c.id) fun x => .ite ?_ .call
  split
  · exact .bind (requireContainer_givesUp _ _) fun _ => .call
  · exact .call

theorem Pallets.setArchived_givesUp (id : Id) (archived : Bool) :
    GivesUp (Pallets.setArchived p id archived) :=
  .bind (get_givesUp id) fun _ => .ite (.fail _) .call

section Finding

theorem findOrganization_givesUp (finder : Finder) : GivesUp (findOrganization p finder) := by
  cases finder with
  | id id => exact Organizations.get_givesUp id
  | code code => exact .guarded
  | uid | email | phone | missing => exact .fail _

theorem findRole_givesUp (finder : Finder) : GivesUp (findRole p finder) := by
  cases finder with
  | id id => exact Roles.get_givesUp id
  | code code => exact .guarded
  | uid | email | phone | missing => exact .fail _

theorem findUser_givesUp (finder : Finder) : GivesUp (findUser p finder) := by
  cases finder with
  | id id => exact Users.get_givesUp id
  | email | phone => exact .guarded
  | code | uid | missing => exact .fail _

theorem findContainer_givesUp (finder : Finder) : GivesUp (findContainer p finder) := by
  cases finder with
  | id id => exact Containers.get_givesUp id
  | uid | code => exact .guarded
  | email | phone | missing => exact .fail _

theorem findPallet_givesUp (finder : Finder) : GivesUp (findPallet p finder) := by
  cases finder with
  | id id => exact Pallets.get_givesUp id
  | uid | code => exact .guarded
  | email | phone | missing => exact .fail _

end Finding

variable (s : Accounts.Settings)

theorem Accounts.login_givesUp (now : Int) (door : Accounts.Door) (c : Credentials) :
    GivesUp (Accounts.login s now door c) := by
  have hfind : GivesUp (Accounts.findUser c) := by
    unfold Accounts.findUser
    split
    · exact .call
    · split
      · exact .call
      · exact .fail _
  refine .bind hfind fun u => .ite (.fail _) (.bind_ofExcept fun _ => ?_)
  exact .bind_ofExcept fun _ => .bind_ofExcept fun _ => .done _

theorem Accounts.changePassword_givesUp (old new : String) :
    GivesUp (Accounts.changePassword s p old new) := by
  refine .bind_call fun _ => .bind_ofExcept fun _ => .ite (.fail _) (.ite (.fail _) ?_)
  exact .bind_ofExcept fun _ => .call

theorem Accounts.registerAdmin_givesUp (r : Registration) : GivesUp (Accounts.registerAdmin s r) :=
  .bind_ofExcept fun _ => .call

theorem Accounts.registerCustomer_givesUp (r : Registration) :
    GivesUp (Accounts.registerCustomer s r) :=
  .bind_ofExcept fun _ => .call

theorem Accounts.registerOrganization_givesUp (r : OrganizationRegistration) :
    GivesUp (Accounts.registerOrganization s r) :=
  .bind_ofExcept fun _ => .call

theorem Accounts.registerMember_givesUp (r : MemberRegistration) :
    GivesUp (Accounts.registerMember s p r) := by
  refine .bind_ofExcept fun own => .bind_call fun _ => .bind_call fun role => ?_
  exact .ite (.fail _) (guard_givesUp (.bind_ofExcept fun _ => .call))

theorem Accounts.seedAdmin_givesUp (email phone password : String) :
    GivesUp (Accounts.seedAdmin s email phone password) := by
  refine .ask (fun e he => ?_) fun r => ?_
  · cases e with
    | notFound message => exact absurd he (Error.not_isInternal_notFound message)
    | _ => rfl
  · split
    · exact .done none
    · exact (registerAdmin_givesUp s _).map _
    · exact .fail _

theorem Job.perform_givesUp (j : Job) : GivesUp (j.perform s p) := by
  cases j with
  | organizations => exact Organizations.list_givesUp.map _
  | organization finder => exact (findOrganization_givesUp finder).map _
  | roles o => exact (Roles.list_givesUp o).map _
  | role finder => exact (findRole_givesUp finder).map _
  | users filter o => exact (Users.list_givesUp filter o).map _
  | user finder => exact (findUser_givesUp finder).map _
  | me => exact .map .call _
  | profile => exact Users.profile_givesUp.map _
  | containers => exact Containers.list_givesUp.map _
  | container finder => exact (findContainer_givesUp finder).map _
  | pallets c => exact (Pallets.list_givesUp c).map _
  | pallet finder => exact (findPallet_givesUp finder).map _
  | organizationUpdate id name website => exact (Organizations.update_givesUp id name website).map _
  | organizationArchive id archived => exact (Organizations.setArchived_givesUp id archived).map _
  | roleCreate c => exact (Roles.create_givesUp c).map _
  | roleUpdate c => exact (Roles.update_givesUp c).map _
  | userUpdate id c => exact (Users.update_givesUp id c).map _
  | containerCreate c => exact (Containers.create_givesUp c).map _
  | containerUpdate id description => exact (Containers.update_givesUp id description).map _
  | containerArchive id archived => exact (Containers.setArchived_givesUp id archived).map _
  | palletCreate c => exact (Pallets.create_givesUp c).map _
  | palletUpdate c => exact (Pallets.update_givesUp c).map _
  | palletArchive id archived => exact (Pallets.setArchived_givesUp id archived).map _
  | changePassword old new => exact (Accounts.changePassword_givesUp s old new).map _
  | organizationDelete | roleDelete | userDelete | containerDelete | palletDelete =>
    exact .map (.bind_ofExcept fun _ => .call) _

theorem Act.perform_givesUp (a : Act) : GivesUp (a.perform s) := by
  cases a with
  | seedAdmin email phone password => exact (Accounts.seedAdmin_givesUp s email phone password).map _
  | registerAdmin r => exact (Accounts.registerAdmin_givesUp s r).map _
  | registerCustomer r => exact (Accounts.registerCustomer_givesUp s r).map _
  | registerOrganization r => exact (Accounts.registerOrganization_givesUp s r).map _
  | registerMember p r => exact (Accounts.registerMember_givesUp s r).map _
  | login now door c => exact (Accounts.login_givesUp s now door c).map _
  | job p j => exact (Job.perform_givesUp s j).map _

theorem grant_givesUp (permission : Permission) (memberView customerView : Bool) :
    GivesUp (Authorization.grant p permission memberView customerView) := by
  have hevaluate : GivesUp (Authorization.evaluate p permission memberView customerView) := by
    obtain ⟨id, kind⟩ := p
    cases kind with
    | admin => exact .done _
    | customer => exact .done _
    | member own role => exact .ite (.bind_call fun _ => .done _) (.done _)
  refine .bind hevaluate fun access => ?_
  cases access with
  | allow => exact .done ()
  | deny => exact .fail _

theorem execute_givesUp (j : Job) : GivesUp (GraphQL.execute s p j) := by
  refine .bind ?_ fun _ => Job.perform_givesUp s j
  cases GraphQL.demand j with
  | none => exact .done ()
  | some d => exact grant_givesUp d.permission d.memberView d.customerView

end Depot.Operation
