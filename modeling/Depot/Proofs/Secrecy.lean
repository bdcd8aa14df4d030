import Depot.Proofs.Concealment

namespace Depot

open Program Store

variable {α β γ : Type}

abbrev Program.Plain (q : Program α) : Prop := Alike id q q

namespace Program.Alike

variable {q : Program α} {g : β → γ} {k : α → Program β}

theorem plain_ofExcept {r : Except Error α} : Plain (Program.ofExcept r) := .ofExcept rfl

theorem bind_plain (hq : Plain q) (hk : ∀ a, Alike g (k a) (k a)) :
    Alike g (q.bind k) (q.bind k) := by
  refine hq.bind fun a b hab => ?_
  obtain rfl : a = b := hab
  exact hk a

end Program.Alike

open Program.Alike

namespace Authorization

variable (p : Principal)

theorem evaluate_plain (permission : Permission) (memberView customerView : Bool) :
    Plain (evaluate p permission memberView customerView) := by
  obtain ⟨id, kind⟩ := p
  cases kind with
  | admin | customer => exact .done rfl
  | member own role =>
    exact .ite (.bind_call (fun _ => rfl) fun r => .done rfl) (.done rfl)

theorem grant_plain (permission : Permission) (memberView customerView : Bool) :
    Plain (grant p permission memberView customerView) := by
  refine .bind_plain (evaluate_plain p permission memberView customerView) fun access => ?_
  cases access with
  | allow => exact .done rfl
  | deny => exact .fail

theorem administers_plain : Plain (administers p) := by
  obtain ⟨id, kind⟩ := p
  cases kind with
  | admin | customer => exact .done rfl
  | member own role => exact .bind_call (fun _ => rfl) fun r => .done rfl

end Authorization

namespace Operation

variable (p : Principal)

namespace Organizations

theorem list_plain : Plain (list p) := by
  obtain ⟨id, kind⟩ := p
  cases kind with
  | admin => exact .ask_plain (fun _ => rfl) fun _ => .plain_ofExcept
  | member own role => exact .bind_call (fun _ => rfl) fun o => .done rfl
  | customer => exact .done rfl

theorem get_plain (id : Id) : Plain (get p id) := .bind_call (fun _ => rfl) fun _ => .plain_ofExcept

theorem getByCode_plain (code : String) : Plain (getByCode p code) :=
  .bind_call (fun _ => rfl) fun _ => .plain_ofExcept

theorem update_plain (id : Id) (name : String) (website : Option String) :
    Plain (update p id name website) :=
  .ite .fail (.bind_plain (get_plain p id) fun _ => .ask_plain (fun _ => rfl) fun _ => .plain_ofExcept)

theorem setArchived_plain (id : Id) (archived : Bool) : Plain (setArchived p id archived) :=
  .bind_plain (get_plain p id) fun _ => .ite .fail (.ask_plain (fun _ => rfl) fun _ => .plain_ofExcept)

theorem delete_plain (id : Id) : Plain (delete p id) :=
  .bind_ofExcept fun _ => .ask_plain (fun _ => rfl) fun _ => .plain_ofExcept

end Organizations

namespace Roles

theorem list_plain (organization : Option Id) : Plain (list p organization) := by
  obtain ⟨id, kind⟩ := p
  cases kind with
  | admin => cases organization <;> exact .ask_plain (fun _ => rfl) fun _ => .plain_ofExcept
  | member own role => exact .ask_plain (fun _ => rfl) fun _ => .plain_ofExcept
  | customer => exact .fail

theorem get_plain (id : Id) : Plain (get p id) := .bind_call (fun _ => rfl) fun _ => .plain_ofExcept

theorem getByCode_plain (code : String) : Plain (getByCode p code) :=
  .bind_call (fun _ => rfl) fun _ => .plain_ofExcept

theorem create_plain (c : Creation) : Plain (create p c) := by
  have hinsert (new : NewRole) : Plain (Program.call (.roles (.insert new))) :=
    .ask_plain (fun _ => rfl) fun _ => .plain_ofExcept
  have hadministers {rest : Program Role} (hrest : Plain rest) :
      Plain (if c.isOrgAdmin then
        (Authorization.administers p).bind fun administers =>
          if !administers then .fail .notPermitted else rest
        else rest) :=
    .ite (.bind_plain (Authorization.administers_plain p) fun _ => .ite .fail hrest) hrest
  refine .ite .fail (.ite .fail (.bind_ofExcept fun organization => ?_))
  exact .ite (.bind_call (fun _ => rfl) fun _ => hadministers (hinsert _)) (hadministers (hinsert _))

theorem update_plain (c : Change) : Plain (update p c) :=
  .ite .fail (.ite .fail (.bind_plain (get_plain p c.id) fun _ =>
    .ask_plain (fun _ => rfl) fun _ => .plain_ofExcept))

theorem delete_plain (id : Id) : Plain (delete p id) :=
  .bind_ofExcept fun _ => .ask_plain (fun _ => rfl) fun _ => .plain_ofExcept

end Roles

namespace Containers

theorem list_plain : Plain (list p) := by
  obtain ⟨id, kind⟩ := p
  cases kind with
  | admin | member => exact .ask_plain (fun _ => rfl) fun _ => .plain_ofExcept
  | customer => exact .done rfl

theorem get_plain (id : Id) : Plain (get p id) := .bind_call (fun _ => rfl) fun _ => .plain_ofExcept

theorem getByUid_plain (uid : Uid) : Plain (getByUid p uid) :=
  .bind_call (fun _ => rfl) fun _ => .plain_ofExcept

theorem getByCode_plain (code : String) : Plain (getByCode p code) :=
  .bind_call (fun _ => rfl) fun _ => .plain_ofExcept

theorem create_plain (c : Creation) : Plain (create p c) :=
  .bind_ofExcept fun _ => .ask_plain (fun _ => rfl) fun _ => .plain_ofExcept

theorem update_plain (id : Id) (description : Option String) : Plain (update p id description) :=
  .bind_plain (get_plain p id) fun _ => .ask_plain (fun _ => rfl) fun _ => .plain_ofExcept

theorem setArchived_plain (id : Id) (archived : Bool) : Plain (setArchived p id archived) :=
  .bind_plain (get_plain p id) fun _ => .ite .fail (.ask_plain (fun _ => rfl) fun _ => .plain_ofExcept)

theorem delete_plain (id : Id) : Plain (delete p id) :=
  .bind_ofExcept fun _ => .ask_plain (fun _ => rfl) fun _ => .plain_ofExcept

end Containers

namespace Pallets

theorem list_plain (container : Option Id) : Plain (list p container) := by
  cases container with
  | some id =>
    exact .bind_call (fun _ => rfl) fun c => .bind_ofExcept fun _ =>
      .ask_plain (fun _ => rfl) fun _ => .plain_ofExcept
  | none =>
    obtain ⟨id, kind⟩ := p
    cases kind with
    | admin | member => exact .ask_plain (fun _ => rfl) fun _ => .plain_ofExcept
    | customer => exact .done rfl

theorem get_plain (id : Id) : Plain (get p id) := .bind_call (fun _ => rfl) fun _ => .plain_ofExcept

theorem getByUid_plain (uid : Uid) : Plain (getByUid p uid) :=
  .bind_call (fun _ => rfl) fun _ => .plain_ofExcept

theorem getByCode_plain (code : String) : Plain (getByCode p code) :=
  .bind_call (fun _ => rfl) fun _ => .plain_ofExcept

theorem requireContainer_plain (container organization : Id) :
    Plain (requireContainer container organization) := by
  refine .ask_plain (fun _ => rfl) fun r => ?_
  cases r with
  | ok c => exact .ite (.done rfl) .fail
  | error e => cases e <;> exact .fail

theorem create_plain (c : Creation) : Plain (create p c) := by
  have hinsert (new : NewPallet) : Plain (Program.call (.pallets (.insert new))) :=
    .ask_plain (fun _ => rfl) fun _ => .plain_ofExcept
  refine .bind_ofExcept fun organization => ?_
  obtain ⟨description, requested, containerId⟩ := c
  cases containerId with
  | none => exact hinsert _
  | some container =>
    exact .bind_plain (requireContainer_plain container organization) fun _ => hinsert _

theorem update_plain (c : Change) : Plain (update p c) := by
  refine .bind_plain (get_plain p c.id) fun x => ?_
  have hupdate : Plain (Program.call (.pallets (.update
      { x with description := c.description, containerId := c.containerId }))) :=
    .ask_plain (fun _ => rfl) fun _ => .plain_ofExcept
  refine .ite ?_ hupdate
  split
  · exact .bind_plain (requireContainer_plain _ _) fun _ => hupdate
  · exact hupdate

theorem setArchived_plain (id : Id) (archived : Bool) : Plain (setArchived p id archived) :=
  .bind_plain (get_plain p id) fun _ => .ite .fail (.ask_plain (fun _ => rfl) fun _ => .plain_ofExcept)

theorem delete_plain (id : Id) : Plain (delete p id) :=
  .bind_ofExcept fun _ => .ask_plain (fun _ => rfl) fun _ => .plain_ofExcept

end Pallets

namespace Users

theorem list_alike (filter : UserFilter) (organization : Option Id) :
    Alike (List.map User.concealed) (list p filter organization) (list p filter organization) := by
  obtain ⟨id, kind⟩ := p
  cases kind with
  | admin =>
    cases organization with
    | some o => exact .call (.users (.ofOrganization o))
    | none => exact .call (.users (.list filter))
  | member own role => exact .call (.users (.ofOrganization own))
  | customer => exact .fail

theorem visible_alike {u u' : User} (h : u.concealed = u'.concealed) :
    (visible p u).map User.concealed = (visible p u').map User.concealed := by
  have hsees : sees p u = sees p u' := by
    have hsees : sees p u.concealed = sees p u'.concealed := by rw [h]
    exact hsees
  rw [visible, visible, hsees]
  split
  · exact congrArg Except.ok h
  · rfl

theorem get_alike (id : Id) : Alike User.concealed (get p id) (get p id) :=
  .bind (.call (.users (.byId id))) fun _ _ h => .ofExcept (visible_alike p h)

theorem getByEmail_alike (email : String) :
    Alike User.concealed (getByEmail p email) (getByEmail p email) :=
  .bind (.call (.users (.byEmail (normalizeEmail email)))) fun _ _ h => .ofExcept (visible_alike p h)

theorem getByPhone_alike (phone : String) :
    Alike User.concealed (getByPhone p phone) (getByPhone p phone) :=
  .bind (.call (.users (.byPhone phone))) fun _ _ h => .ofExcept (visible_alike p h)

theorem me_alike : Alike User.concealed (me p) (me p) := .call (.users (.byId p.id))

theorem profile_plain : Plain (profile p) :=
  .ite .fail (.ask_plain (fun _ => rfl) fun _ => .plain_ofExcept)

theorem update_alike (id : Id) (c : Change) :
    Alike User.concealed (update p id c) (update p id c) := by
  refine .bind (get_alike p id) fun u u' h => .update ?_
  have happly (u : User) : (c.apply u).concealed = c.apply u.concealed := rfl
  rw [happly, happly, h]

theorem delete_plain (id : Id) : Plain (delete p id) :=
  .bind_ofExcept fun _ => .ask_plain (fun _ => rfl) fun _ => .plain_ofExcept

end Users

namespace Accounts

variable (s : Settings)

theorem registerAdmin_alike (r : Registration) :
    Alike User.concealed (registerAdmin s r) (registerAdmin s r) :=
  .bind_ofExcept fun a => .call (.users (.insert ⟨a, .admin⟩))

theorem registerCustomer_alike (r : Registration) :
    Alike (Prod.map User.concealed id) (registerCustomer s r) (registerCustomer s r) :=
  .bind_ofExcept fun a => .call (.users (.insertCustomer a))

theorem registerOrganization_alike (r : OrganizationRegistration) :
    Alike (Prod.map id (Prod.map id User.concealed)) (registerOrganization s r)
      (registerOrganization s r) :=
  .bind_ofExcept fun a =>
    .call (.organizations (.register ⟨Text.trim r.name, Text.nonBlank? r.website⟩ a))

theorem registerMember_alike (r : MemberRegistration) :
    Alike User.concealed (registerMember s p r) (registerMember s p r) := by
  refine .bind_ofExcept fun own => .bind_call (fun _ => rfl) fun o => ?_
  refine .bind_call (fun _ => rfl) fun role => .ite .fail ?_
  have hinsert : Alike User.concealed
      ((Program.ofExcept (account s r.account)).bind fun a =>
        Program.call (.users (.insert ⟨a, .member own role.id⟩)))
      ((Program.ofExcept (account s r.account)).bind fun a =>
        Program.call (.users (.insert ⟨a, .member own role.id⟩))) :=
    .bind_ofExcept fun a => .call (.users (.insert ⟨a, .member own role.id⟩))
  exact .ite (.bind_plain (Authorization.administers_plain p) fun _ => .ite .fail hinsert) hinsert

theorem seedAdmin_alike (email phone password : String) :
    Alike (Option.map User.concealed) (seedAdmin s email phone password)
      (seedAdmin s email phone password) := by
  refine .ask fun r r' h => ?_
  cases r with
  | ok u =>
    cases r' with
    | ok u' => exact .done rfl
    | error e => cases h
  | error e =>
    cases r' with
    | ok u' => cases h
    | error e' =>
      obtain rfl : e = e' := Except.error.inj h
      cases e with
      | notFound => exact (registerAdmin_alike s _).map fun u u' hu => congrArg some hu
      | _ => exact .fail

end Accounts

def Row.concealed : Row → Row
  | .user u => .user u.concealed
  | r => r

@[simp] theorem Row.toJson_concealed (r : Row) : r.concealed.toJson = r.toJson := by
  cases r <;> rfl

def Value.concealed : Value → Value
  | .done => .done
  | .row r => .row r.concealed
  | .page type rows => .page type (rows.map Row.concealed)

variable {p}

theorem findUser_alike (finder : Finder) :
    Alike User.concealed (findUser p finder) (findUser p finder) := by
  cases finder with
  | id id => exact Users.get_alike p id
  | email email => exact Users.getByEmail_alike p email
  | phone phone => exact Users.getByPhone_alike p phone
  | _ => exact .fail

theorem findOrganization_plain (finder : Finder) : Plain (findOrganization p finder) := by
  cases finder with
  | id id => exact Organizations.get_plain p id
  | code code => exact Organizations.getByCode_plain p code
  | _ => exact .fail

theorem findRole_plain (finder : Finder) : Plain (findRole p finder) := by
  cases finder with
  | id id => exact Roles.get_plain p id
  | code code => exact Roles.getByCode_plain p code
  | _ => exact .fail

theorem findContainer_plain (finder : Finder) : Plain (findContainer p finder) := by
  cases finder with
  | id id => exact Containers.get_plain p id
  | uid uid => exact Containers.getByUid_plain p uid
  | code code => exact Containers.getByCode_plain p code
  | _ => exact .fail

theorem findPallet_plain (finder : Finder) : Plain (findPallet p finder) := by
  cases finder with
  | id id => exact Pallets.get_plain p id
  | uid uid => exact Pallets.getByUid_plain p uid
  | code code => exact Pallets.getByCode_plain p code
  | _ => exact .fail

def Job.LeavesPasswords : Job → Prop
  | .changePassword _ _ => False
  | _ => True

theorem Job.perform_alike (s : Accounts.Settings) {j : Job} (hj : j.LeavesPasswords) :
    Alike Value.concealed (j.perform s p) (j.perform s p) := by
  have hplain {α : Type} {q : Program α} (hq : Plain q) (f : α → Value) :
      Alike Value.concealed (q.bind fun a => .done (f a)) (q.bind fun a => .done (f a)) :=
    .bind_plain hq fun _ => .done rfl
  have huser {q : Program User} (hq : Alike User.concealed q q) :
      Alike Value.concealed (q.bind fun u => .done (.row (.user u)))
        (q.bind fun u => .done (.row (.user u))) :=
    hq.map fun u u' h => congrArg (fun u => Value.row (.user u)) h
  cases j with
  | organizations => exact hplain (Organizations.list_plain p) _
  | organization finder => exact hplain (findOrganization_plain finder) _
  | roles o => exact hplain (Roles.list_plain p o) _
  | role finder => exact hplain (findRole_plain finder) _
  | users filter o =>
    refine (Users.list_alike p filter o).map fun us us' h => ?_
    have hrows : ∀ us : List User, (us.map Row.user).map Row.concealed =
        (us.map User.concealed).map Row.user := by simp [Row.concealed, Function.comp_def]
    rw [Value.concealed, Value.concealed, hrows, hrows, h]
  | user finder => exact huser (findUser_alike finder)
  | me => exact huser (Users.me_alike p)
  | profile => exact hplain (Users.profile_plain p) _
  | containers => exact hplain (Containers.list_plain p) _
  | container finder => exact hplain (findContainer_plain finder) _
  | pallets c => exact hplain (Pallets.list_plain p c) _
  | pallet finder => exact hplain (findPallet_plain finder) _
  | organizationUpdate id name website => exact hplain (Organizations.update_plain p id name website) _
  | organizationArchive id archived => exact hplain (Organizations.setArchived_plain p id archived) _
  | organizationDelete id => exact hplain (Organizations.delete_plain p id) _
  | roleCreate c => exact hplain (Roles.create_plain p c) _
  | roleUpdate c => exact hplain (Roles.update_plain p c) _
  | roleDelete id => exact hplain (Roles.delete_plain p id) _
  | userUpdate id c => exact huser (Users.update_alike p id c)
  | userDelete id => exact hplain (Users.delete_plain p id) _
  | changePassword => exact hj.elim
  | containerCreate c => exact hplain (Containers.create_plain p c) _
  | containerUpdate id description => exact hplain (Containers.update_plain p id description) _
  | containerArchive id archived => exact hplain (Containers.setArchived_plain p id archived) _
  | containerDelete id => exact hplain (Containers.delete_plain p id) _
  | palletCreate c => exact hplain (Pallets.create_plain p c) _
  | palletUpdate c => exact hplain (Pallets.update_plain p c) _
  | palletArchive id archived => exact hplain (Pallets.setArchived_plain p id archived) _
  | palletDelete id => exact hplain (Pallets.delete_plain p id) _

def Act.LeavesPasswords : Act → Prop
  | .login _ _ _ => False
  | .job _ j => j.LeavesPasswords
  | _ => True

def Reply.concealed (reply : Reply) : Reply := { reply with rows := reply.rows.map Row.concealed }

theorem Act.perform_alike (s : Accounts.Settings) {a : Act} (ha : a.LeavesPasswords) :
    Alike Reply.concealed (a.perform s) (a.perform s) := by
  have huser {q : Program User} (hq : Alike User.concealed q q) :
      Alike Reply.concealed (q.bind fun u => .done ⟨[.user u], none⟩)
        (q.bind fun u => .done ⟨[.user u], none⟩) :=
    hq.map fun u u' h => congrArg (fun u => Reply.mk [.user u] none) h
  cases a with
  | seedAdmin email phone password =>
    refine (Accounts.seedAdmin_alike s email phone password).map fun u u' h => ?_
    have hrows (u : Option User) : ((u.map Row.user).toList.map Row.concealed) =
        ((u.map User.concealed).map Row.user).toList := by cases u <;> rfl
    rw [Reply.concealed, Reply.concealed, hrows, hrows, h]
  | registerAdmin r => exact huser (Accounts.registerAdmin_alike s r)
  | registerCustomer r =>
    refine (Accounts.registerCustomer_alike s r).map fun x x' h => ?_
    exact congrArg (fun y : User × Profile => Reply.mk [.user y.1, .profile y.2] none) h
  | registerOrganization r =>
    refine (Accounts.registerOrganization_alike s r).map fun x x' h => ?_
    exact congrArg (fun y : Organization × Role × User =>
      Reply.mk [.organization y.1, .role y.2.1, .user y.2.2] none) h
  | registerMember p r => exact huser (Accounts.registerMember_alike p s r)
  | login => exact ha.elim
  | job p j =>
    refine (Job.perform_alike s ha).map fun v v' h => ?_
    have hrows (v : Value) : v.rows.map Row.concealed = v.concealed.rows := by cases v <;> rfl
    rw [Reply.concealed, Reply.concealed, hrows, hrows, h]

end Operation

end Depot
