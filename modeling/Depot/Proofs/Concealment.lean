import Depot.Proofs.License
import Depot.Proofs.Memory

namespace Depot

def User.concealed (u : User) : User := { u with passwordHash := .text "" }

@[simp] theorem User.concealed_concealed (u : User) : u.concealed.concealed = u.concealed := rfl

@[simp] theorem User.toJson_concealed (u : User) : u.concealed.toJson = u.toJson := rfl

namespace Store

def Call.conceal : (c : Call) → c.Answer → c.Answer
  | .organizations (.register _ _), (o, r, u) => (o, r, u.concealed)
  | .users (.byId _), u => User.concealed u
  | .users (.byEmail _), u => User.concealed u
  | .users (.byPhone _), u => User.concealed u
  | .users (.many _), us => List.map User.concealed us
  | .users (.list _), us => List.map User.concealed us
  | .users (.ofOrganization _), us => List.map User.concealed us
  | .users (.insert _), u => User.concealed u
  | .users (.insertCustomer _), (u, q) => (u.concealed, q)
  | .users (.update _), u => User.concealed u
  | _, x => x

namespace Memory

def concealed (m : Memory) : Memory :=
  { m with users := { m.users with rows := m.users.rows.map User.concealed } }

def shown (c : Call) (x : Except Error c.Answer × Memory) : Except Error c.Answer × Memory :=
  (x.1.map c.conceal, x.2.concealed)

variable {α : Type} {f g : α → α} {p : α → Bool} {rows : List α}

theorem find_map (missing : Error) (hp : ∀ x, p (f x) = p x) :
    find (rows.map f) p missing = (find rows p missing).map f := by
  have hcomp : p ∘ f = p := funext hp
  rw [find, find, List.find?_map, hcomp]
  cases rows.find? p <;> rfl

theorem filter_map (hp : ∀ x, p (f x) = p x) : (rows.map f).filter p = (rows.filter p).map f := by
  have hcomp : p ∘ f = p := funext hp
  rw [List.filter_map, hcomp]

theorem any_map (hp : ∀ x, p (f x) = p x) : (rows.map f).any p = rows.any p := by
  have hcomp : p ∘ f = p := funext hp
  rw [List.any_map, hcomp]

theorem modifyFirst?_map (hp : ∀ x, p (f x) = p x) (hf : ∀ x, f (f x) = f x)
    (hg : ∀ x, f (g (f x)) = f (g x)) :
    (modifyFirst? p g (rows.map f)).map (Prod.map f (List.map f)) =
      (modifyFirst? p g rows).map (Prod.map f (List.map f)) := by
  induction rows with
  | nil => rfl
  | cons x xs ih =>
    simp only [List.map_cons, modifyFirst?, hp]
    split
    · simp [Prod.map, hf, hg, Function.comp_def]
    · have h := congrArg (Option.map fun y => (y.1, f x :: y.2)) ih
      simpa [Option.map_map, Function.comp_def, Prod.map, hf] using h

def withUsers (users : Table User) (m : Memory) : Memory := { m with users := users }

theorem fetch_withUsers {α : Type} (users : Table User) (m : Memory) (name : BatchName)
    (keys : List Id) (rows : List α) :
    (m.withUsers users).fetch name keys rows = (m.fetch name keys rows).map id (withUsers users) := by
  cases h : m.batchesFail <;> simp [fetch, withUsers, h]

theorem handle_withUsers {c : Call} (hc : c.table ≠ .users)
    (hr : ∀ new owner, c ≠ .organizations (.register new owner)) (users : Table User) (m : Memory) :
    handle c (m.withUsers users) = (handle c m).map id (withUsers users) := by
  cases c with
  | users c => exact absurd rfl hc
  | organizations c =>
    cases c with
    | register new owner => exact absurd rfl (hr new owner)
    | many ids => exact fetch_withUsers users m ..
    | update o =>
      simp only [handle, organizationCall, withUsers]
      cases modifyFirst? (·.id == o.id) (fun _ => o) m.organizations.rows <;> rfl
    | delete id =>
      simp only [handle, organizationCall, withUsers]
      cases withoutId m.organizations.rows (·.id) id <;> rfl
    | _ => rfl
  | roles c =>
    cases c with
    | many ids => exact fetch_withUsers users m ..
    | update r =>
      simp only [handle, roleCall, withUsers]
      cases modifyFirst? _ _ m.roles.rows <;> rfl
    | delete id =>
      simp only [handle, roleCall, withUsers]
      cases withoutId m.roles.rows (·.id) id <;> rfl
    | _ => rfl
  | profiles c =>
    cases c with
    | many ids => exact fetch_withUsers users m ..
    | _ => rfl
  | containers c =>
    cases c with
    | many ids => exact fetch_withUsers users m ..
    | update x =>
      simp only [handle, containerCall, withUsers]
      cases modifyFirst? _ _ m.containers.rows <;> rfl
    | delete id =>
      simp only [handle, containerCall, withUsers]
      cases withoutId m.containers.rows (·.id) id <;> rfl
    | _ => rfl
  | pallets c =>
    cases c with
    | ofContainers ids => exact fetch_withUsers users m ..
    | update x =>
      simp only [handle, palletCall, withUsers]
      cases modifyFirst? _ _ m.pallets.rows <;> rfl
    | delete id =>
      simp only [handle, palletCall, withUsers]
      cases withoutId m.pallets.rows (·.id) id <;> rfl
    | _ => rfl

theorem shown_elsewhere {c : Call} (hc : c.table ≠ .users)
    (hr : ∀ new owner, c ≠ .organizations (.register new owner)) (m : Memory) :
    shown c (handle c m.concealed) = shown c (handle c m) := by
  have husers : (handle c m).2.users = m.users := (handle_frame c).users hc hr
  have hwith : m.concealed = m.withUsers m.concealed.users := rfl
  rw [hwith, handle_withUsers hc hr]
  refine Prod.ext rfl ?_
  simp [shown, withUsers, concealed, husers, Function.comp_def]

theorem checkAccount_map (users : List User) (email phone : String) :
    checkAccount (users.map User.concealed) email phone = checkAccount users email phone := by
  simp only [checkAccount, List.any_map]
  rfl

theorem concealed_concealed (m : Memory) : m.concealed.concealed = m.concealed := by
  simp [concealed, Function.comp_def]

theorem find_concealed {p : User → Bool} (hp : ∀ u, p u.concealed = p u) (rows : List User) :
    (find (rows.map User.concealed) p .noUser).map User.concealed =
      (find rows p .noUser).map User.concealed := by
  rw [find_map .noUser hp]
  cases find rows p .noUser <;> rfl

theorem filter_concealed {p : User → Bool} (hp : ∀ u, p u.concealed = p u) (rows : List User) :
    ((rows.map User.concealed).filter p).map User.concealed = (rows.filter p).map User.concealed := by
  rw [filter_map hp, List.map_map]
  rfl

theorem modify_concealed {p : User → Bool} {g : User → User} (hp : ∀ u, p u.concealed = p u)
    (hg : ∀ u : User, (g u.concealed).concealed = (g u).concealed) (rows : List User) :
    (modifyFirst? p g (rows.map User.concealed) = none ∧ modifyFirst? p g rows = none) ∨
      ∃ x xs y ys, modifyFirst? p g (rows.map User.concealed) = some (x, xs) ∧
        modifyFirst? p g rows = some (y, ys) ∧ x.concealed = y.concealed ∧
        xs.map User.concealed = ys.map User.concealed := by
  have h : (modifyFirst? p g (rows.map User.concealed)).map
      (Prod.map User.concealed (List.map User.concealed)) =
        (modifyFirst? p g rows).map (Prod.map User.concealed (List.map User.concealed)) :=
    modifyFirst?_map hp (fun _ => rfl) hg
  cases hx : modifyFirst? p g (rows.map User.concealed) with
  | none => exact .inl ⟨rfl, by simpa [hx] using h.symm⟩
  | some x =>
    cases hy : modifyFirst? p g rows with
    | none => simp [hx, hy] at h
    | some y =>
      rw [hx, hy] at h
      obtain ⟨hrow, hrows⟩ := Prod.ext_iff.1 (Option.some.inj h)
      exact .inr ⟨x.1, x.2, y.1, y.2, rfl, rfl, hrow, hrows⟩

theorem withoutId_concealed (rows : List User) (id : Id) :
    withoutId (rows.map User.concealed) (·.id) id =
      (withoutId rows (·.id) id).map (List.map User.concealed) := by
  simp only [withoutId, any_map (f := User.concealed) (p := fun u => u.id == id) fun _ => rfl,
    filter_map (f := User.concealed) (p := fun u => u.id != id) fun _ => rfl]
  split <;> rfl

theorem insertUser_concealed (m : Memory) (account : NewAccount) (kind : Kind) :
    (m.concealed.insertUser account kind).1 = (m.insertUser account kind).1 ∧
      (m.concealed.insertUser account kind).2.concealed = (m.insertUser account kind).2.concealed := by
  have hcheck : checkAccount m.concealed.users.rows account.email account.phone =
      checkAccount m.users.rows account.email account.phone := checkAccount_map ..
  simp only [insertUser, hcheck]
  cases checkAccount m.users.rows account.email account.phone with
  | error e => exact ⟨rfl, concealed_concealed m⟩
  | ok _ =>
    refine ⟨rfl, ?_⟩
    simp [concealed, Table.insert, userRow, Table.nextId, Function.comp_def]

theorem shown_register (new : NewOrganization) (owner : NewAccount) (m : Memory) :
    let c : Call := .organizations (.register new owner)
    shown c (handle c m.concealed) = shown c (handle c m) := by
  have hcheck : checkAccount m.concealed.users.rows owner.email owner.phone =
      checkAccount m.users.rows owner.email owner.phone := checkAccount_map ..
  simp only [handle, organizationCall, register, hcheck]
  cases checkAccount m.users.rows owner.email owner.phone with
  | error e => exact Prod.ext rfl (concealed_concealed m)
  | ok _ =>
    refine Prod.ext rfl ?_
    simp [shown, concealed, Table.insert, userRow, Table.nextId, Function.comp_def]

theorem shown_user (c : UserCall) (m : Memory) :
    shown (.users c) (handle (.users c) m.concealed) = shown (.users c) (handle (.users c) m) := by
  have hstate := concealed_concealed m
  cases c with
  | byId id => exact Prod.ext (find_concealed (fun _ => rfl) _) hstate
  | byEmail email => exact Prod.ext (find_concealed (fun _ => rfl) _) hstate
  | byPhone phone => exact Prod.ext (find_concealed (fun _ => rfl) _) hstate
  | many ids =>
    have hfail : m.concealed.batchesFail = m.batchesFail := rfl
    simp only [handle, userCall, fetch, hfail]
    split
    · exact Prod.ext rfl (concealed_concealed { m with batches := m.batches ++ [(.users, ids)] })
    · exact Prod.ext (congrArg Except.ok (filter_concealed (fun _ => rfl) _))
        (concealed_concealed { m with batches := m.batches ++ [(.users, ids)] })
  | list filter =>
    exact Prod.ext (congrArg Except.ok (filter_concealed (fun _ => rfl) _)) hstate
  | ofOrganization o =>
    exact Prod.ext (congrArg Except.ok (filter_concealed (fun _ => rfl) _)) hstate
  | insert u =>
    obtain ⟨hanswer, hafter⟩ := insertUser_concealed m u.account u.kind
    exact Prod.ext (congrArg (Except.map User.concealed) hanswer) hafter
  | insertCustomer a =>
    have hcheck : checkAccount m.concealed.users.rows a.email a.phone =
        checkAccount m.users.rows a.email a.phone := checkAccount_map ..
    simp only [handle, userCall, insertCustomer, insertUser, hcheck]
    cases checkAccount m.users.rows a.email a.phone with
    | error e => exact Prod.ext rfl hstate
    | ok _ =>
      refine Prod.ext rfl ?_
      simp [shown, concealed, Table.insert, userRow, Table.nextId, Function.comp_def]
  | update u =>
    have hemail : m.concealed.users.rows.any (fun x => x.id != u.id && x.email == u.email) =
        m.users.rows.any fun x => x.id != u.id && x.email == u.email := any_map fun _ => rfl
    have hphone : m.concealed.users.rows.any (fun x => x.id != u.id && x.phone == u.phone) =
        m.users.rows.any fun x => x.id != u.id && x.phone == u.phone := any_map fun _ => rfl
    simp only [handle, userCall, updateUser, hemail, hphone]
    split
    · exact Prod.ext rfl hstate
    split
    · exact Prod.ext rfl hstate
    · obtain ⟨hx, hy⟩ | ⟨x, xs, y, ys, hx, hy, hrow, hrows⟩ :=
        modify_concealed (p := (·.id == u.id)) (fun _ => rfl) (g := fun row : User =>
          { row with
            firstName := u.firstName
            lastName := u.lastName
            email := u.email
            phone := u.phone }) (fun _ => rfl) m.users.rows
      · simp only [concealed, hx, hy]
        exact Prod.ext rfl hstate
      · simp only [concealed, hx, hy]
        exact Prod.ext (congrArg Except.ok hrow) (by simp [shown, concealed, hrows])
  | updatePassword id hash =>
    obtain ⟨hx, hy⟩ | ⟨x, xs, y, ys, hx, hy, hrow, hrows⟩ :=
      modify_concealed (p := (·.id == id)) (fun _ => rfl)
        (g := fun u : User => { u with passwordHash := hash }) (fun _ => rfl) m.users.rows
    · simp only [handle, userCall, concealed, hx, hy]
      exact Prod.ext rfl hstate
    · simp only [handle, userCall, concealed, hx, hy]
      exact Prod.ext rfl (by simp [shown, concealed, hrows])
  | delete id =>
    simp only [handle, userCall, concealed, withoutId_concealed]
    cases withoutId m.users.rows (·.id) id with
    | none => exact Prod.ext rfl hstate
    | some rows => exact Prod.ext rfl (by simp [shown, concealed, Function.comp_def])

theorem shown_handle (c : Call) (m : Memory) :
    shown c (handle c m.concealed) = shown c (handle c m) := by
  by_cases hc : c.table = .users
  · cases c with
    | users c => exact shown_user c m
    | _ => cases hc
  · by_cases hr : ∀ new owner, c ≠ .organizations (.register new owner)
    · exact shown_elsewhere hc hr m
    · push Not at hr
      obtain ⟨new, owner, rfl⟩ := hr
      exact shown_register new owner m

theorem shown_handle_of_eq {m m' : Memory} (h : m.concealed = m'.concealed) (c : Call) :
    shown c (handle c m) = shown c (handle c m') := by
  rw [← shown_handle c m, h, shown_handle c m']

end Memory

end Store

namespace Program

open Store

variable {α β γ δ : Type} {f : α → γ} {g : β → δ} {p q : Program α} {k k' : α → Program β}

/-- Run in states that look alike, the programs leave states that do, and what `f` shows of their
outcomes is the same. -/
def Alike (f : α → γ) (p q : Program α) : Prop :=
  ∀ m m' : Memory, m.concealed = m'.concealed →
    (p.run Memory.handle m).1.map f = (q.run Memory.handle m').1.map f ∧
      (p.run Memory.handle m).2.concealed = (q.run Memory.handle m').2.concealed

theorem exists_of_run_bind {m : Memory} {b : β}
    (h : ((p.bind k).run Memory.handle m).1 = .ok b) :
    ∃ a n, (p.run Memory.handle m).1 = .ok a ∧ ((k a).run Memory.handle n).1 = .ok b := by
  rw [run_bind] at h
  split at h
  · rename_i a n hrun
    exact ⟨a, n, congrArg Prod.fst hrun, h⟩
  · cases h

namespace Alike

theorem done {a b : α} (h : f a = f b) : Alike f (.done a) (.done b) :=
  fun _ _ hm => ⟨congrArg Except.ok h, hm⟩

theorem fail {e : Error} : Alike f (.fail e) (.fail e) := fun _ _ hm => ⟨rfl, hm⟩

theorem ask {c : Call} {next next' : Except Error c.Answer → Program α}
    (h : ∀ r r', r.map c.conceal = r'.map c.conceal → Alike f (next r) (next' r')) :
    Alike f (.ask c next) (.ask c next') := by
  intro m m' hm
  have hshown := Memory.shown_handle_of_eq hm c
  rw [run_ask, run_ask]
  exact h _ _ (congrArg Prod.fst hshown) _ _ (congrArg Prod.snd hshown)

theorem ofExcept {r r' : Except Error α} (h : r.map f = r'.map f) :
    Alike f (.ofExcept r) (.ofExcept r') := by
  intro m m' hm
  rw [run_ofExcept, run_ofExcept]
  exact ⟨h, hm⟩

theorem call (c : Call) : Alike c.conceal (call c) (call c) := ask fun _ _ h => ofExcept h

theorem update {u u' : User} (h : u.concealed = u'.concealed) :
    Alike User.concealed (Program.call (.users (.update u))) (Program.call (.users (.update u'))) := by
  have hhandle (m : Memory) (u : User) :
      Memory.handle (.users (.update u)) m = Memory.handle (.users (.update u.concealed)) m := rfl
  intro m m' hm
  have hshown := Memory.shown_handle_of_eq hm (.users (.update u.concealed))
  rw [run_call, run_call, hhandle m u, hhandle m' u', ← h]
  exact ⟨congrArg Prod.fst hshown, congrArg Prod.snd hshown⟩

theorem bind_of {P : α → Prop} (hp : Alike f p q)
    (hP : ∀ m a, (p.run Memory.handle m).1 = .ok a → P a)
    (hk : ∀ a b, P a → f a = f b → Alike g (k a) (k' b)) : Alike g (p.bind k) (q.bind k') := by
  intro m m' hm
  obtain ⟨hanswer, hafter⟩ := hp m m' hm
  have hP := hP m
  rw [run_bind, run_bind]
  revert hanswer hafter hP
  obtain ⟨r, n⟩ := p.run Memory.handle m
  obtain ⟨r', n'⟩ := q.run Memory.handle m'
  intro hanswer hafter hP
  cases r with
  | error e =>
    cases r' with
    | error e' =>
      obtain rfl : e = e' := Except.error.inj hanswer
      exact ⟨rfl, hafter⟩
    | ok b => cases hanswer
  | ok a =>
    cases r' with
    | error e' => cases hanswer
    | ok b => exact hk a b (hP a rfl) (Except.ok.inj hanswer) n n' hafter

theorem bind (hp : Alike f p q) (hk : ∀ a b, f a = f b → Alike g (k a) (k' b)) :
    Alike g (p.bind k) (q.bind k') :=
  hp.bind_of (P := fun _ => True) (fun _ _ _ => trivial) fun a b _ => hk a b

theorem map {h : α → β} (hp : Alike f p q) (hh : ∀ a b, f a = f b → g (h a) = g (h b)) :
    Alike g (p.bind fun a => .done (h a)) (q.bind fun a => .done (h a)) :=
  hp.bind fun a b hab => done (hh a b hab)

theorem bind_ofExcept {r : Except Error α} (hk : ∀ a, Alike g (k a) (k' a)) :
    Alike g ((Program.ofExcept r).bind k) ((Program.ofExcept r).bind k') := by
  cases r with
  | ok a => exact hk a
  | error e => exact fail

theorem ask_plain {c : Call} {next next' : Except Error c.Answer → Program α}
    (hc : ∀ x, c.conceal x = x) (hnext : ∀ r, Alike f (next r) (next' r)) :
    Alike f (.ask c next) (.ask c next') := by
  have hid : c.conceal = id := funext hc
  refine ask fun r r' h => ?_
  obtain rfl : r = r' := by simpa [hid] using h
  exact hnext r

theorem bind_call {c : Call} {k k' : c.Answer → Program β} (hc : ∀ x, c.conceal x = x)
    (hk : ∀ a, Alike g (k a) (k' a)) : Alike g ((Program.call c).bind k) ((Program.call c).bind k') :=
  ask_plain hc fun _ => bind_ofExcept hk

theorem ite {c : Prop} [Decidable c] {p' q' : Program α} (hp : Alike f p q) (hq : Alike f p' q') :
    Alike f (if c then p else p') (if c then q else q') := by
  split
  · exact hp
  · exact hq

theorem attempt (h : Alike f p q) : Alike (Except.map f) p.attempt q.attempt := by
  intro m m' hm
  obtain ⟨hanswer, hafter⟩ := h m m' hm
  rw [run_attempt, run_attempt]
  exact ⟨congrArg Except.ok hanswer, hafter⟩

theorem tryCatch {recover : Error → Program α} (h : Alike f p q)
    (hr : ∀ e, Alike f (recover e) (recover e)) : Alike f (p.tryCatch recover) (q.tryCatch recover) := by
  intro m m' hm
  obtain ⟨hanswer, hafter⟩ := h m m' hm
  rw [run_tryCatch, run_tryCatch]
  revert hanswer hafter
  obtain ⟨r, n⟩ := p.run Memory.handle m
  obtain ⟨r', n'⟩ := q.run Memory.handle m'
  intro hanswer hafter
  cases r with
  | error e =>
    cases r' with
    | error e' =>
      obtain rfl : e = e' := Except.error.inj hanswer
      exact hr e n n' hafter
    | ok b => cases hanswer
  | ok a =>
    cases r' with
    | error e' => cases hanswer
    | ok b => exact ⟨hanswer, hafter⟩

end Alike

end Program

end Depot
