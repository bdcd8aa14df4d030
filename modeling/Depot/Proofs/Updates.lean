import Depot.Proofs.Noninterference
import Depot.Proofs.Passwords

namespace Depot

namespace Operation

/-- What becomes of a text when another one may be given for it. -/
structure Revises (form : String → String) (given : Option String) (old new : String) : Prop where
  replaced : ∀ t, given = some t → ¬ Text.isBlankText t → new = form t
  kept : (∀ t, given = some t → Text.isBlankText t) → new = old

/-- The user as the change asks for it. -/
structure Users.Change.Asks (c : Change) (u v : User) : Prop where
  firstName : Revises Text.trim c.firstName u.firstName v.firstName
  lastName : Revises Text.trim c.lastName u.lastName v.lastName
  email : Revises normalizeEmail c.email u.email v.email
  phone : Revises Text.trim c.phone u.phone v.phone
  rest : v = { u with
    firstName := v.firstName
    lastName := v.lastName
    email := v.email
    phone := v.phone }

theorem revises_nonBlank? (form : String → String) (given : Option String) (old : String) :
    Revises form given old
      (match Text.nonBlank? given with
      | some t => form t
      | none => old) := by
  constructor
  · rintro t rfl hblank
    rw [Text.nonBlank?_of_not_blank hblank]
  · intro hblank
    have hnone : Text.nonBlank? given = none := by
      cases given with
      | none => rfl
      | some t => simp [Text.nonBlank?, hblank t rfl]
    rw [hnone]

theorem Users.Change.asks_apply (c : Change) (u : User) : c.Asks u (c.apply u) where
  firstName := revises_nonBlank? Text.trim c.firstName u.firstName
  lastName := revises_nonBlank? Text.trim c.lastName u.lastName
  email := revises_nonBlank? normalizeEmail c.email u.email
  phone := revises_nonBlank? Text.trim c.phone u.phone
  rest := rfl

theorem Revises.unique {form : String → String} {given : Option String} {old new new' : String}
    (h : Revises form given old new) (h' : Revises form given old new') : new = new' := by
  by_cases hblank : ∀ t, given = some t → Text.isBlankText t
  · rw [h.kept hblank, h'.kept hblank]
  · push Not at hblank
    obtain ⟨t, ht, hblank⟩ := hblank
    rw [h.replaced t ht hblank, h'.replaced t ht hblank]

theorem Users.Change.Asks.eq_apply {c : Change} {u v : User} (h : c.Asks u v) : v = c.apply u := by
  have happly := c.asks_apply u
  rw [h.rest, happly.rest, h.firstName.unique happly.firstName, h.lastName.unique happly.lastName,
    h.email.unique happly.email, h.phone.unique happly.phone]

theorem Revises.eq_of_form {form : String → String} {given : Option String} {old new t : String}
    (h : Revises form given old new) (hgiven : given = some t) (hform : form t = old) : new = old := by
  by_cases hblank : Text.isBlankText t
  · refine h.kept fun t' ht' => ?_
    obtain rfl : t = t' := Option.some.inj (hgiven.symm.trans ht')
    exact hblank
  · rw [h.replaced t hgiven hblank, hform]

end Operation

namespace Store.Memory

def TakenByOther (m : Memory) (id : Id) (column : User → String) (value : String) : Prop :=
  ∃ w ∈ m.users.rows, w.id ≠ id ∧ column w = value

def withUser (m : Memory) (id : Id) (v : User) : Memory :=
  { m with users := { m.users with rows := m.users.rows.map fun w => if w.id = id then v else w } }

variable {m : Memory} {u v : User}

theorem takenByOther_iff {id : Id} {column : User → String} {value : String} :
    m.TakenByOther id column value ↔
      m.users.rows.any (fun w => w.id != id && column w == value) = true := by
  simp [TakenByOther]

theorem not_takenByOther {column : User → String} (h : (m.users.rows.map column).Nodup)
    (hu : u ∈ m.users.rows) : ¬ m.TakenByOther u.id column (column u) := by
  rintro ⟨w, hw, hne, heq⟩
  exact hne (congrArg User.id (List.inj_on_of_nodup_map h hw hu heq))

theorem updateUser_of_email (h : m.TakenByOther v.id (·.email) v.email) :
    m.updateUser v = (.error .emailTaken, m) :=
  if_pos (takenByOther_iff.1 h)

theorem updateUser_of_phone (hemail : ¬ m.TakenByOther v.id (·.email) v.email)
    (h : m.TakenByOther v.id (·.phone) v.phone) : m.updateUser v = (.error .phoneTaken, m) := by
  rw [takenByOther_iff] at hemail h
  exact (if_neg hemail).trans (if_pos h)

theorem updateUser_of_free (hs : m.users.Sound) (hu : u ∈ m.users.rows) (hid : v.id = u.id)
    (hrest : v = { u with
      firstName := v.firstName, lastName := v.lastName, email := v.email, phone := v.phone })
    (hemail : ¬ m.TakenByOther v.id (·.email) v.email)
    (hphone : ¬ m.TakenByOther v.id (·.phone) v.phone) :
    m.updateUser v = (.ok v, m.withUser u.id v) := by
  let change (w : User) : User :=
    { w with firstName := v.firstName, lastName := v.lastName, email := v.email, phone := v.phone }
  have hmodify : modifyFirst? (·.id == v.id) change m.users.rows =
      some (v, m.users.rows.map fun w => if w.id = u.id then v else w) := by
    have hchange : change u = v := hrest.symm
    have hrows : (m.users.rows.map fun w => if w.id = u.id then change w else w) =
        m.users.rows.map fun w => if w.id = u.id then v else w := by
      refine List.map_congr_left fun w hw => ?_
      by_cases hw' : w.id = u.id
      · rw [if_pos hw', if_pos hw', hs.eq_of_key hw hu hw', hchange]
      · rw [if_neg hw', if_neg hw']
    have hfound : modifyFirst? (·.id == u.id) change m.users.rows =
        some (change u, m.users.rows.map fun w => if w.id = u.id then change w else w) :=
      modifyFirst?_eq_map hs.nodup hu
    rw [hchange, hrows] at hfound
    rw [hid]
    exact hfound
  rw [takenByOther_iff] at hemail hphone
  unfold updateUser
  rw [if_neg hemail, if_neg hphone]
  simp only
  rw [hmodify]
  rfl

end Store.Memory

namespace Operation

open Program Store

variable {m : Memory} {p : Principal} {id : Id} {c : Users.Change}

theorem Users.run_get_of_unseen (h : ∀ u ∈ m.users.rows, u.id = id → ¬ p.Owns (.user u)) :
    (get p id).run Memory.handle m = (.error .noUser, m) := by
  rw [run_get]
  cases hfind : Memory.find m.users.rows (·.id == id) .noUser with
  | error e =>
    obtain rfl := find_eq_error hfind
    rfl
  | ok u =>
    obtain ⟨hu, hid⟩ := find_eq_ok hfind
    have hsees : sees p u = false := Bool.eq_false_iff.2 fun hsees =>
      h u hu (beq_iff_eq.1 hid) ((sees_iff u).1 hsees)
    simp only [Except.bind, visible, hsees, Bool.false_eq_true, if_false]

theorem Users.run_update_of_seen (hs : m.users.Sound) {u : User} (hu : u ∈ m.users.rows)
    (hown : p.Owns (.user u)) :
    (update p u.id c).run Memory.handle m = m.updateUser (c.apply u) := by
  simp only [update, bind_eq, run_bind, run_get_of_seen hs hu hown]
  exact run_call (.users (.update (c.apply u))) m

theorem Users.run_update_of_unseen (h : ∀ u ∈ m.users.rows, u.id = id → ¬ p.Owns (.user u)) :
    (update p id c).run Memory.handle m = (.error .noUser, m) := by
  simp only [update, bind_eq, run_bind, run_get_of_unseen h]

/-- A change of a user does just what it asks for. Who is missing or not to be seen is not found. Otherwise
another user's address comes before another user's phone among the reasons to refuse it; what is refused
changes nothing; and the own address and the own phone are no reason, however they are written. -/
theorem updates_do_what_they_ask (h : Reachable m) (p : Principal) (id : Id) (c : Users.Change) :
    let result := (Users.update p id c).run Memory.handle m
    ((∀ u ∈ m.users.rows, u.id = id → ¬ p.Owns (.user u)) →
      result = (.error (.notFound "user not found"), m)) ∧
    ∀ u ∈ m.users.rows, u.id = id → p.Owns (.user u) → ∃ v, c.Asks u v ∧
      (m.TakenByOther id (·.email) v.email → result = (.error .emailTaken, m)) ∧
      (¬ m.TakenByOther id (·.email) v.email → m.TakenByOther id (·.phone) v.phone →
        result = (.error .phoneTaken, m)) ∧
      (¬ m.TakenByOther id (·.email) v.email → ¬ m.TakenByOther id (·.phone) v.phone →
        result = (.ok v, m.withUser id v)) ∧
      (∀ email, c.email = some email → normalizeEmail email = u.email →
        result.1 ≠ .error .emailTaken) ∧
      ∀ phone, c.phone = some phone → Text.trim phone = u.phone →
        result.1 ≠ .error .phoneTaken := by
  intro result
  have hs := h.orderly.sound.users
  have hseparate := h.orderly.accounts
  refine ⟨fun hunseen => Users.run_update_of_unseen hunseen, ?_⟩
  rintro u hu rfl hown
  have hasks := c.asks_apply u
  have hresult : result = m.updateUser (c.apply u) := Users.run_update_of_seen hs hu hown
  have hemail : m.TakenByOther u.id (·.email) (c.apply u).email → result = (.error .emailTaken, m) :=
    fun htaken => hresult.trans (Memory.updateUser_of_email htaken)
  have hphone : ¬ m.TakenByOther u.id (·.email) (c.apply u).email →
      m.TakenByOther u.id (·.phone) (c.apply u).phone → result = (.error .phoneTaken, m) :=
    fun hfree htaken => hresult.trans (Memory.updateUser_of_phone hfree htaken)
  have hdone : ¬ m.TakenByOther u.id (·.email) (c.apply u).email →
      ¬ m.TakenByOther u.id (·.phone) (c.apply u).phone → result = (.ok (c.apply u), m.withUser u.id _) :=
    fun hfree hfree' => hresult.trans (Memory.updateUser_of_free hs hu rfl rfl hfree hfree')
  refine ⟨c.apply u, hasks, hemail, hphone, hdone, fun email hc hform htaken => ?_,
    fun phone hc hform htaken => ?_⟩
  · have hfree : ¬ m.TakenByOther u.id (·.email) (c.apply u).email := by
      rw [hasks.email.eq_of_form hc hform]
      exact Memory.not_takenByOther hseparate.1 hu
    by_cases hother : m.TakenByOther u.id (·.phone) (c.apply u).phone
    · rw [hphone hfree hother] at htaken
      cases htaken
    · rw [hdone hfree hother] at htaken
      cases htaken
  · have hfree : ¬ m.TakenByOther u.id (·.phone) (c.apply u).phone := by
      rw [hasks.phone.eq_of_form hc hform]
      exact Memory.not_takenByOther hseparate.2 hu
    by_cases hother : m.TakenByOther u.id (·.email) (c.apply u).email
    · rw [hemail hother] at htaken
      cases htaken
    · rw [hdone hother hfree] at htaken
      cases htaken

/-- Ada writes her own address in other letters, a blank name and a new phone: only the phone changes. With
Bob's phone as the new one, nothing does. -/
theorem own_address_is_written_again :
    ∃ (m : Memory) (u : User) (p : Principal), Reachable m ∧ u ∈ m.users.rows ∧ p = ⟨1, .customer⟩ ∧
      u.email = "ada@x.org" ∧
      (Users.update p 1 ⟨some " ", none, some " ADA@x.org", some " 3 "⟩).run Memory.handle m =
        (.ok { u with phone := "3" }, m.withUser 1 { u with phone := "3" }) ∧
      (Users.update p 1 ⟨some "Eve", none, some "ADA@x.org", some " 2"⟩).run Memory.handle m =
        (.error .phoneTaken, m) := by
  let s : Accounts.Settings := ⟨"k", 60, 4⟩
  let p : Principal := ⟨1, .customer⟩
  let u : User :=
    Memory.userRow 1 ⟨"Ada", "A", "ada@x.org", "1", .digest 4 (Password.key "secret")⟩ .customer ⟨0⟩
  let bob : User :=
    Memory.userRow 2 ⟨"Bob", "B", "bob@x.org", "2", .digest 4 (Password.key "secret")⟩ .customer ⟨0⟩
  obtain ⟨m, h, hrows⟩ : ∃ m, Reachable m ∧ m.users.rows = [u, bob] := by
    let e₁ := Act.event s (.registerCustomer ⟨"Ada", "A", "ada@x.org", "1", "secret"⟩)
      (Memory.empty ⟨0⟩)
    let e₂ := Act.event s (.registerCustomer ⟨"Bob", "B", "bob@x.org", "2", "secret"⟩) e₁.after
    have hrun : Run s [e₂, e₁] e₂.after := ((Run.start ⟨0⟩).act _).act _
    exact ⟨e₂.after, ⟨s, _, hrun⟩, by decide +kernel⟩
  have hu : u ∈ m.users.rows := by
    rw [hrows]
    exact List.mem_cons_self
  have htaken {column : User → String} {value : String} :
      m.TakenByOther 1 column value ↔ column bob = value := by
    simp [Memory.TakenByOther, hrows, u, bob, Memory.userRow]
  refine ⟨m, u, p, h, hu, rfl, rfl, ?_, ?_⟩
  · let c : Users.Change := ⟨some " ", none, some " ADA@x.org", some " 3 "⟩
    obtain ⟨v, hasks, -, -, hdone, -⟩ := (updates_do_what_they_ask h p 1 c).2 u hu rfl rfl
    obtain rfl : v = { u with phone := "3" } := hasks.eq_apply.trans (by decide +kernel)
    exact hdone (htaken.not.2 (by decide)) (htaken.not.2 (by decide))
  · let c : Users.Change := ⟨some "Eve", none, some "ADA@x.org", some " 2"⟩
    obtain ⟨v, hasks, -, hphone, -⟩ := (updates_do_what_they_ask h p 1 c).2 u hu rfl rfl
    obtain rfl : v = { u with firstName := "Eve", phone := "2" } :=
      hasks.eq_apply.trans (by decide +kernel)
    exact hphone (htaken.not.2 (by decide)) (htaken.2 rfl)

end Operation

end Depot
