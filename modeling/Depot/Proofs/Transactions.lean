import Depot.Proofs.License
import Depot.Sql.Repository
import Depot.Sql.Scripted
import Depot.Text.Pieces

namespace Depot.Sql

open Store Script

variable {α β σ : Type}

abbrev Exchange := Command × Except DatabaseFault Reply

def Script.talk (db : Database σ) : Script α → σ → List Exchange
  | .done _, _ | .fail _, _ => []
  | .send c next, s => (c, (db c s).1) :: (next (db c s).1).talk db (db c s).2

abbrev Sent := Statement × Except DatabaseFault Reply

def Sent.exchange (x : Sent) : Exchange := (.execute x.1, x.2)

def Exchange.sent? : Exchange → Option Sent
  | (.execute s, answer) => some (s, answer)
  | _ => none

def statements (talk : List Exchange) : List Sent := talk.filterMap Exchange.sent?

def RowKind.first? (k : RowKind α) (r : Reply) : Option α :=
  r.rows.head?.bind fun row => (k.read row).toOption

/-- What the reply says that is so many replies before the latest one, which comes first. -/
def RowKind.answer? (k : RowKind α) (replies : List Reply) (i : Nat) : Option α :=
  replies[i]?.bind k.first?

def drawing (table : String) : Statement :=
  ⟨"SELECT nextval(pg_get_serial_sequence($1, 'id'))", [.text table], sequence.columns⟩

/-- One statement of a write: what is sent after these replies, the latest one first, and which reply
to it will do. -/
structure Step where
  statement : List Reply → Option Statement
  enough : Reply → Bool

namespace Step

def row (k : RowKind α) (sql : String) (params : List Reply → Option (List Param)) : Step where
  statement replies := (params replies).map fun ps => ⟨sql, ps, k.columns⟩
  enough r := (k.first? r).isSome

def touching (sql : String) (params : List Param) : Step where
  statement _ := some ⟨sql, params, []⟩
  enough r := r.affected != 0

def number (table : String) : Step where
  statement _ := some (drawing table)
  enough r := (sequence.first? r).isSome

def Met (step : Step) (x : Sent) : Prop := ∃ r, x.2 = .ok r ∧ step.enough r

end Step

def plan (drawn : Nat) : Call → List Step
  | .organizations (.register o owner) =>
    [.number "organizations",
      .row organizations ("INSERT INTO organizations (id, code, name, website) " ++
          "VALUES ($1, $2, $3, $4) RETURNING *") fun replies => do
        let id ← sequence.answer? replies 0
        pure [.int id, .text (sequenceCode Code.organization id), .text o.name, .ofText? o.website],
      .number "roles",
      .row roles ("INSERT INTO roles (id, code, name, permissions, is_org_admin, organization_id) " ++
          "VALUES ($1, $2, $3, '\x7b\x7d', TRUE, $4) RETURNING *") fun replies => do
        let id ← sequence.answer? replies 0
        let organization ← organizations.answer? replies 1
        pure [.int id, .text (sequenceCode Code.role id), .text "Org Admin", .int organization.id],
      .row users ("INSERT INTO users ( first_name, last_name, email, phone, password_hash, " ++
          "is_member, organization_id, role_id ) VALUES ($1, $2, $3, $4, $5, TRUE, $6, $7) " ++
          "RETURNING *") fun replies => do
        let role ← roles.answer? replies 0
        let organization ← organizations.answer? replies 2
        pure [.text owner.firstName, .text owner.lastName, .text owner.email, .text owner.phone,
          .hash owner.passwordHash, .int organization.id, .int role.id]]
  | .organizations (.update o) =>
    [.row organizations ("UPDATE organizations SET name = $2, website = $3, is_archived = $4, " ++
        "updated_at = NOW() WHERE id = $1 RETURNING *") fun _ =>
      some [.int o.id, .text o.name, .ofText? o.website, .bool o.isArchived]]
  | .organizations (.delete id) => [.touching "DELETE FROM organizations WHERE id = $1" [.int id]]
  | .roles (.insert r) =>
    [.number "roles",
      .row roles ("INSERT INTO roles (id, code, name, permissions, is_org_admin, organization_id) " ++
          "VALUES ($1, $2, $3, $4, $5, $6) RETURNING *") fun replies => do
        let id ← sequence.answer? replies 0
        pure [.int id, .text (sequenceCode Code.role id), .text r.name, .texts r.permissions,
          .bool r.isOrgAdmin, .int r.organizationId]]
  | .roles (.update r) =>
    [.row roles ("UPDATE roles SET name = $2, permissions = $3, is_archived = $4, " ++
        "updated_at = NOW() WHERE id = $1 RETURNING *") fun _ =>
      some [.int r.id, .text r.name, .texts r.permissions, .bool r.isArchived]]
  | .roles (.delete id) => [.touching "DELETE FROM roles WHERE id = $1" [.int id]]
  | .users (.insert u) =>
    [.row users ("INSERT INTO users ( first_name, last_name, email, phone, password_hash, " ++
        "is_admin, is_member, is_customer, organization_id, role_id ) " ++
        "VALUES ($1, $2, $3, $4, $5, $6, $7, $8, $9, $10) RETURNING *") fun _ =>
      some [.text u.account.firstName, .text u.account.lastName, .text u.account.email,
        .text u.account.phone, .hash u.account.passwordHash, .bool u.kind.isAdmin,
        .bool u.kind.isMember, .bool u.kind.isCustomer, .ofInt? u.kind.organization?,
        .ofInt? u.kind.role?]]
  | .users (.insertCustomer a) =>
    [.row users ("INSERT INTO users (first_name, last_name, email, phone, password_hash, " ++
        "is_customer) VALUES ($1, $2, $3, $4, $5, TRUE) RETURNING *") fun _ =>
      some [.text a.firstName, .text a.lastName, .text a.email, .text a.phone,
        .hash a.passwordHash],
      .row profiles "INSERT INTO profiles (user_id, referral_code) VALUES ($1, $2) RETURNING *"
        fun replies => do
          let user ← users.answer? replies 0
          pure [.int user.id, .text (referralCode drawn)]]
  | .users (.update u) =>
    [.row users ("UPDATE users SET first_name = $2, last_name = $3, email = $4, phone = $5, " ++
        "updated_at = NOW() WHERE id = $1 RETURNING *") fun _ =>
      some [.int u.id, .text u.firstName, .text u.lastName, .text u.email, .text u.phone]]
  | .users (.updatePassword id hash) =>
    [.touching "UPDATE users SET password_hash = $2, updated_at = NOW() WHERE id = $1"
      [.int id, .hash hash]]
  | .users (.delete id) => [.touching "DELETE FROM users WHERE id = $1" [.int id]]
  | .containers (.insert c) =>
    [.number "containers",
      .row containers ("INSERT INTO containers (id, uid, code, description, organization_id, " ++
          "created_by_id) VALUES ($1, $2, $3, $4, $5, $6) RETURNING *") fun replies => do
        let id ← sequence.answer? replies 0
        pure [.int id, .uid (Uid.drawn drawn), .text (sequenceCode Code.container id),
          .ofText? c.description, .int c.organizationId, .int c.createdById]]
  | .containers (.update c) =>
    [.row containers ("UPDATE containers SET description = $2, is_archived = $3, " ++
        "updated_at = NOW() WHERE id = $1 RETURNING *") fun _ =>
      some [.int c.id, .ofText? c.description, .bool c.isArchived]]
  | .containers (.delete id) => [.touching "DELETE FROM containers WHERE id = $1" [.int id]]
  | .pallets (.insert x) =>
    [.number "pallets",
      .row pallets ("INSERT INTO pallets ( id, uid, code, description, organization_id, " ++
          "container_id, created_by_id ) VALUES ($1, $2, $3, $4, $5, $6, $7) RETURNING *")
        fun replies => do
          let id ← sequence.answer? replies 0
          pure [.int id, .uid (Uid.drawn drawn), .text (sequenceCode Code.pallet id),
            .ofText? x.description, .int x.organizationId, .ofInt? x.containerId,
            .int x.createdById]]
  | .pallets (.update x) =>
    [.row pallets ("UPDATE pallets SET description = $2, container_id = $3, is_archived = $4, " ++
        "updated_at = NOW() WHERE id = $1 RETURNING *") fun _ =>
      some [.int x.id, .ofText? x.description, .ofInt? x.containerId, .bool x.isArchived]]
  | .pallets (.delete id) => [.touching "DELETE FROM pallets WHERE id = $1" [.int id]]
  | _ => []

variable {step : Step} {steps : List Step} {earlier : List Reply} {sent : List Sent}

/-- Statements in the order of the steps, up to the first one that is not answered as it needs. -/
inductive Keeps : List Step → List Reply → List Sent → Prop
  | complete {earlier : List Reply} : Keeps [] earlier []
  | stopped {step : Step} {steps : List Step} {earlier : List Reply} {x : Sent}
    (hs : step.statement earlier = some x.1) (hx : ¬ step.Met x) : Keeps (step :: steps) earlier [x]
  | met {step : Step} {steps : List Step} {earlier : List Reply} {s : Statement} {r : Reply}
    {sent : List Sent} (hs : step.statement earlier = some s) (hr : step.enough r)
    (h : Keeps steps (r :: earlier) sent) : Keeps (step :: steps) earlier ((s, .ok r) :: sent)

abbrev Complete (steps : List Step) (sent : List Sent) : Prop := List.Forall₂ Step.Met steps sent

/-- What may be said from here to the end of a transaction, and whether it succeeds. -/
inductive Closes (steps : List Step) (earlier : List Reply) : List Exchange → Bool → Prop
  | abandoned {sent : List Sent} {answer : Except DatabaseFault Reply} (h : Keeps steps earlier sent)
    (hsent : ¬ Complete steps sent) :
    Closes steps earlier (sent.map Sent.exchange ++ [(.rollback, answer)]) false
  | uncommitted {sent : List Sent} {fault : DatabaseFault} {answer : Except DatabaseFault Reply}
    (h : Keeps steps earlier sent) (hsent : Complete steps sent) :
    Closes steps earlier
      (sent.map Sent.exchange ++ [(.commit, .error fault), (.rollback, answer)]) false
  | committed {sent : List Sent} {r : Reply} (h : Keeps steps earlier sent)
    (hsent : Complete steps sent) :
    Closes steps earlier (sent.map Sent.exchange ++ [(.commit, .ok r)]) true

/-- What may be said in a transaction over these steps. Nothing follows if it cannot be begun. -/
inductive Transacts (steps : List Step) : List Exchange → Bool → Prop
  | refused {fault : DatabaseFault} : Transacts steps [(.begin, .error fault)] false
  | begun {r : Reply} {talk : List Exchange} {succeeds : Bool} (h : Closes steps [] talk succeeds) :
    Transacts steps ((.begin, .ok r) :: talk) succeeds

namespace Script

/-- The script sends the statements of the steps and gives up at the first answer that will not do. -/
inductive Follows : List Step → List Reply → Script α → Prop
  | done {earlier : List Reply} {a : α} : Follows [] earlier (.done a)
  | send {step : Step} {steps : List Step} {earlier : List Reply} {s : Statement}
    {next : Except DatabaseFault Reply → Script α} (hs : step.statement earlier = some s)
    (hstop : ∀ answer, ¬ step.Met (s, answer) → ∃ e, next answer = .fail e)
    (hnext : ∀ r, step.enough r → Follows steps (r :: earlier) (next (.ok r))) :
    Follows (step :: steps) earlier (.send (.execute s) next)

theorem bind_done (p : Script α) : p.bind .done = p := by
  induction p with
  | done | fail => rfl
  | send c next ih => simp only [bind, ih]

variable {s : Statement} {k : RowKind α} {blame : DatabaseFault → Error} {get : Reply → Option α}

/-- The script is one statement, and its outcome is what the reply to it says. -/
def Asks (s : Statement) (get : Reply → Option α) (p : Script α) : Prop :=
  ∃ next, p = .send (.execute s) next ∧ (∀ fault, ∃ e, next (.error fault) = .fail e) ∧
    ∀ r, match get r with
      | some a => next (.ok r) = .done a
      | none => ∃ e, next (.ok r) = .fail e

theorem asks_row {g : Option α → Script α} (hsome : ∀ a, g (some a) = .done a)
    (hnone : ∃ e, g none = .fail e) : Asks s k.first? ((first? blame k s).bind g) := by
  refine ⟨_, rfl, fun fault => ⟨blame fault, rfl⟩, fun ⟨rows, affected⟩ => ?_⟩
  cases rows with
  | nil => exact hnone
  | cons row rows =>
    change match (k.read row).toOption with
      | some a => ((some <$> lift blame (k.read row)).bind g) = .done a
      | none => ∃ e, ((some <$> lift blame (k.read row)).bind g) = .fail e
    cases k.read row with
    | ok a => exact hsome a
    | error fault => exact ⟨blame fault, rfl⟩

theorem asks_first : Asks s k.first? (first blame k s) :=
  asks_row (fun _ => rfl) ⟨blame .noRow, rfl⟩

theorem asks_found : Asks s k.first? (found blame k s) :=
  asks_row (fun _ => rfl) ⟨k.missing, rfl⟩

theorem asks_touch {missing : Error} :
    Asks s (fun r => if r.affected = 0 then none else some ()) (touch blame missing s) := by
  refine ⟨_, rfl, fun fault => ⟨blame fault, rfl⟩, fun ⟨rows, affected⟩ => ?_⟩
  cases affected with
  | zero => exact ⟨missing, rfl⟩
  | succ n => rfl

namespace Follows

theorem bind {p : Script α} {f : α → Script β} (hp : Asks s get p)
    (hs : step.statement earlier = some s) (henough : ∀ r, step.enough r = (get r).isSome)
    (hf : ∀ r a, get r = some a → Follows steps (r :: earlier) (f a)) :
    Follows (step :: steps) earlier (p.bind f) := by
  obtain ⟨next, rfl, hrefused, hnext⟩ := hp
  refine .send hs (fun answer hanswer => ?_) fun r hr => ?_
  · cases answer with
    | error fault =>
      obtain ⟨e, he⟩ := hrefused fault
      exact ⟨e, by rw [he, Script.bind]⟩
    | ok r =>
      have hr := hnext r
      cases hget : get r with
      | none =>
        rw [hget] at hr
        obtain ⟨e, he⟩ := hr
        exact ⟨e, by rw [he, Script.bind]⟩
      | some a => exact absurd ⟨r, rfl, by rw [henough, hget]; rfl⟩ hanswer
  · have hr' := hnext r
    rw [henough] at hr
    obtain ⟨a, hget⟩ := Option.isSome_iff_exists.1 hr
    rw [hget] at hr'
    rw [hr', Script.bind]
    exact hf r a hget

theorem single {p : Script α} (hp : Asks s get p) (hs : step.statement earlier = some s)
    (henough : ∀ r, step.enough r = (get r).isSome) : Follows [step] earlier p := by
  rw [← bind_done p]
  exact bind hp hs henough fun _ _ _ => .done

end Follows

end Script

theorem Step.row_statement {k : RowKind α} {sql text : String} {replies : List Reply}
    {params : List Reply → Option (List Param)} {ps : List Param} (htext : text = sql)
    (hparams : params replies = some ps) :
    (Step.row k sql params).statement replies = some (k.statement text ps) := by
  simp only [Step.row, hparams, htext]
  rfl

theorem Step.enough_touching {sql : String} {params : List Param} (r : Reply) :
    (Step.touching sql params).enough r = (if r.affected = 0 then none else some ()).isSome := by
  by_cases h : r.affected = 0 <;> simp [touching, h]

theorem follows_numbered (k : RowKind α) {columns values sql : String} {params : Id → List Param}
    (hsql : "INSERT INTO " ++ k.table ++ " (" ++ columns ++ ") VALUES (" ++ values ++ ") RETURNING *" =
      sql) :
    Follows [.number k.table,
        .row k sql fun replies => do
          let id ← sequence.answer? replies 0
          pure (params id)] [] (k.nextId.bind fun id => k.insert columns values (params id)) := by
  refine .bind asks_first rfl (fun _ => rfl) fun r id hid => ?_
  refine .single asks_first (Step.row_statement hsql ?_) fun _ => rfl
  have hread : sequence.answer? [r] 0 = some id := hid
  rw [hread]
  rfl

theorem follows_registration (o : NewOrganization) (owner : NewAccount) (drawn : Nat) :
    Follows (plan drawn (.organizations (.register o owner))) [] (register o owner) := by
  refine .bind asks_first rfl (fun _ => rfl) fun r₀ organizationId h₀ => ?_
  refine .bind asks_first (Step.row_statement (by decide +kernel) ?_) (fun _ => rfl)
    fun r₁ organization h₁ => ?_
  · have hread : sequence.answer? [r₀] 0 = some organizationId := h₀
    rw [hread]
    rfl
  refine .bind asks_first rfl (fun _ => rfl) fun r₂ roleId h₂ => ?_
  refine .bind asks_first (Step.row_statement (by decide +kernel) ?_) (fun _ => rfl)
    fun r₃ role h₃ => ?_
  · have hread : sequence.answer? [r₂, r₁, r₀] 0 = some roleId := h₂
    have hread' : organizations.answer? [r₂, r₁, r₀] 1 = some organization := h₁
    rw [hread, hread']
    rfl
  refine .bind asks_first (Step.row_statement (by decide +kernel) ?_) (fun _ => rfl)
    fun _ _ _ => .done
  have hread : roles.answer? [r₃, r₂, r₁, r₀] 0 = some role := h₃
  have hread' : organizations.answer? [r₃, r₂, r₁, r₀] 2 = some organization := h₁
  rw [hread, hread']
  rfl

theorem follows_customer (a : NewAccount) (drawn : Nat) :
    Follows (plan drawn (.users (.insertCustomer a))) [] (insertCustomer drawn a) := by
  refine .bind asks_first (Step.row_statement (by decide +kernel) rfl) (fun _ => rfl)
    fun r user hr => ?_
  refine .bind asks_first (Step.row_statement (by decide +kernel) ?_) (fun _ => rfl)
    fun _ _ _ => .done
  have hread : users.answer? [r] 0 = some user := hr
  rw [hread]
  rfl

theorem exists_transaction {c : Call} (hc : ¬ c.IsRead) (drawn : Nat) :
    ∃ body, script drawn c = transaction body ∧ Follows (plan drawn c) [] body := by
  have hupdate {α : Type} {k : RowKind α} {blame : DatabaseFault → Error} {text sql : String}
      {ps : List Param} (htext : text = sql) :
      Follows [.row k sql fun _ => some ps] [] (found blame k (k.statement text ps)) :=
    .single asks_found (Step.row_statement htext rfl) fun _ => rfl
  have htouch {blame : DatabaseFault → Error} {missing : Error} {text sql : String}
      {ps : List Param} (htext : text = sql) :
      Follows [.touching sql ps] [] (touch blame missing ⟨text, ps, []⟩) := by
    subst htext
    exact .single asks_touch rfl Step.enough_touching
  cases c with
  | organizations c =>
    cases c with
    | register o owner => exact ⟨_, rfl, follows_registration o owner drawn⟩
    | update o => exact ⟨_, rfl, hupdate (by decide +kernel)⟩
    | delete id => exact ⟨_, rfl, htouch (by decide +kernel)⟩
    | _ => exact absurd trivial hc
  | roles c =>
    cases c with
    | insert r => exact ⟨_, rfl, follows_numbered roles (by decide +kernel)⟩
    | update r => exact ⟨_, rfl, hupdate (by decide +kernel)⟩
    | delete id => exact ⟨_, rfl, htouch (by decide +kernel)⟩
    | _ => exact absurd trivial hc
  | users c =>
    cases c with
    | insert u =>
      exact ⟨_, rfl, .single asks_first (Step.row_statement (by decide +kernel) rfl) fun _ => rfl⟩
    | insertCustomer a => exact ⟨_, rfl, follows_customer a drawn⟩
    | update u => exact ⟨_, rfl, hupdate (by decide +kernel)⟩
    | updatePassword id hash => exact ⟨_, rfl, htouch rfl⟩
    | delete id => exact ⟨_, rfl, htouch (by decide +kernel)⟩
    | _ => exact absurd trivial hc
  | profiles c => cases c <;> exact absurd trivial hc
  | containers c =>
    cases c with
    | insert c => exact ⟨_, rfl, follows_numbered containers (by decide +kernel)⟩
    | update c => exact ⟨_, rfl, hupdate (by decide +kernel)⟩
    | delete id => exact ⟨_, rfl, htouch (by decide +kernel)⟩
    | _ => exact absurd trivial hc
  | pallets c =>
    cases c with
    | insert p => exact ⟨_, rfl, follows_numbered pallets (by decide +kernel)⟩
    | update p => exact ⟨_, rfl, hupdate (by decide +kernel)⟩
    | delete id => exact ⟨_, rfl, htouch (by decide +kernel)⟩
    | _ => exact absurd trivial hc

theorem Closes.met {s : Statement} {r : Reply} {talk : List Exchange} {succeeds : Bool}
    (hs : step.statement earlier = some s) (hr : step.enough r)
    (h : Closes steps (r :: earlier) talk succeeds) :
    Closes (step :: steps) earlier ((.execute s, .ok r) :: talk) succeeds := by
  have hmet : step.Met (s, .ok r) := ⟨r, rfl, hr⟩
  cases h with
  | abandoned h hsent => exact .abandoned (.met hs hr h) fun hall => hsent (List.forall₂_cons.1 hall).2
  | uncommitted h hsent => exact .uncommitted (.met hs hr h) (.cons hmet hsent)
  | committed h hsent => exact .committed (.met hs hr h) (.cons hmet hsent)

theorem Script.Follows.close {p : Script α} (h : Follows steps earlier p) (db : Database σ) (s : σ) :
    Closes steps earlier (p.close.talk db s) (p.close.run db s).1.isOk := by
  induction h generalizing s with
  | @done earlier a =>
    simp only [Script.close, talk, run]
    cases hcommit : (db .commit s).1 with
    | ok r => exact .committed .complete .nil
    | error fault => exact .uncommitted .complete .nil
  | @send step steps earlier statement next hs hstop hnext ih =>
    simp only [Script.close, talk, run]
    by_cases hmet : step.Met (statement, (db (.execute statement) s).1)
    · obtain ⟨r, hanswer, hr⟩ := hmet
      dsimp only at hanswer
      rw [hanswer]
      exact .met hs hr (ih r hr _)
    · obtain ⟨e, he⟩ := hstop _ hmet
      rw [he]
      exact .abandoned (.stopped hs hmet) fun hall => hmet (List.forall₂_cons.1 hall).1

theorem Script.Follows.transaction {body : Script α} (h : Follows steps [] body) (db : Database σ)
    (s : σ) :
    Transacts steps ((Script.transaction body).talk db s)
      ((Script.transaction body).run db s).1.isOk := by
  simp only [Script.transaction, talk, run]
  cases (db .begin s).1 with
  | ok r => exact .begun (h.close db _)
  | error fault => exact .refused

theorem statements_exchange {ending : List Exchange} (h : statements ending = []) :
    statements (sent.map Sent.exchange ++ ending) = sent := by
  have hsent : Exchange.sent? ∘ Sent.exchange = some := rfl
  have hending : ending.filterMap Exchange.sent? = [] := h
  rw [statements, List.filterMap_append, List.filterMap_map, hsent, List.filterMap_some, hending,
    List.append_nil]

variable {talk : List Exchange} {succeeds : Bool}

@[simp] theorem Sent.exchange_ne_commit (x : Sent) (answer : Except DatabaseFault Reply) :
    x.exchange ≠ (.commit, answer) := by
  rintro ⟨⟩

namespace Closes

theorem keeps (h : Closes steps earlier talk succeeds) : Keeps steps earlier (statements talk) := by
  cases h with
  | abandoned h | uncommitted h | committed h =>
    rw [statements_exchange rfl]
    exact h

theorem commit_iff (h : Closes steps earlier talk succeeds) :
    (∃ answer, (.commit, answer) ∈ talk) ↔ Complete steps (statements talk) := by
  cases h with
  | abandoned _ hsent =>
    rw [statements_exchange rfl]
    simpa using hsent
  | uncommitted _ hsent | committed _ hsent =>
    rw [statements_exchange rfl]
    simpa using hsent

theorem succeeds_iff (h : Closes steps earlier talk succeeds) :
    succeeds = true ↔ ∃ r, (.commit, .ok r) ∈ talk := by
  cases h <;> simp

theorem rollback (h : Closes steps earlier talk false) :
    ∃ answer, talk.getLast? = some (.rollback, answer) := by
  cases h with
  | @abandoned _ answer | @uncommitted _ _ answer => exact ⟨answer, by simp⟩

end Closes

def insertsInto? (sql : String) : Option String :=
  if "INSERT INTO ".toList.isPrefixOf sql.toList then
    some (String.ofList ((sql.toList.drop 12).takeWhile (· != ' ')))
  else none

/-- What stands between the next brackets, at its commas, and what comes after them. -/
def listed (text : List Char) : List (List Char) × List Char :=
  let inner := (text.dropWhile (· != '(')).drop 1
  (Text.pieces (· == ',') ((inner.takeWhile (· != ')')).filter (· != ' ')),
    inner.dropWhile (· != ')'))

/-- The place of the parameter that a statement of this text gives to a column of the new row. -/
def placeOf? (sql column : String) : Option Nat := do
  let (columns, rest) := listed sql.toList
  let place ← columns.idxOf? column.toList
  match (listed rest).1[place]? with
  | some ('$' :: digits) => some (digits.foldl (fun n c => 10 * n + (c.toNat - '0'.toNat)) 0 - 1)
  | _ => none

def Statement.bound? (s : Statement) (column : String) : Option Param :=
  (placeOf? s.sql column).bind (s.params[·]?)

def lettered : List (String × String) :=
  [("organizations", Code.organization), ("roles", Code.role), ("containers", Code.container),
    ("pallets", Code.pallet)]

example : placeOf? "INSERT INTO roles (id, code) VALUES ($1, $12) RETURNING *" "code" = some 11 := by
  decide +kernel

/-- A step that adds a row with a code comes right after the one that draws a number of the table, and
makes the code from that number. -/
def Step.Lettered (previous : Option Step) (step : Step) : Prop :=
  ∀ earlier s, step.statement earlier = some s → ∀ y ∈ lettered, insertsInto? s.sql = some y.1 →
    previous = some (.number y.1) ∧ ∃ id, sequence.answer? earlier 0 = some id ∧
      s.bound? "code" = some (.text (sequenceCode y.2 id))

def Lettered : Option Step → List Step → Prop
  | _, [] => True
  | previous, step :: steps => step.Lettered previous ∧ Lettered (some step) steps

section

variable {k : RowKind α} {sql : String} {params : List Reply → Option (List Param)}
variable {previous : Option Step}

theorem Step.lettered_of_text (hsql : ∀ earlier s, step.statement earlier = some s → s.sql = sql)
    (h : (lettered.all fun y => insertsInto? sql != some y.1) = true) : step.Lettered previous := by
  intro earlier s hs y hy hinto
  rw [hsql earlier s hs] at hinto
  have hnot := List.all_eq_true.1 h y hy
  simp [hinto] at hnot

theorem Step.row_sql : ∀ earlier s, (Step.row k sql params).statement earlier = some s → s.sql = sql := by
  intro earlier s hs
  obtain ⟨ps, -, rfl⟩ := Option.map_eq_some_iff.1 hs
  rfl

theorem Step.touching_sql {ps : List Param} :
    ∀ earlier s, (Step.touching sql ps).statement earlier = some s → s.sql = sql := by
  rintro earlier s ⟨⟩
  rfl

theorem Step.number_lettered {table : String} : (Step.number table).Lettered previous := by
  have htext : ∀ earlier s, (Step.number table).statement earlier = some s →
      s.sql = (drawing "").sql := by
    rintro earlier s ⟨⟩
    rfl
  exact Step.lettered_of_text htext (by decide +kernel)

theorem Step.row_lettered {table : String} (letters : String) (i : Nat)
    (htext : insertsInto? sql = some table ∧ placeOf? sql "code" = some i ∧
      ∀ y ∈ lettered, y.1 = table → y.2 = letters)
    (hcode : ∀ replies ps, params replies = some ps → ∃ id, sequence.answer? replies 0 = some id ∧
      ps[i]? = some (.text (sequenceCode letters id))) :
    (Step.row k sql params).Lettered (some (.number table)) := by
  intro earlier s hs y hy hinto
  obtain ⟨hsql, hplace, hletters⟩ := htext
  obtain ⟨ps, hps, rfl⟩ := Option.map_eq_some_iff.1 hs
  obtain ⟨id, hid, hbound⟩ := hcode earlier ps hps
  have htable : y.1 = table := Option.some.inj (hinto.symm.trans hsql)
  refine ⟨by rw [htable], id, hid, ?_⟩
  rw [hletters y hy htable, Statement.bound?, hplace]
  exact hbound

theorem numbered_lettered {table : String} (letters : String) (i : Nat) {params : Id → List Param}
    (htext : insertsInto? sql = some table ∧ placeOf? sql "code" = some i ∧
      ∀ y ∈ lettered, y.1 = table → y.2 = letters)
    (hcode : ∀ id, (params id)[i]? = some (.text (sequenceCode letters id))) :
    Lettered previous [.number table,
      .row k sql fun replies => do
        let id ← sequence.answer? replies 0
        pure (params id)] := by
  refine ⟨Step.number_lettered, Step.row_lettered letters i htext fun replies ps hps => ?_, trivial⟩
  obtain ⟨id, hid, hps⟩ := Option.bind_eq_some_iff.1 hps
  cases hps
  exact ⟨id, hid, hcode id⟩

end

theorem registration_lettered (o : NewOrganization) (owner : NewAccount) (drawn : Nat) :
    Lettered none (plan drawn (.organizations (.register o owner))) := by
  refine ⟨Step.number_lettered,
    Step.row_lettered Code.organization 1 (by decide +kernel) fun replies ps hps => ?_,
    Step.number_lettered,
    Step.row_lettered Code.role 1 (by decide +kernel) fun replies ps hps => ?_,
    Step.lettered_of_text Step.row_sql (by decide +kernel), trivial⟩
  · obtain ⟨id, hid, hps⟩ := Option.bind_eq_some_iff.1 hps
    cases hps
    exact ⟨id, hid, rfl⟩
  · obtain ⟨id, hid, hps⟩ := Option.bind_eq_some_iff.1 hps
    obtain ⟨organization, -, hps⟩ := Option.bind_eq_some_iff.1 hps
    cases hps
    exact ⟨id, hid, rfl⟩

theorem plan_lettered (drawn : Nat) (c : Call) : Lettered none (plan drawn c) := by
  have hrow {α : Type} {k : RowKind α} {sql : String} {params : List Reply → Option (List Param)}
      (h : (lettered.all fun y => insertsInto? sql != some y.1) = true) :
      Lettered none [.row k sql params] :=
    ⟨Step.lettered_of_text Step.row_sql h, trivial⟩
  have htouch {sql : String} {ps : List Param}
      (h : (lettered.all fun y => insertsInto? sql != some y.1) = true) :
      Lettered none [.touching sql ps] :=
    ⟨Step.lettered_of_text Step.touching_sql h, trivial⟩
  cases c with
  | organizations c =>
    cases c with
    | register o owner => exact registration_lettered o owner drawn
    | update o => exact hrow (by decide +kernel)
    | delete id => exact htouch (by decide +kernel)
    | _ => exact trivial
  | roles c =>
    cases c with
    | insert r => exact numbered_lettered Code.role 1 (by decide +kernel) fun _ => rfl
    | update r => exact hrow (by decide +kernel)
    | delete id => exact htouch (by decide +kernel)
    | _ => exact trivial
  | users c =>
    cases c with
    | insert u => exact hrow (by decide +kernel)
    | insertCustomer a =>
      exact ⟨Step.lettered_of_text Step.row_sql (by decide +kernel),
        Step.lettered_of_text Step.row_sql (by decide +kernel), trivial⟩
    | update u => exact hrow (by decide +kernel)
    | updatePassword id hash => exact htouch (by decide +kernel)
    | delete id => exact htouch (by decide +kernel)
    | _ => exact trivial
  | profiles c => exact trivial
  | containers c =>
    cases c with
    | insert c => exact numbered_lettered Code.container 2 (by decide +kernel) fun _ => rfl
    | update c => exact hrow (by decide +kernel)
    | delete id => exact htouch (by decide +kernel)
    | _ => exact trivial
  | pallets c =>
    cases c with
    | insert p => exact numbered_lettered Code.pallet 2 (by decide +kernel) fun _ => rfl
    | update p => exact hrow (by decide +kernel)
    | delete id => exact htouch (by decide +kernel)
    | _ => exact trivial

/-- If the statement adds a row with a code, the last one before drew a number of the table, and the
code that is bound is made from this number. -/
def CodeDrawn (before : List Sent) (s : Statement) : Prop :=
  ∀ y ∈ lettered, insertsInto? s.sql = some y.1 → ∃ before' r id,
    before = before' ++ [(drawing y.1, .ok r)] ∧ sequence.first? r = some id ∧
      s.bound? "code" = some (.text (sequenceCode y.2 id))

def Drawn (previous : Option Step) (past : List Sent) (earlier : List Reply) : Prop :=
  ∀ table, previous = some (.number table) →
    ∃ past' r rest, past = past' ++ [(drawing table, .ok r)] ∧ earlier = r :: rest

theorem Step.Lettered.code {s : Statement} {previous : Option Step} {past : List Sent}
    (h : step.Lettered previous) (hpast : Drawn previous past earlier)
    (hs : step.statement earlier = some s) : CodeDrawn past s := by
  intro y hy hinto
  obtain ⟨hprevious, id, hid, hbound⟩ := h earlier s hs y hy hinto
  obtain ⟨past', r, rest, rfl, rfl⟩ := hpast y.1 hprevious
  exact ⟨past', r, id, rfl, hid, hbound⟩

theorem Keeps.code (h : Keeps steps earlier sent) {previous : Option Step} {past : List Sent}
    (hsteps : Lettered previous steps) (hpast : Drawn previous past earlier)
    {before after : List Sent} {x : Sent} (hsent : sent = before ++ x :: after) :
    CodeDrawn (past ++ before) x.1 := by
  induction h generalizing previous past before with
  | complete => simp at hsent
  | stopped hs hx =>
    cases before with
    | nil =>
      obtain ⟨rfl, -⟩ := List.cons_eq_cons.1 hsent
      rw [List.append_nil]
      exact hsteps.1.code hpast hs
    | cons b before => simp at hsent
  | @met step steps earlier s r sent hs hr h ih =>
    cases before with
    | nil =>
      obtain ⟨rfl, -⟩ := List.cons_eq_cons.1 hsent
      rw [List.append_nil]
      exact hsteps.1.code hpast hs
    | cons b before =>
      obtain ⟨rfl, hsent'⟩ := List.cons_eq_cons.1 hsent
      rw [← List.singleton_append, ← List.append_assoc]
      refine ih hsteps.2 (fun table htable => ?_) hsent'
      cases htable
      cases hs
      exact ⟨past, r, earlier, rfl, rfl⟩

namespace Transacts

theorem commit_iff (h : Transacts steps talk succeeds) :
    (∃ answer, (.commit, answer) ∈ talk) ↔
      (∃ r, (.begin, .ok r) ∈ talk) ∧ Complete steps (statements talk) := by
  cases h with
  | refused => simp
  | @begun r talk _ h =>
    have hstatements : statements ((.begin, .ok r) :: talk) = statements talk := rfl
    rw [hstatements]
    simpa using h.commit_iff

theorem succeeds_iff (h : Transacts steps talk succeeds) :
    succeeds = true ↔ ∃ r, (.commit, .ok r) ∈ talk := by
  cases h with
  | refused => simp
  | begun h => simpa using h.succeeds_iff

theorem rollback (h : Transacts steps talk false) (hbegun : ∃ r, (.begin, .ok r) ∈ talk) :
    ∃ answer, talk.getLast? = some (.rollback, answer) := by
  cases h with
  | refused => simp at hbegun
  | begun h =>
    obtain ⟨answer, hlast⟩ := h.rollback
    exact ⟨answer, by rw [List.getLast?_cons, hlast]; rfl⟩

theorem code (h : Transacts steps talk succeeds) (hsteps : Lettered none steps)
    {before after : List Sent} {x : Sent} (hsent : statements talk = before ++ x :: after) :
    CodeDrawn before x.1 := by
  cases h with
  | refused => cases before <;> cases hsent
  | begun h => exact h.keeps.code hsteps (nofun : Drawn none [] []) hsent

end Transacts

/-- However the database answers, a write is one transaction over its statements. It is committed just
if all of them were answered as they need; the write succeeds just if the commit did, and what was begun
is rolled back otherwise. A code is always made from the number drawn for it. -/
theorem writes_are_transactions {c : Call} (hc : ¬ c.IsRead) (db : Database σ) (s : σ) (drawn : Nat) :
    let talk := (script drawn c).talk db s
    let succeeds := ((script drawn c).run db s).1.isOk
    Transacts (plan drawn c) talk succeeds ∧
      ((∃ answer, (.commit, answer) ∈ talk) ↔
        (∃ r, (.begin, .ok r) ∈ talk) ∧ Complete (plan drawn c) (statements talk)) ∧
      (succeeds = true ↔ ∃ r, (.commit, .ok r) ∈ talk) ∧
      ((∃ r, (.begin, .ok r) ∈ talk) → succeeds = false →
        ∃ answer, talk.getLast? = some (.rollback, answer)) ∧
      ∀ before x after, statements talk = before ++ x :: after → CodeDrawn before x.1 := by
  intro talk succeeds
  have h : Transacts (plan drawn c) talk succeeds := by
    obtain ⟨body, hbody, hfollows⟩ := exists_transaction hc drawn
    simp only [talk, succeeds, hbody]
    exact hfollows.transaction db s
  refine ⟨h, h.commit_iff, h.succeeds_iff, fun hbegun hfalse => ?_, fun before x after hsent => ?_⟩
  · exact (hfalse ▸ h).rollback hbegun
  · exact h.code (plan_lettered drawn c) hsent

/-- A role is numbered 7 and sent with the code that belongs to this number, but the database refuses
the row. -/
theorem refused_row_is_rolled_back :
    ∃ (c : Call) (db : Scripted) (before : List Sent) (x : Sent), ¬ c.IsRead ∧
      statements ((script 0 c).talk Scripted.respond db) = before ++ [x] ∧
      insertsInto? x.1.sql = some "roles" ∧ CodeDrawn before x.1 ∧
      x.1.bound? "code" = some (.text "ROLE00007") ∧
      (∀ r, (.commit, .ok r) ∉ (script 0 c).talk Scripted.respond db) ∧
      ∃ answer, ((script 0 c).talk Scripted.respond db).getLast? = some (.rollback, answer) := by
  let c : Call := .roles (.insert ⟨"R", ["Read Role"], false, 1⟩)
  let number : Reply := ⟨[[("nextval", .int 7)]], 1⟩
  let fault : DatabaseFault := .refused .unique (some "roles_code_key")
  let db : Scripted := ⟨[fun _ => .ok number, fun _ => .error fault], fun _ => none, []⟩
  let row : Statement := roles.statement
    ("INSERT INTO roles (id, code, name, permissions, is_org_admin, organization_id) " ++
      "VALUES ($1, $2, $3, $4, $5, $6) RETURNING *")
    [.int 7, .text (sequenceCode Code.role 7), .text "R", .texts ["Read Role"], .bool false, .int 1]
  have hc : ¬ c.IsRead := fun h => h
  have hsent : statements ((script 0 c).talk Scripted.respond db) =
      [(drawing "roles", .ok number)] ++ [(row, .error fault)] := by decide +kernel
  have hbegun : ∃ r, (.begin, .ok r) ∈ (script 0 c).talk Scripted.respond db :=
    ⟨_, List.mem_cons_self⟩
  obtain ⟨-, -, hsucceeds, hrollback, hcode⟩ := writes_are_transactions hc Scripted.respond db 0
  have hfails : ((script 0 c).run Scripted.respond db).1.isOk = false := rfl
  refine ⟨c, db, _, _, hc, hsent, by decide +kernel, hcode _ _ _ hsent, by decide +kernel,
    fun r hr => ?_, hrollback hbegun hfails⟩
  rw [hsucceeds.2 ⟨r, hr⟩] at hfails
  cases hfails

end Depot.Sql
