import Depot.Config
import Depot.Proofs.Addresses
import Depot.Proofs.Grants
import Depot.Proofs.Noninterference
import Depot.Proofs.Passwords

namespace Depot

namespace Store.Memory

/-- An organization with the role that administers it and a member who holds the role, all stored. -/
structure Founded (m : Memory) (o : Organization) (r : Role) (u : User) : Prop where
  organization : o ∈ m.organizations.rows
  role : r ∈ m.roles.rows
  user : u ∈ m.users.rows
  administers : r.isOrgAdmin
  belongs : r.organizationId = o.id
  member : u.isMember
  organizationId : u.organizationId = some o.id
  roleId : u.roleId = some r.id
  principal : u.principal = .ok ⟨u.id, .member o.id r.id⟩

variable {m : Memory}

theorem checkAccount_of_fresh {users : List User} {email phone : String}
    (hemail : ∀ u ∈ users, u.email ≠ email) (hphone : ∀ u ∈ users, u.phone ≠ phone) :
    checkAccount users email phone = .ok () := by
  have hnoemail : ¬ users.any (·.email == email) := by simpa using hemail
  have hnophone : ¬ users.any (·.phone == phone) := by simpa using hphone
  rw [checkAccount, if_neg hnoemail, if_neg hnophone]

theorem register_of_fresh {new : NewOrganization} {owner : NewAccount}
    (hcheck : checkAccount m.users.rows owner.email owner.phone = .ok ()) :
    ∃ o r u, (m.register new owner).1 = .ok (o, r, u) ∧ (m.register new owner).2.Founded o r u ∧
      m.AddsUser (.organizations (.register new owner)) u := by
  unfold register
  rw [hcheck]
  refine ⟨_, _, _, rfl, ?_, .register new owner⟩
  refine ⟨?_, ?_, ?_, rfl, rfl, rfl, rfl, rfl, rfl⟩
  all_goals exact List.mem_append_right _ List.mem_cons_self

end Store.Memory

namespace Operation

open Program Store

def Row.organization? : Row → Option Id
  | .organization o => some o.id
  | .role r => some r.organizationId
  | .user u => u.organizationId
  | .profile _ => none
  | .container c => c.organizationId
  | .pallet x => x.organizationId

def Job.made? : Job → Option RowType
  | .roleCreate _ => some .role
  | .containerCreate _ => some .container
  | .palletCreate _ => some .pallet
  | _ => none

/-- Such an operation for which no more is needed than who asks for it: no container has to be there, and a
role has a name and grants something. -/
inductive Job.Unhindered : Job → Prop
  | container (c : Containers.Creation) : Unhindered (.containerCreate c)
  | pallet {c : Pallets.Creation} (hc : c.containerId = none) : Unhindered (.palletCreate c)
  | role {c : Roles.Creation} (hname : ¬ Text.isBlankText c.name)
    (hpermissions : c.isOrgAdmin = false → Permission.known c.permissions ≠ []) :
    Unhindered (.roleCreate c)

variable {s : Accounts.Settings} {m : Memory} {id own role : Id} {j : Job}

theorem organization_of_made {type : RowType} (hj : j.made? = some type) {reply : Reply}
    (h : ((Act.job ⟨id, .member own role⟩ j).event s m).outcome = .ok reply) :
    ∀ row ∈ reply.rows, row.type = type ∧ row.organization? = some own := by
  obtain ⟨hrest, -⟩ | ⟨c, seen, -, hwrite, hc, x, hx, hreply, -⟩ := Act.event_of_ok s h
  · unfold Job.made? at hj
    split at hj
    · exact hrest.elim
    · exact hrest.elim
    · exact hrest.elim
    · cases hj
  · rw [hreply]
    cases hc with
    | read hread => exact absurd hread hwrite
    | job hlicense =>
      cases hlicense with
      | roleCreate _ _ howner | containerCreate howner | palletCreate howner =>
        cases hj
        cases howner
        cases hx
        intro row hrow
        obtain rfl := List.mem_singleton.1 hrow
        exact ⟨rfl, rfl⟩
      | _ => cases hj

theorem run_administers_of_leader (hs : m.roles.Sound) {r : Role} (hr : r ∈ m.roles.rows)
    (hadmin : r.isOrgAdmin) (id own : Id) :
    (Authorization.administers ⟨id, .member own r.id⟩).run Memory.handle m = (.ok true, m) := by
  have hcall : (call (.roles (.byId r.id))).run Memory.handle m = (.ok r, m) :=
    (run_call _ m).trans (congrArg (·, m) (find_own hs.nodup hr .noRole))
  simp only [Authorization.administers, bind_eq, run_bind, hcall, hadmin, pure_eq, run_done]

theorem Roles.create_member (id own role : Id) {c : Creation} (hname : ¬ Text.isBlankText c.name)
    (hpermissions : c.isOrgAdmin = false → Permission.known c.permissions ≠ []) :
    create ⟨id, .member own role⟩ c =
      let insert : Program Role := call (.roles (.insert ⟨Text.trim c.name,
        if c.isOrgAdmin then [] else Permission.known c.permissions, c.isOrgAdmin, own⟩))
      if c.isOrgAdmin then
        (Authorization.administers ⟨id, .member own role⟩).bind fun administers =>
          if !administers then .fail .notPermitted else insert
      else insert := by
  have hlisted : ¬ (!c.isOrgAdmin &&
      (if c.isOrgAdmin then [] else Permission.known c.permissions).isEmpty) = true := by
    cases hc : c.isOrgAdmin with
    | true => simp
    | false => simpa using hpermissions hc
  unfold create
  rw [if_neg hname, if_neg hlisted]
  rfl

theorem Roles.run_create_of_leader (hs : m.roles.Sound) {r : Role} (hr : r ∈ m.roles.rows)
    (hadmin : r.isOrgAdmin) (id own : Id) {c : Creation} (hname : ¬ Text.isBlankText c.name)
    (hpermissions : c.isOrgAdmin = false → Permission.known c.permissions ≠ []) :
    (create ⟨id, .member own r.id⟩ c).run Memory.handle m =
      Memory.handle (.roles (.insert ⟨Text.trim c.name,
        if c.isOrgAdmin then [] else Permission.known c.permissions, c.isOrgAdmin, own⟩)) m := by
  rw [create_member id own r.id hname hpermissions]
  by_cases hc : c.isOrgAdmin
  · simp only [if_pos hc, run_bind, run_administers_of_leader hs hr hadmin]
    exact run_call _ m
  · simp only [if_neg hc]
    exact run_call _ m

theorem Job.Unhindered.event_eq (hj : j.Unhindered) (hs : m.roles.Sound) {r : Role}
    (hr : r ∈ m.roles.rows) (hadmin : r.isOrgAdmin) (s : Accounts.Settings) (id own : Id) :
    ∃ row, ((Act.job ⟨id, .member own r.id⟩ j).event s m).outcome = .ok ⟨[row], none⟩ ∧
      ((Act.job ⟨id, .member own r.id⟩ j).event s m).after.Holds row := by
  cases hj with
  | container c => exact ⟨_, rfl, List.mem_append_right _ List.mem_cons_self⟩
  | @pallet c hc =>
    obtain ⟨description, requested, container⟩ := c
    obtain rfl : container = none := hc
    exact ⟨_, rfl, List.mem_append_right _ List.mem_cons_self⟩
  | @role c hname hpermissions =>
    have hrun := Roles.run_create_of_leader hs hr hadmin id own hname hpermissions
    simp only [Act.event, Act.perform, Job.perform, bind_eq, run_bind, hrun]
    exact ⟨_, rfl, List.mem_append_right _ List.mem_cons_self⟩

theorem Job.Unhindered.made (hj : j.Unhindered) : ∃ type, j.made? = some type := by
  cases hj <;> exact ⟨_, rfl⟩

/-- Somebody who runs an organization: every permission is granted, no other organization is listed, and
what is made is made for this one. -/
structure Heads (s : Accounts.Settings) (m : Memory) (p : Principal) (o : Organization) : Prop where
  allowed : ∀ permission customerView,
    ((Authorization.evaluate p permission true customerView).run Memory.handle m).1 = .ok .allow
  listed : ((Organizations.list p).run Memory.handle m).1 = .ok [o]
  makes : ∀ j : Job, j.Unhindered → ∃ row,
    ((Act.job p j).event s m).outcome = .ok ⟨[row], none⟩ ∧ row.organization? = some o.id ∧
      ((Act.job p j).event s m).after.Holds row

theorem heads_of_founded {o : Organization} {r : Role} {u : User} (h : m.Founded o r u) (hs : m.Sound)
    (s : Accounts.Settings) : Heads s m ⟨u.id, .member o.id r.id⟩ o where
  allowed permission customerView := by
    have hgrants : r.grants permission = true := by simp [Role.grants, h.administers]
    rw [run_evaluate_member hs.roles h.role, if_pos hgrants]
  listed := by
    have hfind : Memory.find m.organizations.rows (·.id == o.id) .noOrganization = .ok o :=
      find_own hs.organizations.nodup h.organization .noOrganization
    refine (run_map (call (.organizations (.byId o.id))) ([·])).trans ?_
    rw [call_answer]
    exact congrArg (Except.map ([·])) hfind
  makes j hj := by
    obtain ⟨row, hrow, hholds⟩ := hj.event_eq hs.roles h.role h.administers s u.id o.id
    obtain ⟨type, htype⟩ := hj.made
    exact ⟨row, hrow, (organization_of_made htype hrow row List.mem_cons_self).2, hholds⟩

theorem Accounts.cost_of_config {c : Config} (h : c.accounts? = some s) :
    4 ≤ s.hashCost ∧ s.hashCost ≤ 31 := by
  unfold Config.accounts? at h
  have hcost : 4 ≤ Config.hashCost ∧ Config.hashCost ≤ 31 := by decide
  split at h
  · cases h
    exact hcost
  · cases h

theorem Accounts.exists_account (hcost : 4 ≤ s.hashCost ∧ s.hashCost ≤ 31) (r : Registration) :
    ∃ a, account s r = .ok a ∧ a.email = normalizeEmail r.email ∧ a.phone = Text.trim r.phone := by
  unfold account
  rw [Password.hash_eq_ok.2 ⟨hcost, rfl⟩]
  exact ⟨_, rfl, rfl, rfl⟩

theorem event_registerOrganization {r : OrganizationRegistration} {account : NewAccount}
    (haccount : Accounts.account s r.owner = .ok account) {o : Organization} {role : Role} {u : User}
    (h : (m.register ⟨Text.trim r.name, Text.nonBlank? r.website⟩ account).1 = .ok (o, role, u)) :
    ((Act.registerOrganization r).event s m).outcome =
        .ok ⟨[.organization o, .role role, .user u], none⟩ ∧
      ((Act.registerOrganization r).event s m).after =
        (m.register ⟨Text.trim r.name, Text.nonBlank? r.website⟩ account).2 := by
  have hrun : (Accounts.registerOrganization s r).run Memory.handle m =
      (.ok (o, role, u), (m.register ⟨Text.trim r.name, Text.nonBlank? r.website⟩ account).2) := by
    simp only [Accounts.registerOrganization, lift_eq, haccount, ofExcept_ok, bind_eq, done_bind]
    rw [← h]
    exact run_call (.organizations (.register _ account)) m
  simp only [Act.event, Act.perform, bind_eq, run_bind, hrun, pure_eq, run_done, and_self]

/-- Whoever registers an organization with an address and a phone that nobody has gets the organization, a
role that administers it and an account that holds the role; logs in as this member, however the address
is written; is allowed everything; and whatever the member makes, there and in any other state, belongs to
the organization. -/
theorem founders_are_at_home {es : List Event} (h : Run s es m)
    (hcost : 4 ≤ s.hashCost ∧ s.hashCost ≤ 31) {r : OrganizationRegistration}
    (hblank : normalizeEmail r.owner.email ≠ "")
    (hemail : ∀ u ∈ m.users.rows, u.email ≠ normalizeEmail r.owner.email)
    (hphone : ∀ u ∈ m.users.rows, u.phone ≠ Text.trim r.owner.phone) :
    let e := (Act.registerOrganization r).event s m
    ∃ o role u, e.outcome = .ok ⟨[.organization o, .role role, .user u], none⟩ ∧
      e.after.Founded o role u ∧ r.owner.Describes u ∧
      let p : Principal := ⟨u.id, .member o.id role.id⟩
      (∀ now email phone, normalizeEmail email = normalizeEmail r.owner.email →
        (Accounts.login s now .member ⟨some email, phone, r.owner.password⟩).run Memory.handle e.after =
            (Accounts.session s now p, e.after) ∧
          (Token.firstSecond ≤ now + s.ttl → now + s.ttl ≤ Token.lastSecond →
            ∃ token, Accounts.session s now p = .ok ⟨p, token⟩)) ∧
      Heads s e.after p o ∧
      ∀ m' j type reply, Job.made? j = some type →
        ((Act.job p j).event s m').outcome = .ok reply →
        ∀ row ∈ reply.rows, row.type = type ∧ row.organization? = some o.id := by
  intro e
  obtain ⟨account, haccount, hemail', hphone'⟩ := Accounts.exists_account hcost r.owner
  have hcheck : Memory.checkAccount m.users.rows account.email account.phone = .ok () := by
    rw [hemail', hphone']
    exact Memory.checkAccount_of_fresh hemail hphone
  obtain ⟨o, role, u, hregister, hfounded, hadded⟩ := Memory.register_of_fresh hcheck
  obtain ⟨houtcome, hafter⟩ := event_registerOrganization haccount hregister
  have hafter : e.after = _ := hafter
  rw [← hafter] at hfounded
  have hdescribes : r.owner.Describes u := by
    obtain ⟨kind, rfl⟩ := hadded.eq_userRow rfl
    exact Accounts.describes_of_account haccount
  have hrun : Run s _ e.after := h.act (.registerOrganization r)
  refine ⟨o, role, u, houtcome, hfounded, hdescribes, ?_, heads_of_founded hfounded hrun.sound s,
    fun m' j type reply hj hreply => organization_of_made hj hreply⟩
  intro now email phone hsame
  have hgiven : ¬ Text.isBlankText email := by
    rwa [← normalizeEmail_eq_empty_iff, hsame]
  have hstands := hrun.standsFor hfounded.user (hdescribes.email.trans hsame.symm) hgiven
  obtain ⟨p, hp, hlogin, htoken⟩ :=
    hstands.login now .member phone r.owner.password hfounded.member hdescribes.password
  obtain rfl := Except.ok.inj (hfounded.principal.symm.trans hp)
  exact ⟨hlogin, htoken⟩

/-- Eve registers a second organization, writes her address in other letters when she logs in, and asks for
a container of the first organization; it is one of her own. -/
theorem second_founder_is_at_home :
    ∃ (config : Config) (s : Accounts.Settings) (m : Memory) (r : OrganizationRegistration)
      (o : Organization) (role : Role) (u : User) (token : String),
      let e := (Act.registerOrganization r).event s m
      let p : Principal := ⟨u.id, .member o.id role.id⟩
      config.accounts? = some s ∧ Reachable m ∧ m.organizations.rows.map (·.id) = [1] ∧
        r.owner.email = " Eve@X.org" ∧ e.after.Founded o role u ∧
        (Accounts.login s 0 .member ⟨some "EVE@x.org", none, "secret"⟩).run Memory.handle e.after =
          (.ok ⟨p, token⟩, e.after) ∧
        Heads s e.after p o ∧
        ∃ row, ((Act.job p (.containerCreate ⟨none, some 1⟩)).event s e.after).outcome =
          .ok ⟨[row], none⟩ ∧ row.organization? = some o.id := by
  let config : Config := { (default : Config) with secret := "k", tokenHours := 1 }
  let s : Accounts.Settings := ⟨"k", 3600, 12⟩
  let r : OrganizationRegistration := ⟨"B", none, ⟨"Eve", "E", " Eve@X.org", "2 ", "secret"⟩⟩
  have hconfig : config.accounts? = some s := by decide +kernel
  obtain ⟨es, m, hrun, hids, hemail, hphone⟩ : ∃ es m, Run s es m ∧
      m.organizations.rows.map (·.id) = [1] ∧
      (∀ u ∈ m.users.rows, u.email ≠ normalizeEmail r.owner.email) ∧
      ∀ u ∈ m.users.rows, u.phone ≠ Text.trim r.owner.phone := by
    let first := Act.event s
      (.registerOrganization ⟨"A", none, ⟨"A", "A", "a", "1", "secret"⟩⟩) (Memory.empty ⟨0⟩)
    refine ⟨[first], first.after, (Run.start ⟨0⟩).act _, ?_, ?_, ?_⟩
    all_goals decide +kernel
  obtain ⟨o, role, u, -, hfounded, -, hlogin, hheads, -⟩ :=
    founders_are_at_home hrun (Accounts.cost_of_config hconfig) (r := r) (by decide +kernel) hemail hphone
  obtain ⟨hsession, htoken⟩ := hlogin 0 "EVE@x.org" none (by decide +kernel)
  obtain ⟨token, htoken⟩ := htoken (by decide) (by decide)
  rw [htoken] at hsession
  obtain ⟨row, hrow, horganization, -⟩ := hheads.makes _ (.container ⟨none, some 1⟩)
  exact ⟨config, s, m, r, o, role, u, token, hconfig, ⟨s, es, hrun⟩, hids, rfl, hfounded, hsession,
    hheads, row, hrow, horganization⟩

end Operation

end Depot
