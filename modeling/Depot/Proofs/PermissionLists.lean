import Depot.Proofs.Distinct
import Depot.Proofs.Grants
import Depot.Proofs.Interleaving

namespace Depot

namespace Permission

def firstNamed (requested : List String) : List String :=
  (requested.zipIdx.filter fun x => x.1 ∈ names ∧ x.1 ∉ requested.take x.2).map (·.1)

theorem firstNamed_sublist (requested : List String) : (firstNamed requested).Sublist requested := by
  have h := (List.filter_sublist (p := fun x => x.1 ∈ names ∧ x.1 ∉ requested.take x.2)
    (l := requested.zipIdx)).map Prod.fst
  rwa [List.zipIdx_map_fst] at h

theorem known_eq_firstNamed (requested : List String) : known requested = firstNamed requested := by
  rw [known, distinct, eraseDups_eq_map_filter, List.filter_map, List.filter_filter, firstNamed]
  congr 2
  funext x
  simp [Function.comp]

theorem nodup_known (requested : List String) : (known requested).Nodup :=
  (nodup_eraseDups requested).filter _

theorem known_eq_self {l : List String} (hnodup : l.Nodup) (hnames : ∀ name ∈ l, name ∈ names) :
    known l = l := by
  rw [known, distinct, eraseDups_eq_self hnodup, List.filter_eq_self]
  exact fun name hname => List.contains_iff_mem.2 (hnames name hname)

end Permission

/-- The list of a role that administers is empty, and any other has names of the catalog, each once. -/
structure Role.Tidy (r : Role) : Prop where
  distinct : r.permissions.Nodup
  known : ∀ name ∈ r.permissions, name ∈ Permission.names
  administers : r.isOrgAdmin = true → r.permissions = []

theorem Role.Tidy.of_known {r : Role} (requested : List String)
    (h : r.permissions = if r.isOrgAdmin then [] else Permission.known requested) : r.Tidy := by
  cases hadmin : r.isOrgAdmin with
  | true =>
    have hnone : r.permissions = [] := by simpa [hadmin] using h
    exact ⟨by simp [hnone], by simp [hnone], fun _ => hnone⟩
  | false =>
    have hknown : r.permissions = Permission.known requested := by simpa [hadmin] using h
    refine ⟨hknown ▸ Permission.nodup_known requested, fun name hname => ?_, fun htrue => ?_⟩
    · exact (Permission.mem_known.1 (hknown ▸ hname)).2
    · rw [hadmin] at htrue
      cases htrue

theorem Role.Tidy.known_eq {r : Role} (h : r.Tidy) : Permission.known r.permissions = r.permissions :=
  Permission.known_eq_self h.distinct h.known

namespace Operation

open Store

variable {s : Accounts.Settings}

/-- A change goes by a row that it read before. Whether that role administers is still so when it is
written, whatever has been done to it in between. -/
theorem History.roles_tidy {states : List Memory} (h : History s states) :
    ∀ m ∈ states, ∀ r ∈ m.roles.rows, r.Tidy := by
  induction h with
  | start clock =>
    intro m hm r hr
    obtain rfl := List.mem_singleton.1 hm
    exact absurd hr List.not_mem_nil
  | @tick m past _ now ih =>
    intro n hn r hr
    obtain rfl | hn := List.mem_cons.1 hn
    · exact ih m List.mem_cons_self r hr
    · exact ih n hn r hr
  | @call m past seen a c hist hseen hc ih =>
    intro n hn r hr
    obtain rfl | hn := List.mem_cons.1 hn
    · cases Memory.role_after hr with
      | old hr => exact ih m List.mem_cons_self r hr
      | added hnew =>
        cases hnew with
        | register => exact .of_known [] rfl
        | insert new =>
          cases hc with
          | read hc => exact hc.elim
          | job hj =>
            cases hj with
            | @roleCreate creation => exact .of_known creation.permissions rfl
      | @updated v w hv hupdate hid hrow =>
        subst hupdate hrow
        cases hc with
        | read hc => exact hc.elim
        | job hj =>
          cases hj with
          | @roleUpdate change old _ _ hold =>
            have hold := hold.stored.mono hseen
            have hadmin : v.isOrgAdmin = old.isOrgAdmin :=
              role_isOrgAdmin (hist.lineage.role_origin ⟨m, List.mem_cons_self, hv⟩ hold hid)
            obtain ⟨n, hn, hold⟩ := hold
            have hnone := (ih n hn old hold).administers
            apply Role.Tidy.of_known change.permissions
            cases holdAdmin : old.isOrgAdmin with
            | true => simp [hadmin, holdAdmin, hnone holdAdmin]
            | false => simp [hadmin, holdAdmin]
    · exact ih n hn r hr

/-- However the acts come in between each other, the list of a role is clean, and cleaning it once more
leaves it as it is. In a run of one act after the other it is known which request it comes from: the
latest one for this role that was accepted. -/
theorem stored_permissions_are_canonical (s : Accounts.Settings) :
    (∀ (clock : Timestamp) (moves : List Move),
      ∀ r ∈ (Traffic.after s clock moves).memory.roles.rows,
        r.Tidy ∧ Permission.known r.permissions = r.permissions) ∧
    ∀ (es : List Event) (m : Memory), Run s es m → ∀ r ∈ m.roles.rows,
      r.Tidy ∧ Permission.known r.permissions = r.permissions ∧
        (r.isOrgAdmin = false → ∃ requested, lastGrant es r.id = some requested ∧
          r.permissions = Permission.firstNamed requested ∧ r.permissions.Sublist requested) := by
  constructor
  · intro clock moves r hr
    obtain ⟨past, hist⟩ := Traffic.exists_history_after s clock moves
    have htidy := hist.roles_tidy _ List.mem_cons_self r hr
    exact ⟨htidy, htidy.known_eq⟩
  · intro es m hrun r hr
    obtain ⟨past, hist, -⟩ := hrun.history
    have htidy := hist.roles_tidy _ List.mem_cons_self r hr
    refine ⟨htidy, htidy.known_eq, fun hplain => ?_⟩
    obtain ⟨requested, hlast, hknown⟩ := hrun.recorded.granted r hr hplain
    rw [Permission.known_eq_firstNamed] at hknown
    exact ⟨requested, hlast, hknown, hknown ▸ Permission.firstNamed_sublist requested⟩

/-- A role is made, changed to a list that names a permission twice and one that there is not, and a
third list is refused. The role of the owner, changed likewise, keeps nothing. -/
theorem changed_list_is_cleaned :
    ∃ (s : Accounts.Settings) (es : List Event) (m : Memory) (owner r : Role), Run s es m ∧
      owner ∈ m.roles.rows ∧ r ∈ m.roles.rows ∧ owner.permissions = [] ∧
      r.permissions = ["Read User", "Create Pallet"] ∧
      lastGrant es r.id = some ["Read User", "Ship It", "Create Pallet", "Read User"] ∧
      r.permissions =
        Permission.firstNamed ["Read User", "Ship It", "Create Pallet", "Read User"] := by
  let s : Accounts.Settings := ⟨"k", 60, 4⟩
  let p : Principal := ⟨1, .member 1 1⟩
  let e₁ := Act.event s
    (.registerOrganization ⟨"A", none, ⟨"A", "A", "a", "1", "secret"⟩⟩) (Memory.empty ⟨0⟩)
  let e₂ := Act.event s (.job p (.roleCreate ⟨"R", ["Read Role"], false, none⟩)) e₁.after
  let e₃ := Act.event s (.job p (.roleUpdate
    ⟨2, "R", ["Read User", "Ship It", "Create Pallet", "Read User"], false⟩)) e₂.after
  let e₄ := Act.event s (.job p (.roleUpdate ⟨1, "O", ["Read User"], false⟩)) e₃.after
  let e₅ := Act.event s (.job p (.roleUpdate ⟨2, " ", ["Delete User"], false⟩)) e₄.after
  let owner : Role := ⟨1, "ROLE00001", "O", [], true, false, 1, ⟨0⟩, ⟨0⟩⟩
  let r : Role := ⟨2, "ROLE00002", "R", ["Read User", "Create Pallet"], false, false, 1, ⟨0⟩, ⟨0⟩⟩
  have hrun : Run s [e₅, e₄, e₃, e₂, e₁] e₅.after :=
    (((((Run.start ⟨0⟩).act _).act _).act _).act _).act _
  have howner : owner ∈ e₅.after.roles.rows := by decide +kernel
  have hr : r ∈ e₅.after.roles.rows := by decide +kernel
  have hlast : lastGrant [e₅, e₄, e₃, e₂, e₁] r.id =
      some ["Read User", "Ship It", "Create Pallet", "Read User"] := by decide +kernel
  obtain ⟨howned, -, -⟩ := (stored_permissions_are_canonical s).2 _ _ hrun owner howner
  obtain ⟨-, -, hfirst⟩ := (stored_permissions_are_canonical s).2 _ _ hrun r hr
  obtain ⟨requested, hrequested, hnamed, -⟩ := hfirst rfl
  obtain rfl := Option.some.inj (hrequested.symm.trans hlast)
  exact ⟨s, _, _, owner, r, hrun, howner, hr, howned.administers rfl, rfl, hlast, hnamed⟩

end Operation

end Depot
