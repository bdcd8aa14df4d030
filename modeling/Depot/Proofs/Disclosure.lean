import Depot.Http.Service
import Depot.Proofs.Secrecy

namespace Depot.Loader

open Operation Program Store

def Entity.concealed : Entity → Entity
  | .user u => .user u.concealed
  | e => e

def Result.concealed (r : Result Entity) : Result Entity := r.map (Option.map Entity.concealed)

def Outcome.concealed : Outcome Entity → Outcome Entity
  | .rows found => .rows (found.map (Prod.map id Entity.concealed))
  | o => o

def State.concealed (s : State Entity) : State Entity :=
  { s with cache := s.cache.map (Prod.map id (Option.map Entity.concealed)) }

namespace State

variable (s : State Entity)

theorem cached?_concealed (key : Id) :
    s.concealed.cached? key = (s.cached? key).map (Option.map Entity.concealed) := by
  have hkey : (fun x : Id × Option Entity => x.1 == key) ∘ Prod.map id (Option.map Entity.concealed) =
      fun x => x.1 == key := rfl
  rw [cached?, concealed, List.find?_map, hkey, cached?, Option.map_map, Option.map_map]
  rfl

theorem load_concealed (c : Config) (load : Nat) (key : Id) :
    s.concealed.load c load key =
      ⟨(s.load c load key).state.concealed,
        (s.load c load key).answer.map (Option.map Entity.concealed),
        (s.load c load key).opened, (s.load c load key).closed⟩ := by
  have hclose (s : State Entity) (b : Batch) (opened : Option Nat) :
      keepOrClose c s.concealed b opened =
        ⟨(keepOrClose c s b opened).state.concealed,
          (keepOrClose c s b opened).answer.map (Option.map Entity.concealed),
          (keepOrClose c s b opened).opened, (keepOrClose c s b opened).closed⟩ := by
    unfold keepOrClose
    split <;> rfl
  simp only [State.load, cached?_concealed]
  cases s.cached? key with
  | some v => rfl
  | none =>
    simp only [Option.map_none]
    cases hp : s.pending with
    | some b =>
      have hp' : s.concealed.pending = some b := hp
      simp only [hp']
      exact hclose s _ _
    | none =>
      have hp' : s.concealed.pending = none := hp
      simp only [hp']
      exact hclose { s with nextBatch := s.nextBatch + 1 } _ _

theorem lastValue_concealed (rows : List (Id × Entity)) (key : Id) :
    lastValue (rows.map (Prod.map id Entity.concealed)) key =
      (lastValue rows key).map Entity.concealed := by
  have hkey : (fun x : Id × Entity => x.1 == key) ∘ Prod.map id Entity.concealed =
      fun x => x.1 == key := rfl
  rw [lastValue, ← List.map_reverse, List.find?_map, hkey, lastValue, Option.map_map, Option.map_map]
  rfl

theorem tell_concealed (o : Outcome Entity) (key : Id) :
    tell o.concealed key = (tell o key).concealed := by
  cases o with
  | rows rows => exact congrArg Except.ok (lastValue_concealed rows key)
  | failed | lost => rfl

theorem settle_concealed (b : Batch) (o : Outcome Entity) :
    s.concealed.settle b o.concealed =
      ((s.settle b o).1.concealed, (s.settle b o).2.map (Prod.map id Result.concealed)) := by
  have hanswers : (b.waiters.flatMap fun w => w.2.map fun load => (load, tell o.concealed w.1)) =
      (b.waiters.flatMap fun w => w.2.map fun load => (load, tell o w.1)).map
        (Prod.map id Result.concealed) := by
    simp [List.map_flatMap, tell_concealed, Function.comp_def]
  cases o with
  | rows rows =>
    refine Prod.ext ?_ hanswers
    simp [settle, concealed, Outcome.concealed, lastValue_concealed, Function.comp_def]
  | failed | lost => exact Prod.ext rfl hanswers

end State

theorem fetchRows_alike (name : BatchName) (keys : List Id) :
    Alike (List.map (Prod.map id Entity.concealed)) (fetchRows name keys) (fetchRows name keys) := by
  cases name with
  | users =>
    refine (Alike.call (.users (.many keys))).map fun us us' h => ?_
    have hrows (us : List User) : (us.map fun u => (u.id, Entity.user u)).map
        (Prod.map id Entity.concealed) =
          (us.map User.concealed).map fun u => (u.id, Entity.user u) := by
      simp [Entity.concealed, User.concealed, Function.comp_def]
    have h' : us.map User.concealed = us'.map User.concealed := h
    rw [hrows, hrows, h']
  | _ => exact .bind_call (fun _ => rfl) fun _ => .done rfl

namespace Loaders

def concealed (l : Loaders) : Loaders :=
  ⟨l.users.concealed, l.profiles.concealed, l.organizations.concealed, l.roles.concealed,
    l.containers.concealed, l.containerPallets.concealed⟩

theorem get_concealed (l : Loaders) (name : BatchName) :
    l.concealed.get name = (l.get name).concealed := by
  cases name <;> rfl

theorem set_concealed (l : Loaders) (name : BatchName) (s : State Entity) :
    l.concealed.set name s.concealed = (l.set name s).concealed := by
  cases name <;> rfl

namespace Round

def concealed (r : Round) : Round where
  loaders := r.loaders.concealed
  closed := r.closed
  answers := r.answers.map (Prod.map id Result.concealed)

variable {r r' : Round}

theorem load_concealed (c : Config) (r : Round) (number : Nat) (ref : Ref) :
    r.concealed.load c number ref = (r.load c number ref).concealed := by
  simp only [load, concealed, get_concealed, State.load_concealed, set_concealed]
  cases ((r.loaders.get ref.name).load c number ref.key).answer with
  | none => simp
  | some v => simp [Result.concealed, Except.map]

theorem close_concealed (r : Round) (name : BatchName) :
    r.concealed.close name = (r.close name).concealed := by
  have hget : r.concealed.loaders.get name = (r.loaders.get name).concealed :=
    get_concealed r.loaders name
  have hpending : (r.loaders.get name).concealed.pending = (r.loaders.get name).pending := rfl
  simp only [close, hget, hpending]
  cases (r.loaders.get name).pending with
  | none => rfl
  | some b =>
    have hset := set_concealed r.loaders name { r.loaders.get name with pending := none }
    exact congrArg (Round.mk · (r.closed ++ [(name, b)]) r.concealed.answers) hset

theorem foldl_concealed {β : Type} {f : Round → β → Round}
    (h : ∀ r x, f r.concealed x = (f r x).concealed) (xs : List β) (r : Round) :
    xs.foldl f r.concealed = (xs.foldl f r).concealed := by
  induction xs generalizing r with
  | nil => rfl
  | cons x xs ih => rw [List.foldl_cons, h, ih, List.foldl_cons]

def settled (r : Round) (name : BatchName) (b : Batch) (o : Outcome Entity) : Round :=
  { r with
    loaders := r.loaders.set name ((r.loaders.get name).settle b o).1
    answers := r.answers ++ ((r.loaders.get name).settle b o).2 }

theorem settled_concealed (r : Round) (name : BatchName) (b : Batch) (o : Outcome Entity) :
    r.concealed.settled name b o.concealed = (r.settled name b o).concealed := by
  simp only [settled, concealed, get_concealed, State.settle_concealed, set_concealed,
    List.map_append]

theorem fetch_alike (h : r.concealed = r'.concealed) (name : BatchName) (b : Batch) :
    Alike concealed (r.fetch name b) (r'.fetch name b) := by
  refine (fetchRows_alike name b.keys).attempt.bind fun o o' ho => .done ?_
  change (r.settled name b _).concealed = (r'.settled name b _).concealed
  rw [← settled_concealed, ← settled_concealed, h]
  cases o with
  | error e =>
    cases o' with
    | error e' =>
      obtain rfl : e = e' := Except.error.inj ho
      rfl
    | ok rows' => cases ho
  | ok rows =>
    cases o' with
    | error e' => cases ho
    | ok rows' =>
      exact congrArg (fun found => r'.concealed.settled name b (.rows found)) (Except.ok.inj ho)

theorem fetchAll_alike (h : r.concealed = r'.concealed) (batches : List (BatchName × Batch)) :
    Alike concealed (r.fetchAll batches) (r'.fetchAll batches) := by
  induction batches generalizing r r' with
  | nil => exact .done h
  | cons x batches ih => exact (fetch_alike h x.1 x.2).bind fun _ _ h => ih h

theorem answer_concealed (r : Round) (number : Nat) :
    r.concealed.answer number = (r.answer number).concealed := by
  have hnumber : (fun x : Nat × Result Entity => x.1 == number) ∘ Prod.map id Result.concealed =
      fun x => x.1 == number := rfl
  simp only [answer, concealed, List.find?_map, hnumber]
  cases r.answers.find? (·.1 == number) <;> rfl

end Round

def gathered (c : Config) (l : Loaders) (refs : List Ref) : Round :=
  BatchName.all.foldl Round.close
    (((List.range refs.length).zip refs).foldl (fun r (n, ref) => r.load c n ref) ⟨l, [], []⟩)

theorem gathered_concealed (c : Config) (l : Loaders) (refs : List Ref) :
    gathered c l.concealed refs = (gathered c l refs).concealed := by
  have hload := Round.foldl_concealed (f := fun r (x : Nat × Ref) => r.load c x.1 x.2)
    (fun r x => Round.load_concealed c r x.1 x.2) ((List.range refs.length).zip refs) ⟨l, [], []⟩
  rw [gathered, gathered, ← Round.foldl_concealed Round.close_concealed]
  exact congrArg (BatchName.all.foldl Round.close) hload

theorem loadAll_alike {l l' : Loaders} (h : l.concealed = l'.concealed) (c : Config)
    (refs : List Ref) :
    Alike (Prod.map concealed (List.map Result.concealed)) (l.loadAll c refs)
      (l'.loadAll c refs) := by
  have hround : (gathered c l refs).concealed = (gathered c l' refs).concealed := by
    rw [← gathered_concealed, ← gathered_concealed, h]
  have hclosed : (gathered c l refs).closed = (gathered c l' refs).closed := by
    change (gathered c l refs).concealed.closed = (gathered c l' refs).concealed.closed
    rw [hround]
  change Alike _ (((gathered c l refs).fetchAll (gathered c l refs).closed).bind _)
    (((gathered c l' refs).fetchAll (gathered c l' refs).closed).bind _)
  rw [hclosed]
  refine (Round.fetchAll_alike hround _).map fun r r' hr => Prod.ext (congrArg Round.loaders hr) ?_
  have hanswers (r : Round) : ((List.range refs.length).map r.answer).map Result.concealed =
      (List.range refs.length).map r.concealed.answer := by
    simp [Round.answer_concealed, Function.comp_def]
  exact (hanswers r).trans (hr ▸ (hanswers r').symm)

end Loaders

end Depot.Loader

namespace Depot.GraphQL

open Loader Operation Program Store

namespace Fetch

variable {α β γ : Type}

/-- What comes of the fetch is not told by the hashes of what is loaded. -/
inductive Blind : Fetch α → Prop
  | done {a : α} : Blind (.done a)
  | load {refs : List Ref} {next : List (Result Entity) → Fetch α}
    (hnext : ∀ rs rs', rs.map Result.concealed = rs'.map Result.concealed → next rs = next rs')
    (h : ∀ rs, Blind (next rs)) : Blind (.load refs next)

namespace Blind

theorem map {f : α → β} {x : Fetch α} (h : x.Blind) : (x.map f).Blind := by
  induction h with
  | done => exact .done
  | load hnext _ ih =>
    exact .load (fun rs rs' hrs => congrArg (Fetch.map f) (hnext rs rs' hrs)) ih

theorem both {f : α → β → γ} {x : Fetch α} {y : Fetch β} (hx : x.Blind) (hy : y.Blind) :
    (Fetch.both f x y).Blind := by
  induction hx generalizing y with
  | done => exact hy.map
  | @load refs next hnext hload ih =>
    cases hy with
    | done => exact (Blind.load hnext hload).map
    | @load refs' next' hnext' hload' =>
      refine .load (fun rs rs' hrs => ?_) fun rs => ih _ (hload' _)
      have htake := congrArg (List.take refs.length) hrs
      have hdrop := congrArg (List.drop refs.length) hrs
      rw [← List.map_take, ← List.map_take] at htake
      rw [← List.map_drop, ← List.map_drop] at hdrop
      rw [hnext _ _ htake, hnext' _ _ hdrop]

theorem all {xs : List (Fetch α)} (h : ∀ x ∈ xs, x.Blind) : (Fetch.all xs).Blind := by
  induction xs with
  | nil => exact .done
  | cons x xs ih =>
    exact both (h x List.mem_cons_self) (ih fun y hy => h y (List.mem_cons_of_mem x hy))

theorem one {ref : Ref} {next : Result Entity → Fetch α}
    (hnext : ∀ r r', r.concealed = r'.concealed → next r = next r') (h : ∀ r, (next r).Blind) :
    (Fetch.one ref next).Blind := by
  refine .load (fun rs rs' hrs => ?_) fun rs => ?_
  · cases rs with
    | nil =>
      cases rs' with
      | nil => rfl
      | cons r' rs' => cases hrs
    | cons r rs =>
      cases rs' with
      | nil => cases hrs
      | cons r' rs' => exact hnext r r' (List.cons_eq_cons.1 hrs).1
  · cases rs with
    | nil => exact h _
    | cons r rs => exact h r

theorem run_alike {x : Fetch α} (hx : x.Blind) (c : Loader.Config) {l l' : Loaders}
    (h : l.concealed = l'.concealed) :
    Alike (Prod.map Loaders.concealed id) (x.run c l) (x.run c l') := by
  induction hx generalizing l l' with
  | done => exact .done (by rw [Prod.map, Prod.map, h])
  | @load refs next hnext _ ih =>
    refine (Loaders.loadAll_alike h c refs).bind fun r r' hr => ?_
    obtain ⟨hl, hrs⟩ := Prod.ext_iff.1 hr
    rw [hnext r.2 r'.2 hrs]
    exact ih r'.2 hl

end Blind

end Fetch

variable {p : Principal}

theorem scalar_concealed (r : Row) (name : String) : r.concealed.scalar name = r.scalar name := by
  cases r with
  | user u =>
    by_cases hname : name = "userType"
    · subst hname
      rfl
    · simp [Row.concealed, Row.scalar, hname, Row.toJson]
  | _ => rfl

theorem type_concealed (r : Row) : r.concealed.type = r.type := by
  cases r <;> rfl

theorem link_concealed (r : Row) (name : String) : link p r.concealed name = link p r name := by
  cases r with
  | user u =>
    by_cases h : name = "organization" ∨ name = "role" ∨ name = "profile"
    · obtain rfl | rfl | rfl := h <;> rfl
    · simp only [not_or] at h
      obtain ⟨horganization, hrole, hprofile⟩ := h
      simp [Row.concealed, link, horganization, hrole, hprofile]
  | _ => rfl

theorem resolveField_concealed (path : List Step) (r : Row) (s : Selection) :
    resolveField p path r.concealed s = resolveField p path r s := by
  cases s
  simp only [resolveField, type_concealed, link_concealed, scalar_concealed]

theorem resolveFields_concealed (path : List Step) (r : Row) (select : List Selection) :
    resolveFields p path r.concealed select = resolveFields p path r select := by
  induction select with
  | nil => rfl
  | cons s rest ih => rw [resolveFields, resolveFields, ih, resolveField_concealed]

def Link.Blind : Link → Prop
  | .value | .absent => True
  | .one _ view => ∀ e, (view e).map Row.concealed = (view e.concealed).map Row.concealed
  | .many _ view => ∀ e, (view e).map Row.concealed = (view (e.map Entity.concealed)).map Row.concealed

theorem Link.ofKey_blind (name : BatchName) (key : Option Id) : (Link.ofKey name key).Blind := by
  cases key with
  | none => trivial
  | some id => intro e; cases e <;> rfl

theorem link_blind (r : Row) (name : String) : (link p r name).Blind := by
  have hcreator (ref : Ref) : Link.Blind (.one ref (creatorView p)) := by
    intro e
    cases e with
    | user u =>
      simp only [creatorView, Entity.concealed, User.concealed]
      split <;> rfl
    | _ => rfl
  unfold link
  split
  any_goals exact Link.ofKey_blind _ _
  · exact hcreator _
  · intro e
    cases e with
    | none => rfl
    | some e => cases e <;> rfl
  · exact hcreator _
  · trivial

theorem resolveFields_eq {r r' : Row} (h : r.concealed = r'.concealed) (path : List Step)
    (select : List Selection) : resolveFields p path r select = resolveFields p path r' select := by
  rw [← resolveFields_concealed, h, resolveFields_concealed]

theorem bind_view {view : Entity → Option Row}
    (hview : ∀ e, (view e).map Row.concealed = (view e.concealed).map Row.concealed)
    {found found' : Option Entity} (h : found.map Entity.concealed = found'.map Entity.concealed) :
    (found.bind view).map Row.concealed = (found'.bind view).map Row.concealed := by
  have hfound (found : Option Entity) : (found.bind view).map Row.concealed =
      ((found.map Entity.concealed).bind view).map Row.concealed := by
    cases found with
    | none => rfl
    | some e => exact hview e
  rw [hfound, h, ← hfound]

theorem resolveItems_eq {rows rows' : List Row} (h : rows.map Row.concealed = rows'.map Row.concealed)
    (path : Nat → List Step) (select : List Selection) :
    (rows.zipIdx.map fun (row, i) => (resolveFields p (path i) row select).map assemble) =
      rows'.zipIdx.map fun (row, i) => (resolveFields p (path i) row select).map assemble := by
  have hrows (rows : List Row) :
      (rows.zipIdx.map fun (row, i) => (resolveFields p (path i) row select).map assemble) =
        (rows.map Row.concealed).zipIdx.map fun (row, i) =>
          (resolveFields p (path i) row select).map assemble := by
    simp [List.zipIdx_map, Function.comp_def, resolveFields_concealed]
  rw [hrows, h, ← hrows]

theorem one_blind {α : Type} {ref : Ref} {failed : Error → Fetch α} {next : Option Entity → Fetch α}
    (hfailed : ∀ e, (failed e).Blind)
    (hnext : ∀ found found', found.map Entity.concealed = found'.map Entity.concealed →
      next found = next found')
    (h : ∀ found, (next found).Blind) :
    (Fetch.one ref fun
      | .error e => failed e
      | .ok found => next found).Blind := by
  refine Fetch.Blind.one (fun x x' hx => ?_) fun x => ?_
  · cases x with
    | error e =>
      cases x' with
      | error e' =>
        obtain rfl : e = e' := Except.error.inj hx
        rfl
      | ok found' => cases hx
    | ok found =>
      cases x' with
      | error e' => cases hx
      | ok found' => exact hnext found found' (Except.ok.inj hx)
  · cases x with
    | error e => exact hfailed e
    | ok found => exact h found

mutual

theorem resolveField_blind (path : List Step) (r : Row) :
    (s : Selection) → (resolveField p path r s).Blind
  | .field name label args select => by
    have hlink := link_blind (p := p) r name
    rw [resolveField]
    split
    · exact .done
    cases hl : link p r name with
    | value | absent => exact .done
    | one ref view =>
      rw [hl] at hlink
      refine one_blind (fun _ => .done) (fun found found' h => ?_) fun found => ?_
      · have hview := bind_view hlink h
        cases hrow : found.bind view with
        | none =>
          cases hrow' : found'.bind view with
          | none => rfl
          | some row' => simp [hrow, hrow'] at hview
        | some row =>
          cases hrow' : found'.bind view with
          | none => simp [hrow, hrow'] at hview
          | some row' =>
            rw [hrow, hrow'] at hview
            simp only [resolveFields_eq (Option.some.inj hview)]
      · split
        · exact .done
        · exact (resolveFields_blind _ _ select).map
    | many ref view =>
      rw [hl] at hlink
      refine one_blind (fun _ => .done) (fun found found' h => ?_) fun found => ?_
      · have hview : (view found).map Row.concealed = (view found').map Row.concealed := by
          rw [hlink, h, ← hlink]
        exact congrArg (fun items => (Fetch.all items).map _) (resolveItems_eq hview
          (fun i => path ++ [.key (label.getD name)] ++ [.index i]) select)
      · refine (Fetch.Blind.all fun x hx => ?_).map
        obtain ⟨row, -, rfl⟩ := List.mem_map.1 hx
        exact (resolveFields_blind _ _ select).map

theorem resolveFields_blind (path : List Step) (r : Row) :
    (select : List Selection) → (resolveFields p path r select).Blind
  | [] => .done
  | s :: rest => .both (resolveField_blind path r s) (resolveFields_blind path r rest)

end

theorem resolveRow_blind (path : List Step) (r : Row) (select : List Selection) :
    (resolveRow p path r select).Blind := (resolveFields_blind path r select).map

theorem resolveValue_blind (path : List Step) (select : List Selection) (v : Value) :
    (resolveValue p path select v).Blind := by
  cases v with
  | done => exact .done
  | row r => exact resolveRow_blind path r select
  | page t rows =>
    refine (Fetch.Blind.all fun x hx => ?_).map
    obtain ⟨s, -, rfl⟩ := List.mem_map.1 hx
    unfold resolvePageField
    split
    · exact .done
    split
    · exact .done
    refine (Fetch.Blind.all fun y hy => ?_).map
    obtain ⟨row, -, rfl⟩ := List.mem_map.1 hy
    exact resolveRow_blind _ _ _

theorem resolveValue_concealed (path : List Step) (select : List Selection) (v : Value) :
    resolveValue p path select v.concealed = resolveValue p path select v := by
  cases v with
  | done => rfl
  | row r => exact congrArg (Fetch.map assemble) (resolveFields_concealed path r select)
  | page t rows =>
    have hfield (s : Selection) : resolvePageField p path t (rows.map Row.concealed) s =
        resolvePageField p path t rows s := by
      unfold resolvePageField
      simp only [List.length_map, List.zipIdx_map, List.map_map, Function.comp_def, resolveRow,
        Prod.map, resolveFields_concealed]
      rfl
    simp only [Value.concealed, resolveValue, funext hfield]

variable {settings : Accounts.Settings} {caller : Option Principal}

theorem execute_alike {j : Job} (hj : j.LeavesPasswords) :
    Alike Value.concealed (execute settings p j) (execute settings p j) := by
  have hcheck : Plain (Demand.check p (demand j)) := by
    cases demand j with
    | none => exact .done rfl
    | some d => exact Authorization.grant_plain p _ _ _
  exact .bind_plain hcheck fun _ => Job.perform_alike settings hj

theorem resolveJob_plain (path : List Step) (select : List Selection) {j : Job}
    (hj : j.LeavesPasswords) : Plain (resolveJob settings p path select j) := by
  refine (execute_alike hj).attempt.bind fun r r' h => ?_
  cases r with
  | error e =>
    cases r' with
    | error e' =>
      obtain rfl : e = e' := Except.error.inj h
      exact .done rfl
    | ok v' => cases h
  | ok v =>
    cases r' with
    | error e' => cases h
    | ok v' =>
      have hv : v.concealed = v'.concealed := Except.ok.inj h
      refine .done ?_
      rw [← resolveValue_concealed, hv, resolveValue_concealed]

theorem resolveJob_blind {path : List Step} {select : List Selection} {j : Job} {m : Memory}
    {x : Fetch Resolved}
    (h : ((resolveJob settings p path select j).run Memory.handle m).1 = .ok x) : x.Blind := by
  obtain ⟨r, m', -, h⟩ := exists_of_run_bind h
  cases r with
  | error e =>
    cases h
    exact .done
  | ok v =>
    cases h
    exact resolveValue_blind path select v

def Selection.LeavesPasswords (t : RootType) (s : Selection) : Prop :=
  ∀ j, rootField? t s = .ok (.job j) → j.LeavesPasswords

theorem resolveRoot_plain {t : RootType} {s : Selection} (hs : s.LeavesPasswords t) :
    Plain (resolveRoot settings caller t s) := by
  unfold resolveRoot
  refine .ite (.done rfl) ?_
  split
  · exact .done rfl
  · exact .done rfl
  · exact .done rfl
  · rename_i j p hj
    exact .bind_plain (resolveJob_plain _ _ (hs j hj)) fun _ => .done rfl

theorem resolveRoot_blind {t : RootType} {s : Selection} {m : Memory}
    {x : Fetch (String × Resolved)}
    (h : ((resolveRoot settings caller t s).run Memory.handle m).1 = .ok x) : x.Blind := by
  unfold resolveRoot at h
  split at h
  · cases h
    exact .done
  split at h
  · cases h
    exact .done
  · cases h
    exact .done
  · cases h
    exact .done
  · obtain ⟨y, m', hy, h⟩ := exists_of_run_bind h
    cases h
    exact (resolveJob_blind hy).map

theorem resolveQuery_plain {fields : List Selection}
    (hfields : ∀ s ∈ fields, s.LeavesPasswords .query) :
    Plain (resolveQuery settings caller fields) := by
  induction fields with
  | nil => exact .done rfl
  | cons s rest ih =>
    obtain ⟨hs, hrest⟩ := List.forall_mem_cons.1 hfields
    exact .bind_plain (resolveRoot_plain hs) fun _ => .bind_plain (ih hrest) fun _ => .done rfl

theorem resolveQuery_blind {fields : List Selection} {m : Memory}
    {xs : List (Fetch (String × Resolved))}
    (h : ((resolveQuery settings caller fields).run Memory.handle m).1 = .ok xs) :
    ∀ x ∈ xs, x.Blind := by
  induction fields generalizing m xs with
  | nil =>
    cases h
    simp
  | cons s rest ih =>
    obtain ⟨x, m₁, hx, h⟩ := exists_of_run_bind h
    obtain ⟨ys, m₂, hys, h⟩ := exists_of_run_bind h
    cases h
    exact List.forall_mem_cons.2 ⟨resolveRoot_blind hx, ih hys⟩

theorem runMutation_alike {fields : List Selection}
    (hfields : ∀ s ∈ fields, s.LeavesPasswords .mutation) (c : Loader.Config) {l l' : Loaders}
    (h : l.concealed = l'.concealed) :
    Alike id (runMutation c settings caller l fields) (runMutation c settings caller l' fields) := by
  induction fields generalizing l l' with
  | nil => exact .done rfl
  | cons s rest ih =>
    obtain ⟨hs, hrest⟩ := List.forall_mem_cons.1 hfields
    refine Alike.bind_of (resolveRoot_plain hs) (fun _ _ => resolveRoot_blind) fun x x' hx hxx' => ?_
    obtain rfl : x = x' := hxx'
    refine (hx.run_alike c h).bind fun r r' hr => ?_
    obtain ⟨hl, hanswer⟩ := Prod.ext_iff.1 hr
    have hanswer : r.2 = r'.2 := hanswer
    refine (ih hrest hl).bind fun rs rs' hrs => .done ?_
    obtain rfl : rs = rs' := hrs
    exact congrArg (· :: rs) hanswer

def Request.LeavesPasswords (r : Request) : Prop := ∀ s ∈ r.fields, s.LeavesPasswords r.root

theorem answer_plain {r : Request} (hr : r.LeavesPasswords) (c : Loader.Config) :
    Plain (answer c settings caller r) := by
  refine .ite (.done rfl) ?_
  refine .bind_plain ?_ fun _ => .done rfl
  obtain ⟨root, fields⟩ := r
  cases root with
  | query =>
    refine Alike.bind_of (resolveQuery_plain hr) (fun _ _ => resolveQuery_blind) fun xs xs' hxs h => ?_
    obtain rfl : xs = xs' := h
    refine ((Fetch.Blind.all hxs).run_alike c rfl).map fun r r' h => ?_
    exact (Prod.ext_iff.1 h).2
  | mutation => exact runMutation_alike hr c rfl

end Depot.GraphQL
