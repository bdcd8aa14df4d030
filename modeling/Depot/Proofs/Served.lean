import Depot.Proofs.Escalation

namespace Depot.Http

open Operation Program Store

/-- The states that come of a state in the course of time if only acts of a kind are asked for. A query
is taken as it stands once its text has been read. -/
inductive Served (settings : Accounts.Settings) (kind : Act → Prop) (m : Memory) : Memory → Prop
  | start : Served settings kind m m
  | tick {n : Memory} (h : Served settings kind m n) (now : Timestamp) :
    Served settings kind m { n with clock := now }
  | request {n : Memory} (h : Served settings kind m n) (loader : Loader.Config) (now : Int)
    {r : Request} (hroute : Endpoint.ofPath? r.route ≠ some .query)
    (hr : ∀ caller a, Submits r caller a → kind a) :
    Served settings kind m (((⟨settings, loader, now⟩ : Service).respond r).run Memory.handle n).2
  | query {n : Memory} (h : Served settings kind m n) (loader : Loader.Config)
    (caller : Option Principal) {q : GraphQL.Request}
    (hq : ∀ p, caller = some p → ∀ j, GraphQL.Asked q.root q.fields j → kind (.job p j)) :
    Served settings kind m ((GraphQL.answer loader settings caller q).run Memory.handle n).2

/-- The calls of acts of a kind, told by the states that were seen. -/
def KeepsTo (s : Accounts.Settings) (kind : Act → Prop) (seen : List Memory) (c : Call) : Prop :=
  c.IsRead ∨ ∃ a, kind a ∧ Act.Licensed s seen a c

variable {settings : Accounts.Settings} {s : Service} {kind : Act → Prop} {m n : Memory}
variable {seen : List Memory} {caller : Option Principal} {r : Request} {q : GraphQL.Request}

theorem KeepsTo.licensed {c : Call} (h : KeepsTo settings kind seen c) :
    ∃ a, Act.Licensed settings seen a c := by
  obtain hread | ⟨a, -, hc⟩ := h
  · exact ⟨.login 0 .admin default, .read hread⟩
  · exact ⟨a, hc⟩

theorem Service.respond_keeps (hr : ∀ caller a, Submits r caller a → kind a) :
    Conforms Memory.handle (KeepsTo s.settings kind) (fun _ _ => True) seen (s.respond r) := by
  cases hcaller : s.caller r with
  | error e =>
    simp only [respond, hcaller]
    exact .done trivial
  | ok caller =>
    refine (respond_needs hcaller).mono (fun seen c hc => ?_) fun _ _ _ _ => trivial
    obtain hread | ⟨a, ha, hc⟩ := hc
    · exact .inl hread
    · exact .inr ⟨a, hr caller a ha, hc⟩

theorem answer_keeps (loader : Loader.Config)
    (hq : ∀ p, caller = some p → ∀ j, GraphQL.Asked q.root q.fields j → kind (.job p j)) :
    Conforms Memory.handle (KeepsTo settings kind) (fun _ _ => True) seen
      (GraphQL.answer loader settings caller q) := by
  refine GraphQL.answer_conforms loader ⟨fun _ _ => .inl, ?_⟩
  rintro p rfl seen j c hj hc
  exact .inr ⟨.job p j, hq p rfl j hj, hc⟩

namespace Served

/-- What holds in the beginning, as time goes by and after programs that keep to acts of the kind, holds
of all that is served. -/
theorem induct {H : Memory → Prop} (h : Served settings kind m n) (hstart : H m)
    (htick : ∀ (n : Memory) now, H n → H { n with clock := now })
    (hrun : ∀ {α : Type} (q : Program α) (n : Memory), H n →
      Conforms Memory.handle (KeepsTo settings kind) (fun _ _ => True) [] q →
      H (q.run Memory.handle n).2) : H n := by
  induction h with
  | start => exact hstart
  | tick _ now ih => exact htick _ now ih
  | request _ loader now _ hr ih =>
    exact hrun _ _ ih (Service.respond_keeps (s := ⟨settings, loader, now⟩) hr)
  | query _ loader caller hq ih => exact hrun _ _ ih (answer_keeps loader hq)

theorem history (h : Served settings kind m n) (hm : Serving settings m) :
    ∃ past, History settings (n :: past) := by
  refine h.induct (H := fun n => ∃ past, History settings (n :: past)) hm.history
    (fun n now hn => ?_) fun q n hn hq => ?_
  · obtain ⟨past, hn⟩ := hn
    exact ⟨_, .tick hn now⟩
  · obtain ⟨past, hn⟩ := hn
    exact history_run hn (hq.mono (fun _ _ => KeepsTo.licensed) fun _ _ _ _ => trivial)

/-- What acts of the kind preserve, whatever of it was seen before, is preserved. Any act may read, so
reading is put down to a login. -/
theorem preserves {P : Memory → Prop} (h : Served settings kind m n) (hm : P m)
    (hclock : ∀ (n : Memory) now, P n → P { n with clock := now })
    (hlogin : kind (.login 0 .admin default))
    (hcall : ∀ a seen (c : Call) n, kind a → Act.Licensed settings seen a c → (∀ x ∈ seen, P x) →
      P n → P (Memory.handle c n).2) : P n := by
  have hstep (seen : List Memory) (c : Call) (x : Memory) (past : List Memory)
      (hseen : seen ⊆ x :: past) (hc : KeepsTo settings kind seen c) (hx : ∀ n ∈ x :: past, P n) :
      ∀ n ∈ (Memory.handle c x).2 :: x :: past, P n := by
    obtain ⟨a, ha, hc⟩ : ∃ a, kind a ∧ Act.Licensed settings seen a c := by
      obtain hread | hc := hc
      · exact ⟨_, hlogin, .read hread⟩
      · exact hc
    have hafter := hcall a seen c x ha hc (fun n hn => hx n (hseen hn)) (hx x List.mem_cons_self)
    exact List.forall_mem_cons.2 ⟨hafter, hx⟩
  refine h.induct (H := P) hm hclock fun q n hn hq => ?_
  have hstart : ∀ x ∈ [n], P x := by simpa using hn
  obtain ⟨past, hpast, -⟩ := hq.run (H := fun l => ∀ n ∈ l, P n) hstep (List.nil_subset _) hstart
  exact hpast _ List.mem_cons_self

end Served

namespace Service

theorem run_respond_snd {e : Endpoint} (hcaller : s.caller r = .ok caller)
    (hroute : Endpoint.ofPath? r.route = some e) (n : Memory) :
    ((s.respond r).run Memory.handle n).2 = n ∨
      ((s.respond r).run Memory.handle n).2 = ((s.serve caller r e).run Memory.handle n).2 := by
  have hrespond : ((s.respond r).run Memory.handle n).2 =
      ((s.dispatch caller r).run Memory.handle n).2 := by
    simp only [respond, hcaller, bind_eq, run_bind]
    split <;> simp_all
  rw [hrespond, dispatch, hroute]
  by_cases hmethod : e.answers r.method
  · right
    simp only [hmethod, if_true, run_tryCatch]
    split <;> simp_all
  · left
    simp only [hmethod]
    rfl

theorem run_query_snd {answered : Option GraphQL.Request} (hbody : readQuery r = .ok answered)
    (n : Memory) :
    ((s.query caller r).run Memory.handle n).2 =
      match answered with
      | none => n
      | some q => ((GraphQL.answer s.loader s.settings caller q).run Memory.handle n).2 := by
  simp only [query, hbody, withBody]
  cases answered with
  | none => rfl
  | some q =>
    simp only [bind_eq, run_bind]
    split <;> simp_all

end Service

theorem Served.respond (h : Served settings kind m n) (loader : Loader.Config) (now : Int)
    (hr : ∀ caller a, Submits r caller a → kind a) :
    Served settings kind m (((⟨settings, loader, now⟩ : Service).respond r).run Memory.handle n).2 := by
  let s : Service := ⟨settings, loader, now⟩
  by_cases hroute : Endpoint.ofPath? r.route = some .query
  · cases hcaller : s.caller r with
    | error e =>
      have hrun : ((s.respond r).run Memory.handle n).2 = n := by
        simp only [Service.respond, hcaller]
        rfl
      rwa [hrun]
    | ok caller =>
      obtain hrun | hrun := Service.run_respond_snd hcaller hroute n
      · rwa [hrun]
      rw [hrun, Service.serve]
      cases hbody : Service.readQuery r with
      | error bad =>
        have hquery : ((s.query caller r).run Memory.handle n).2 = n := by
          simp only [Service.query, hbody]
          rfl
        rwa [hquery]
      | ok answered =>
        rw [Service.run_query_snd hbody]
        cases answered with
        | none => exact h
        | some q =>
          exact h.query loader caller fun p _ j hj => hr (some p) _ (.job hroute hbody hj)
  · exact h.request loader now hroute hr

end Depot.Http
