import Depot.Proofs.Discipline
import Depot.Proofs.History

namespace Depot.Operation

open Program Store

/-- An act with the state that it started in, what came of it, and the state that it left. -/
structure Event where
  act : Act
  before : Memory
  outcome : Except Error Reply
  after : Memory

def Act.event (s : Accounts.Settings) (a : Act) (m : Memory) : Event :=
  ⟨a, m, ((a.perform s).run Memory.handle m).1, ((a.perform s).run Memory.handle m).2⟩

/-- The events of a run so far, the latest one first, and the state it has come to. Anybody may act
as any principal; between two acts only time passes. -/
inductive Run (s : Accounts.Settings) : List Event → Memory → Prop
  | start (clock : Timestamp) : Run s [] (Memory.empty clock)
  | tick {es : List Event} {m : Memory} (h : Run s es m) (now : Timestamp) :
    Run s es { m with clock := now }
  | act {es : List Event} {m : Memory} (h : Run s es m) (a : Act) :
    Run s (a.event s m :: es) (a.event s m).after

/-- The principal of the session that was opened, if it was a login that went well. -/
def Event.principal? (e : Event) : Option Principal :=
  match e.outcome with
  | .ok reply => reply.session.map (·.principal)
  | .error _ => none

def Issued (es : List Event) (p : Principal) : Prop := ∃ e ∈ es, e.principal? = some p

def visited (es : List Event) (m : Memory) : List Memory :=
  m :: es.flatMap fun e => [e.before, e.after]

def Known (states : List Memory) (p : Principal) : Prop :=
  ∃ u, Stored states (.user u) ∧ u.flags = p.flags

theorem flags_of_principal {u : User} {p : Principal} (hborn : Record.born u)
    (h : u.principal = .ok p) : u.flags = p.flags := by
  obtain ⟨kind, hflags⟩ := hborn
  have hp : u.principal = .ok ⟨u.id, kind⟩ := by
    simp only [User.principal, hflags, Principal.principal?_flags]
  rw [hp] at h
  cases h
  exact hflags

theorem Lineage.known {states seen : List Memory} (h : Lineage states) (hseen : seen ⊆ states)
    {p : Principal} (hp : ∃ u, Stored seen (.user u) ∧ u.principal = .ok p) : Known states p := by
  obtain ⟨u, ⟨m, hm, hu⟩, hp⟩ := hp
  exact ⟨u, ⟨m, hseen hm, hu⟩, flags_of_principal ((h.sound m (hseen hm)).users.born u hu) hp⟩

/-- What is recorded of an event, told by the states of a history. -/
structure Event.Justified (e : Event) (states : List Memory) : Prop where
  before : e.before ∈ states
  after : e.after ∈ states
  reply : ∀ reply, e.outcome = .ok reply → ∃ seen ⊆ states, reply.Justified e.act seen

theorem Event.Justified.mono {e : Event} {states states' : List Memory} (hs : states ⊆ states')
    (h : e.Justified states) : e.Justified states' := by
  refine ⟨hs h.before, hs h.after, fun reply hreply => ?_⟩
  obtain ⟨seen, hseen, hj⟩ := h.reply reply hreply
  exact ⟨seen, List.Subset.trans hseen hs, hj⟩

theorem Run.history {s : Accounts.Settings} {es : List Event} {m : Memory} (h : Run s es m) :
    ∃ past, History s (m :: past) ∧ ∀ e ∈ es, e.Justified (m :: past) := by
  induction h with
  | start clock => exact ⟨[], .start clock, fun _ he => absurd he List.not_mem_nil⟩
  | @tick es m _ now ih =>
    obtain ⟨past, hist, hes⟩ := ih
    exact ⟨m :: past, .tick hist now, fun e he => (hes e he).mono (List.subset_cons_self _ _)⟩
  | @act es m _ a ih =>
    obtain ⟨past, hist, hes⟩ := ih
    have hconforms : Conforms _ _ _ [] (a.perform s) := Act.perform_conforms s a
    obtain ⟨past', hist', hpast, hreply⟩ := hconforms.run (H := History s)
      (fun _ _ _ _ hseen hc hist => hist.call hseen hc) (List.nil_subset _) hist
    refine ⟨past', hist', fun e he => ?_⟩
    obtain rfl | he := List.mem_cons.1 he
    · exact ⟨hpast List.mem_cons_self, List.mem_cons_self, hreply⟩
    · exact (hes e he).mono hpast

theorem visited_subset {es : List Event} {m : Memory} {past : List Memory}
    (hes : ∀ e ∈ es, e.Justified (m :: past)) : visited es m ⊆ m :: past := by
  intro n hn
  obtain rfl | hn := List.mem_cons.1 hn
  · exact List.mem_cons_self
  · obtain ⟨e, he, hn⟩ := List.mem_flatMap.1 hn
    obtain rfl | hn := List.mem_cons.1 hn
    · exact (hes e he).before
    · obtain rfl := List.mem_singleton.1 hn
      exact (hes e he).after

theorem Run.sound {s : Accounts.Settings} {es : List Event} {m : Memory} (h : Run s es m) :
    m.Sound := by
  obtain ⟨past, hist, -⟩ := h.history
  exact hist.lineage.sound m List.mem_cons_self

theorem Run.faithful {s : Accounts.Settings} {es : List Event} {m : Memory} (h : Run s es m)
    {seen : List Memory} (hseen : seen ⊆ [m]) {a : Act} {c : Call} (hc : Act.Licensed s seen a c) :
    m.Faithful c := by
  obtain ⟨past, hist, -⟩ := h.history
  have hpast : [m] ⊆ m :: past := List.cons_subset_cons m (List.nil_subset past)
  exact hist.lineage.faithful (List.Subset.trans hseen hpast) hc

theorem Run.lineage {s : Accounts.Settings} {es : List Event} {m : Memory} (h : Run s es m) :
    ∃ states, Lineage states ∧ visited es m ⊆ states ∧ ∀ e ∈ es, e.Justified states := by
  obtain ⟨past, hist, hes⟩ := h.history
  exact ⟨m :: past, hist.lineage, visited_subset hes, hes⟩

theorem Issued.known {es : List Event} {states : List Memory} {p : Principal} (h : Issued es p)
    (hl : Lineage states) (hes : ∀ e ∈ es, e.Justified states) : Known states p := by
  obtain ⟨e, he, hp⟩ := h
  unfold Event.principal? at hp
  split at hp
  · rename_i reply hreply
    obtain ⟨t, ht, rfl⟩ := Option.map_eq_some_iff.1 hp
    obtain ⟨seen, hseen, hj⟩ := (hes e he).reply reply hreply
    exact hl.known hseen (hj.session t ht)
  · cases hp

end Depot.Operation
