import AgentLink.Proofs.HookTasks

/-!
# Requests and responses correlate over every interleaving

Take any number of tasks calling `sendRequest`, `sendNotification` and `close` on any
connections, tasks that start connections and run their readers and writers, and a world that
writes to the pipes but leaves the connections and the cells alone. Interleave their segments in
any order, start more such tasks at any time, and let the clock run. Every state reached is
consistent: the waiting calls of a connection have distinct ids, each a number the connection
issued, and no cell waits twice. Between any two states of the run the memory advances: ids
are issued in increasing order, a cell is settled at most once, a call taken back unanswered
never gets an answer later, and a call whose cell is settled has been taken back and got
`TransportClosed` or the outcome of a response to its own id. A closed connection has waiting
calls only while a shutdown is between marking it closed and failing them.

The proof lifts the guarantee each task keeps (`Keeps`) to the pool: `Pool.Step.sound` is the
step lemma, `Pool.Reaches.sound` the run lemma.
-/

namespace AgentLink

open Concurrency Memory

/-- The tasks of a transport: callers of its operations, any number of them, and the tasks that
start connections and run their readers and writers. -/
inductive TransportTask (hooks : Hooks) : Program Memory → Prop
  | request (i : Nat) (method : String) (params : Json.Value) (timeout : Option Duration) :
      TransportTask hooks (Link.sendRequest i method params timeout).toProgram
  | notify (i : Nat) (method : String) (params : Json.Value) :
      TransportTask hooks (Link.sendNotification i method params).toProgram
  | close (i : Nat) : TransportTask hooks (Link.close i).toProgram
  | start (fromAgent toAgent : Nat) :
      TransportTask hooks (Link.start hooks fromAgent toAgent).toProgram
  | reader (i fuel : Nat) (fr : Framer) :
      TransportTask hooks (Link.reader hooks i fuel fr).toProgram
  | writer (i fuel : Nat) : TransportTask hooks (Link.writer i fuel).toProgram

theorem TransportTask.safe {hooks : Hooks} (hh : hooks.Keep) {p : Program Memory}
    (h : TransportTask hooks p) : p.Safe Guarantee Sealed := by
  cases h with
  | request i method params timeout => exact (Link.keeps_sendRequest i method params timeout).safe
  | notify i method params => exact (Link.keeps_sendNotification i method params).safe
  | close i => exact (Link.keeps_close i).safe
  | start fromAgent toAgent => exact (Link.keeps_start hh fromAgent toAgent).safe
  | reader i fuel fr => exact (Link.keeps_reader i hh fuel fr).safe
  | writer i fuel => exact (Link.keeps_writer i fuel).safe

/-- Failing the waiting calls of a connection leaves it none. -/
theorem Memory.failPending_clears (s : Memory) (j : Nat) :
    ((s.failPending j).link j).pending = [] := by
  have hlinks := (Steady.failPending s j).2
  have hlink : (s.failPending j).link j = (s.modifyLink j fun c => { c with pending := [] }).link j := by
    simp only [link, hlinks]
  rw [hlink]
  exact pending_cleared s j

namespace Concurrency.Pool

/-- Every closed connection with waiting calls has a shutdown about to fail them. -/
def Drains (P : Pool Memory) : Prop :=
  ∀ j, (P.state.link j).closed = true → (P.state.link j).pending ≠ [] →
    ∃ q ∈ P.tasks, DrainPoint j q

/-- What every pool of the host's tasks keeps. -/
structure Sound (P : Pool Memory) : Prop where
  consistent : P.state.Consistent
  safe : P.AllSafe Guarantee Sealed
  drains : P.Drains

theorem guarantee_refl (s : Memory) (q : Program Memory) : Guarantee s s q :=
  (Steady.refl s).guarantee q

/-- A shutdown resumed at its drain point leaves the connection without waiting calls when its
segment ends: nothing registers a call on a closed connection. -/
theorem drainPoint_segment {p p' : Program Memory} {j : Nat} (hd : DrainPoint j p)
    (hp : p.Safe Guarantee Sealed) {s : Memory} (hclosed : (s.link j).closed = true) {t : Nat}
    (hr : p.resume t s = some p') : ((p'.runSegment t s).1.link j).pending = [] := by
  obtain ⟨K, rfl⟩ := hd
  simp only [Program.resume, Option.some.injEq] at hr
  subst hr
  obtain ⟨hsealed, hK⟩ := hp.resume (t := t) (s := s) rfl
  obtain ⟨-, hchain, -, -⟩ := hK.runSegment guarantee_refl Sealed.refl (fun _ _ _ => Sealed.trans) t
  have hstill : ∀ e ∈ ((K.runSegment t (s.failPending j)).1.link j).pending,
      e ∈ ((s.failPending j).link j).pending := hchain.calls_stay j (hsealed.closed_stay j hclosed)
  rw [failPending_clears] at hstill
  change ((K.runSegment t (s.failPending j)).1.link j).pending = []
  exact List.eq_nil_iff_forall_not_mem.2 fun e he => by simpa using hstill e he

section Lifting

variable {allowed : Program Memory → Prop} (hallowed : ∀ p, allowed p → p.Safe Guarantee Sealed)
include hallowed

/-- One step of an interleaving keeps the pool sound and advances the memory. -/
theorem Step.sound {P Q : Pool Memory} (hs : Step TablesKept allowed P Q) (hP : P.Sound) :
    Q.Sound ∧ P.state.Advance Q.state := by
  have hsafe := Step.allSafe guarantee_refl Sealed.refl (fun _ _ _ => Sealed.trans) hallowed hs hP.safe
  cases hs with
  | @run k p p' hk hp =>
    have hpsafe := hP.safe p (List.mem_of_getElem? hk)
    obtain ⟨⟨hprog, hdrain⟩, hchain, -, -⟩ :=
      (hpsafe.resume hp).runSegment guarantee_refl Sealed.refl (fun _ _ _ => Sealed.trans) P.clock
    obtain ⟨hcons, hadv⟩ := hprog hP.consistent
    have hklt : k < P.tasks.length := (List.getElem?_eq_some_iff.1 hk).1
    refine ⟨⟨hcons, hsafe, fun j hclosed hpend => ?_⟩, hadv⟩
    by_cases hc₀ : (P.state.link j).closed = true
    · -- closed already: its calls were being drained, and only a drain point removes them all
      by_cases hpend₀ : (P.state.link j).pending = []
      · refine absurd (List.eq_nil_iff_forall_not_mem.2 fun e he => ?_) hpend
        have := hchain.calls_stay j hc₀ e he
        rw [hpend₀] at this
        cases this
      · obtain ⟨d, hd, hdp⟩ := hP.drains j hc₀ hpend₀
        obtain ⟨idx, hidx⟩ := List.mem_iff_getElem?.1 hd
        by_cases hik : idx = k
        · subst hik
          rw [hk] at hidx
          cases hidx
          exact absurd (drainPoint_segment hdp hpsafe hc₀ hp) hpend
        · refine ⟨d, List.mem_append_left _ (List.mem_of_getElem? (i := idx) ?_), hdp⟩
          rw [List.getElem?_set_ne (Ne.symm hik), hidx]
    · -- closed in this segment: the task stopped at a drain point
      have hq := hdrain j (by simpa using hc₀) hclosed
      exact ⟨_, List.mem_append_left _ (List.mem_of_getElem? (List.getElem?_set_self hklt)), hq⟩
  | tick => exact ⟨⟨hP.consistent, hsafe, hP.drains⟩, Advance.refl hP.consistent⟩
  | @world s hw =>
    obtain ⟨hcons, hadv⟩ := hw.steady.1.1 hP.consistent
    refine ⟨⟨hcons, hsafe, fun j hclosed hpend => ?_⟩, hadv⟩
    have hlink : s.link j = P.state.link j := by simp only [link, hw.1]
    exact hP.drains j (hlink ▸ hclosed) (hlink ▸ hpend)
  | start =>
    refine ⟨⟨hP.consistent, hsafe, fun j hclosed hpend => ?_⟩, Advance.refl hP.consistent⟩
    obtain ⟨q, hq, hdp⟩ := hP.drains j hclosed hpend
    exact ⟨q, List.mem_append_left _ hq, hdp⟩

/-- A whole interleaving keeps the pool sound and advances the memory. -/
theorem Reaches.sound {P Q : Pool Memory} (hr : Reaches TablesKept allowed P Q) (hP : P.Sound) :
    Q.Sound ∧ P.state.Advance Q.state := by
  induction hr with
  | refl P => exact ⟨hP, Advance.refl hP.consistent⟩
  | step hs _ ih =>
    obtain ⟨hQ, hadv⟩ := Step.sound hallowed hs hP
    obtain ⟨hR, hadv'⟩ := ih hQ
    exact ⟨hR, hadv.trans hP.consistent hadv'⟩

end Lifting

end Concurrency.Pool

/-- Request/response correlation over every interleaving of a transport's tasks, from any
consistent state in which no closed connection has waiting calls: every state reached is
consistent, the memory advances between any two of them, and a closed connection keeps waiting
calls only while a shutdown is about to fail them. -/
theorem transport_correlation {hooks : Hooks} (hh : hooks.Keep) {P R R' : Pool Memory}
    (hinv : P.state.Consistent)
    (hclosed : ∀ j, (P.state.link j).closed = true → (P.state.link j).pending = [])
    (htasks : ∀ p ∈ P.tasks, TransportTask hooks p)
    (hR : Pool.Reaches TablesKept (TransportTask hooks) P R)
    (hR' : Pool.Reaches TablesKept (TransportTask hooks) R R') :
    R'.state.Consistent ∧ R.state.Advance R'.state ∧ R'.Drains := by
  have hallowed : ∀ p, TransportTask hooks p → p.Safe Guarantee Sealed :=
    fun _ hp => hp.safe hh
  have hP : P.Sound :=
    ⟨hinv, fun p hp => hallowed p (htasks p hp), fun j hc hpend => absurd (hclosed j hc) hpend⟩
  obtain ⟨hRs, -⟩ := Pool.Reaches.sound hallowed hR hP
  obtain ⟨hR's, hadv⟩ := Pool.Reaches.sound hallowed hR' hRs
  exact ⟨hR's.consistent, hadv, hR's.drains⟩

/-- A host whose connections have no calls waiting and no slots open, and where no one waits
for the turn, holds no cell and is consistent. -/
theorem Memory.consistent_of_idle (m : Memory) (hpend : ∀ j, (m.link j).pending = [])
    (hslots : ∀ j, (m.link j).slots = []) (hwait : m.client.turn.waiters = []) :
    m.Consistent := by
  have hnone : ∀ c p, ¬ m.Holds c p := by
    intro c p hp
    cases p with
    | call j x => simp [Holds, hpend] at hp
    | slot j k => simp [Holds, hslots] at hp
    | waiter => simp [Holds, hwait] at hp
  refine ⟨fun c p _ hp => absurd hp (hnone c p), fun c p hp => absurd hp (hnone c p),
    fun j => ?_, fun j => ?_, ?_, fun j x c hx => absurd hx (hnone c (.call j x))⟩
  · simp [hpend]
  · simp [hslots]
  · simp [hwait]

/-- A host with no connection and no one waiting for a turn is consistent. -/
theorem Memory.consistent_new (options : ClientOptions) :
    (Memory.new (Client.new options)).Consistent := by
  -- every connection reads as the default one, with no calls and no slots
  have hlink : ∀ j, (Memory.new (Client.new options)).link j = default := fun j => by
    simp [Memory.link, Memory.new, Array.getD_eq_getD_getElem?]
  exact Memory.consistent_of_idle _ (fun j => by rw [hlink]; rfl) (fun j => by rw [hlink]; rfl) rfl

/-- A host with no connection, and a connection opened, a request sent on it and the connection
closed, none of them yet started. -/
def requestBesideClose : Pool Memory :=
  ⟨Memory.new (Client.new default), 0, [(Link.start benchHooks 0 1).toProgram,
    (Link.sendRequest 0 "initialize" .null none).toProgram, (Link.close 0).toProgram]⟩

/-- The connection of `requestBesideClose` opens and its request waits for an answer; then the
close marks it closed and gives way before failing the call: the call still waits on a closed
connection, the memory has advanced, and the pool drains. -/
theorem transport_correlation_opening : ∃ R R' : Pool Memory,
    Pool.Reaches TablesKept (TransportTask benchHooks) requestBesideClose R ∧
      Pool.Reaches TablesKept (TransportTask benchHooks) R R' ∧ (R.state.link 0).pending ≠ [] ∧
      (R'.state.link 0).closed = true ∧ (R'.state.link 0).pending ≠ [] ∧
      R.state.Advance R'.state ∧ R'.Drains := by
  have hclosed : ∀ j, (requestBesideClose.state.link j).closed = true →
      (requestBesideClose.state.link j).pending = [] := by
    intro j hc
    simp [requestBesideClose, Memory.link, Memory.new, Array.getD_eq_getD_getElem?] at hc
    cases hc
  have htasks : ∀ p ∈ requestBesideClose.tasks, TransportTask benchHooks p := by
    intro p hp
    simp only [requestBesideClose, List.mem_cons, List.not_mem_nil, or_false] at hp
    rcases hp with rfl | rfl | rfl
    · exact .start 0 1
    · exact .request 0 "initialize" .null none
    · exact .close 0
  -- the connection opens and the request queues its line and waits
  have hR : Pool.Reaches TablesKept (TransportTask benchHooks) requestBesideClose _ :=
    .step (.run (k := 0) rfl rfl) (.step (.run (k := 1) rfl rfl) (.refl _))
  -- the close runs up to the point where it gives way, with the call still waiting
  refine ⟨_, _, hR, .step (.run (k := 2) rfl rfl) (.refl _), by decide, by decide, by decide, ?_⟩
  exact (transport_correlation benchHooks_keep (Memory.consistent_new default) hclosed htasks hR
    (.step (.run (k := 2) rfl rfl) (.refl _))).2

end AgentLink
