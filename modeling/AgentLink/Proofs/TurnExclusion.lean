import AgentLink.Proofs.Correlation
import AgentLink.Proofs.TurnCalls
import AgentLink.Proofs.TurnRecord

/-!
# One turn at a time

Take any number of tasks calling `prompt`, `waitComplete`, `newSession`, `cancel` and
`disconnect` on one client, with the tasks of its connections, and a world that writes to the
pipes but leaves the connections, the cells and the turn record alone. Interleave their segments
in any order, start more such tasks at any time, and let the clock run.

Give each task a phase: `owner` from the segment of a prompt that starts a turn to the segment
that ends it, `idle` otherwise. Then in every state reached exactly one task is the owner while a
turn is in progress and none is otherwise (`TurnInv.owners`): no task but the owner can end the
turn, and a prompt that starts one becomes its only owner. The turn's waiters exist only while a
turn is in progress (`TurnInv.waiters`). A waiter's cell is settled only after a step that ended
the turn and let go of every waiter, filling their cells (`Pool.Reaches.released`): a task
waiting for the turn to end goes on only after the turn it waited for has ended.

The invariants of the registry (`Pool.Sound`) and of the turn (`Pool.Phased` with `TurnInv`) are
carried together over every step (`Pool.Step.clientSound`, the step lemma) and every
interleaving (`Pool.Reaches.clientSound`, the run lemma).
-/

namespace AgentLink

open Concurrency Async Memory

/-- The tasks of a client: calls of its turn and session operations, any number of them, and the
tasks of its connections. -/
inductive ClientTask (hooks : Hooks) : Program Memory → Prop
  | transport {p : Program Memory} : TransportTask hooks p → ClientTask hooks p
  | prompt (session : String) (content : List PromptItem) (sink : Nat) :
      ClientTask hooks (Client.prompt session content sink).toProgram
  | waitComplete : ClientTask hooks Client.waitComplete.toProgram
  | newSession (cwd : String) (servers : List Json.Value) :
      ClientTask hooks (Client.newSession cwd servers).toProgram
  | cancel (session : String) : ClientTask hooks (Client.cancel session).toProgram
  | disconnect : ClientTask hooks Client.disconnect.toProgram

section Tasks

variable {hooks : Hooks} {p : Program Memory}

theorem TransportTask.psafe (hh : hooks.KeepTurn) (h : TransportTask hooks p) :
    p.PSafe TurnGuarantee (fun _ _ => True) .idle .idle := by
  cases h with
  | request i method params timeout =>
    exact (Link.keepsTurn_sendRequest i method params timeout).safe .idle
  | notify i method params => exact (Link.keepsTurn_sendNotification i method params).safe .idle
  | close i => exact (Link.keepsTurn_close i).safe .idle
  | start fromAgent toAgent => exact (Link.keepsTurn_start hh fromAgent toAgent).safe .idle
  | reader i fuel fr => exact (Link.keepsTurn_reader i hh fuel fr).safe .idle
  | writer i fuel => exact (Link.keepsTurn_writer i fuel).safe .idle

theorem ClientTask.safe (hh : hooks.Keep) (h : ClientTask hooks p) : p.Safe Guarantee Sealed := by
  cases h with
  | transport h => exact h.safe hh
  | prompt session content sink => exact (Client.keeps_prompt session content sink).safe
  | waitComplete => exact Client.keeps_waitComplete.safe
  | newSession cwd servers => exact (Client.keeps_newSession cwd servers).safe
  | cancel session => exact (Client.keeps_cancel session).safe
  | disconnect => exact Client.keeps_disconnect.safe

theorem ClientTask.psafe (hh : hooks.KeepTurn) (h : ClientTask hooks p) :
    p.PSafe TurnGuarantee (fun _ _ => True) .idle .idle := by
  cases h with
  | transport h => exact h.psafe hh
  | prompt session content sink => exact (Client.runsTurn_prompt session content sink).safe
  | waitComplete => exact Client.runsTurn_waitComplete.safe
  | newSession cwd servers => exact (Client.keepsTurn_newSession cwd servers).safe .idle
  | cancel session => exact (Client.keepsTurn_cancel session).safe .idle
  | disconnect => exact Client.keepsTurn_disconnect.safe .idle

end Tasks

/-- The world outside the tasks: it leaves the connections, the cells and the turn record
alone. -/
def TurnWorld (s s' : Memory) : Prop := TablesKept s s' ∧ s'.client.turn = s.client.turn

/-- What the turn record and the tasks' phases keep. -/
structure TurnInv (s : Memory) (phases : List TurnPhase) : Prop where
  /-- One task owns the turn while a turn is in progress, and none otherwise. -/
  owners : phases.count .owner = if s.client.turn.inProgress then 1 else 0
  /-- Waiters exist only while a turn is in progress. -/
  waiters : s.client.turn.waiters ≠ [] → s.client.turn.inProgress = true

namespace TurnInv

variable {s₀ s : Memory} {phases : List TurnPhase}

/-- A segment that keeps the turn's guarantee keeps the invariant, its task's phase updated. -/
theorem step {k : Nat} {g₀ g : TurnPhase} (h : TurnInv s₀ phases) (hk : phases[k]? = some g₀)
    (hs : TurnStep g₀ s₀ s g) : TurnInv s (phases.set k g) := by
  obtain ⟨hlt, hget⟩ := List.getElem?_eq_some_iff.1 hk
  have hcount := List.count_set (a := g) (b := TurnPhase.owner) hlt
  rw [hget] at hcount
  refine ⟨?_, hs.waiters h.waiters⟩
  rw [hcount, h.owners]
  by_cases hg₀ : g₀ = .owner
  · subst hg₀
    -- the owner was counted, so a turn was in progress
    have hip : s₀.client.turn.inProgress = true := by
      have hpos : 0 < phases.count .owner := List.count_pos_iff.2 (List.mem_of_getElem? hk)
      by_contra hip
      rw [h.owners, if_neg hip] at hpos
      exact Nat.lt_irrefl _ hpos
    rcases hs.owner_keeps rfl with ⟨rfl, hip'⟩ | ⟨hg, hip'⟩
    · simp [hip, hip']
    · simp [hip, hip', hg]
  · by_cases hip : s₀.client.turn.inProgress = true
    · obtain ⟨hip', hg⟩ := hs.others_keep hg₀ hip
      simp [hip, hip', hg, hg₀]
    · have hstart := hs.starts hg₀ (Bool.eq_false_iff.2 hip)
      by_cases hg : g = .owner
      · simp [hip, hg, hg₀, hstart.1 hg]
      · have hip' : s.client.turn.inProgress = false :=
          Bool.eq_false_iff.2 fun h => hg (hstart.2 h)
        simp [hip, hg, hg₀, hip']

/-- A task started in phase `idle` owns nothing. -/
theorem spawn (h : TurnInv s phases) : TurnInv s (phases ++ [.idle]) :=
  ⟨by simpa using h.owners, h.waiters⟩

/-- The world leaves the turn record alone. -/
theorem world {s' : Memory} (h : TurnInv s phases) (hw : TurnWorld s s') : TurnInv s' phases := by
  obtain ⟨hown, hwait⟩ := h
  exact ⟨by rw [hw.2]; exact hown, by rw [hw.2]; exact hwait⟩

end TurnInv

namespace Concurrency.Pool

theorem Step.mono {env env' : Memory → Memory → Prop} {allowed : Program Memory → Prop}
    (h : ∀ s s', env s s' → env' s s') {P Q : Pool Memory} (hs : Step env allowed P Q) :
    Step env' allowed P Q := by
  cases hs with
  | run hk hp => exact .run hk hp
  | tick ht => exact .tick ht
  | world hw => exact .world (h _ _ hw)
  | start hp => exact .start hp

/-- What every pool of a client's tasks keeps: the registry's invariants and the turn's, with a
phase for each task. -/
structure ClientSound (P : Pool Memory) : Prop where
  sound : P.Sound
  phased : P.Phased TurnGuarantee (fun _ _ => True) .idle TurnInv

section Lifting

variable {hooks : Hooks} (hh : hooks.Keep) (hh' : hooks.KeepTurn)
include hh hh'

/-- One step of an interleaving keeps a client's pool sound and advances the memory. -/
theorem Step.clientSound {P Q : Pool Memory} (hs : Step TurnWorld (ClientTask hooks) P Q)
    (hP : P.ClientSound) : Q.ClientSound ∧ P.state.Advance Q.state := by
  obtain ⟨hsound, hadv⟩ := Step.sound (fun _ hp => hp.safe hh) (hs.mono fun _ _ h => h.1) hP.sound
  refine ⟨⟨hsound, ?_⟩, hadv⟩
  exact Step.phased (fun _ => trivial) (fun _ _ _ _ _ => trivial)
    (fun _ _ _ _ _ _ _ hk hinv hG _ => hinv.step hk hG) (fun _ _ h => h.spawn)
    (fun _ _ _ hw h => h.world hw) (fun _ hp => hp.psafe hh') hs hP.phased

/-- A whole interleaving keeps a client's pool sound. -/
theorem Reaches.clientSound {P Q : Pool Memory} (hr : Reaches TurnWorld (ClientTask hooks) P Q)
    (hP : P.ClientSound) : Q.ClientSound := by
  induction hr with
  | refl _ => exact hP
  | step hs _ ih => exact ih (Step.clientSound hh hh' hs hP).1

/-- A step that takes a waiter away ends the turn, lets go of every waiter and fills the waiter's
cell. -/
theorem Step.releases {P Q : Pool Memory} (hs : Step TurnWorld (ClientTask hooks) P Q)
    (hP : P.ClientSound) {c : Nat} (hc : c ∈ P.state.client.turn.waiters)
    (hc' : c ∉ Q.state.client.turn.waiters) :
    Q.state.client.turn.inProgress = false ∧ Q.state.client.turn.waiters = [] ∧
      (Q.state.cell c).isSettled = true := by
  have hrel := Step.phased_rel (fun _ => trivial) (fun _ _ _ _ _ => trivial)
    (R := fun s s' => ∀ c ∈ s.client.turn.waiters, c ∉ s'.client.turn.waiters →
      s'.client.turn.inProgress = false ∧ s'.client.turn.waiters = [] ∧
        (c < s'.cells.size → (s'.cell c).isSettled = true))
    (fun _ c hc hc' => absurd hc hc') (fun _ _ hw c hc hc' => absurd (hw.2 ▸ hc) hc')
    (fun _ _ _ _ _ hG c hc hc' => (hG.released c hc hc').2) hs hP.phased
  obtain ⟨hip, hw, hcell⟩ := hrel c hc hc'
  -- the waiter's cell exists: it is held, and cells are never taken away
  have hlt := (hP.sound.consistent.live c .waiter hc).1
  have hgrow := (Step.clientSound hh hh' hs hP).2.cells_grow
  exact ⟨hip, hw, hcell (Nat.lt_of_lt_of_le hlt hgrow)⟩

/-- A waiter's cell is settled only after a step that ended the turn, let go of every waiter and
filled the waiter's cell. -/
theorem Reaches.released {P Q : Pool Memory} (hr : Reaches TurnWorld (ClientTask hooks) P Q)
    (hP : P.ClientSound) {c : Nat} (hc : c ∈ P.state.client.turn.waiters)
    (hset : (Q.state.cell c).isSettled = true) :
    ∃ P₁ P₂, Reaches TurnWorld (ClientTask hooks) P P₁ ∧ Step TurnWorld (ClientTask hooks) P₁ P₂ ∧
      Reaches TurnWorld (ClientTask hooks) P₂ Q ∧ c ∈ P₁.state.client.turn.waiters ∧
      c ∉ P₂.state.client.turn.waiters ∧ P₂.state.client.turn.inProgress = false ∧
      P₂.state.client.turn.waiters = [] ∧ (P₂.state.cell c).isSettled = true := by
  induction hr with
  | refl P =>
    -- a held cell is empty
    rw [(hP.sound.consistent.live c .waiter hc).2] at hset
    cases hset
  | @step P P' Q hs hr ih =>
    by_cases hc' : c ∈ P'.state.client.turn.waiters
    · obtain ⟨P₁, P₂, h₁, h₂, h₃, rest⟩ := ih (Step.clientSound hh hh' hs hP).1 hc' hset
      exact ⟨P₁, P₂, .step hs h₁, h₂, h₃, rest⟩
    · obtain ⟨hip, hw, hcell⟩ := Step.releases hh hh' hs hP hc hc'
      exact ⟨P, P', .refl P, hs, hr, hc, hc', hip, hw, hcell⟩

end Lifting

end Concurrency.Pool

/-- A pool whose tasks are all about to start, with no turn in progress, keeps a client's
invariants. -/
theorem Pool.clientSound_start {hooks : Hooks} (hh : hooks.Keep) (hh' : hooks.KeepTurn)
    {P : Pool Memory} (hinv : P.state.Consistent)
    (hclosed : ∀ j, (P.state.link j).closed = true → (P.state.link j).pending = [])
    (hidle : P.state.client.turn.inProgress = false) (hnone : P.state.client.turn.waiters = [])
    (htasks : ∀ p ∈ P.tasks, ClientTask hooks p) : P.ClientSound := by
  refine ⟨⟨hinv, fun p hp => (htasks p hp).safe hh, fun j hc hpend => absurd (hclosed j hc) hpend⟩,
    List.replicate P.tasks.length .idle, by simp, fun i p g hp hg => ?_, ?_, fun h => absurd hnone h⟩
  · rw [List.getElem?_replicate] at hg
    split at hg
    · cases hg
      exact (htasks p (List.mem_of_getElem? hp)).psafe hh' |>.ready
    · cases hg
  · simp [hidle, List.count_replicate]

/-- Turns run one at a time over every interleaving of a client's calls, from a consistent state
with no turn in progress: in every pool reached, with a phase for each task, one task owns the
turn exactly while a turn is in progress, and waiters exist only then; a waiter's cell is settled
only after a step that ended the turn and let go of every waiter. Of the calls themselves: a
prompt refused for want of a connection or for a turn in progress returns at once and changes
nothing; `cancel` leaves the turn record alone; `newSession` changes it only on success, and
then only the active session, to the non-empty id it returns; and waiting for the turn returns
at once when no turn is in progress, and otherwise holds a new cell among the waiters and gives
way until that cell is settled. -/
theorem turn_exclusion {hooks : Hooks} (hh : hooks.Keep) (hh' : hooks.KeepTurn)
    {P R : Pool Memory} (hinv : P.state.Consistent)
    (hclosed : ∀ j, (P.state.link j).closed = true → (P.state.link j).pending = [])
    (hidle : P.state.client.turn.inProgress = false) (hnone : P.state.client.turn.waiters = [])
    (htasks : ∀ p ∈ P.tasks, ClientTask hooks p)
    (hR : Pool.Reaches TurnWorld (ClientTask hooks) P R) :
    R.Phased TurnGuarantee (fun _ _ => True) .idle TurnInv ∧
    (∀ R', Pool.Reaches TurnWorld (ClientTask hooks) R R' →
      ∀ c ∈ R.state.client.turn.waiters, (R'.state.cell c).isSettled = true →
        ∃ R₁ R₂, Pool.Reaches TurnWorld (ClientTask hooks) R R₁ ∧
          Pool.Step TurnWorld (ClientTask hooks) R₁ R₂ ∧
          Pool.Reaches TurnWorld (ClientTask hooks) R₂ R' ∧ c ∈ R₁.state.client.turn.waiters ∧
          c ∉ R₂.state.client.turn.waiters ∧ R₂.state.client.turn.inProgress = false ∧
          R₂.state.client.turn.waiters = [] ∧ (R₂.state.cell c).isSettled = true) ∧
    (∀ session content sink (k : Except Failure Json.Value → Program Memory) t m,
      Client.isInitialized m = false →
        (Client.prompt session content sink k).runSegment t m =
          (k (.error .notInitialized)).runSegment t m) ∧
    (∀ session content sink (k : Except Failure Json.Value → Program Memory) t m,
      Client.isInitialized m = true → m.client.turn.inProgress = true →
        (Client.prompt session content sink k).runSegment t m =
          (k (.error (.turnInProgress ("cannot prompt session " ++ session ++
            " while another turn is running")))).runSegment t m) ∧
    (∀ session, LeavesTurn (Client.cancel session)) ∧
    (∀ cwd servers, Triple (fun s₀ s _ => SameTurn s₀ s) (fun _ _ => True) SameTurn
      (Client.newSession cwd servers) fun v s₀ s => SameTurn s₀ s ∨ ∃ x, x ≠ "" ∧
        v = .ok (.string x) ∧ s.client.turn = { s₀.client.turn with activeSession := some x }) ∧
    (∀ (k : Except Failure Json.Value → Program Memory) t m, m.client.turn.inProgress = false →
      (Client.waitComplete k).runSegment t m = (k (.ok .null)).runSegment t m) ∧
    (∀ (k : Except Failure Json.Value → Program Memory) t m, m.client.turn.inProgress = true →
      (Client.waitComplete k).runSegment t m = (m.addWaiter, [],
        .wait (fun m' => (m'.cell m.cells.size).isSettled) none (.look fun _ _ => k (.ok .null)))) := by
  have hP := Pool.clientSound_start hh hh' hinv hclosed hidle hnone htasks
  have hRs := Pool.Reaches.clientSound hh hh' hR hP
  exact ⟨hRs.phased, fun _ hR' _ hc hset => Pool.Reaches.released hh hh' hR' hRs hc hset,
    Client.prompt_uninitialized, Client.prompt_busy, Client.leavesTurn_cancel,
    Client.newSession_sets_active, Client.waitComplete_idle, Client.waitComplete_busy⟩

/-- A client with an open connection over pipes 0 and 1, no turn in progress, and sink 0,
whose receiver listens. -/
def Memory.openLink : Memory :=
  { Memory.new { Client.new default with link := some 0 } with
    pipes := #[Pipe.fresh, Pipe.fresh], links := #[Connection.fresh 0 1],
    sinks := #[⟨true, [], true⟩] }

/-- No connection of `Memory.openLink` has a call waiting or a slot open. -/
theorem Memory.openLink_idle (j : Nat) :
    (Memory.openLink.link j).pending = [] ∧ (Memory.openLink.link j).slots = [] := by
  cases j with
  | zero => simp [Memory.link, Memory.openLink, Connection.fresh]
  | succ j =>
    -- past the one connection, a connection reads as the default one
    simp [Memory.link, Memory.openLink, Array.getD_eq_getD_getElem?]
    exact ⟨rfl, rfl⟩

/-- The client of `Memory.openLink` with a prompt of session `sess-1` and a wait for the turn,
neither yet started. -/
def promptBesideWait : Pool Memory :=
  ⟨Memory.openLink, 0, [(Client.prompt "sess-1" [] 0).toProgram, Client.waitComplete.toProgram]⟩

/-- The prompt of `promptBesideWait` starts its turn and the wait joins the waiters: along that
run the pool keeps the turn's invariant, with a turn in progress and a task waiting for it. -/
theorem turn_exclusion_fresh : ∃ R : Pool Memory,
    Pool.Reaches TurnWorld (ClientTask Cli.clientHooks) promptBesideWait R ∧
      R.state.client.turn.inProgress = true ∧ R.state.client.turn.waiters ≠ [] ∧
      R.Phased TurnGuarantee (fun _ _ => True) .idle TurnInv := by
  have hinv : Memory.openLink.Consistent := Memory.consistent_of_idle _
    (fun j => (Memory.openLink_idle j).1) (fun j => (Memory.openLink_idle j).2) rfl
  have htasks : ∀ p ∈ promptBesideWait.tasks, ClientTask Cli.clientHooks p := by
    intro p hp
    simp only [promptBesideWait, List.mem_cons, List.not_mem_nil, or_false] at hp
    rcases hp with rfl | rfl
    · exact .prompt "sess-1" [] 0
    · exact .waitComplete
  -- the prompt starts its turn and sends its request; the wait then joins the waiters
  have hr : Pool.Reaches TurnWorld (ClientTask Cli.clientHooks) promptBesideWait _ :=
    .step (.run (k := 0) rfl rfl) (.step (.run (k := 1) rfl rfl) (.refl _))
  exact ⟨_, hr, by decide, by decide, (turn_exclusion Cli.clientHooks_keep
    Cli.clientHooks_keepTurn hinv (fun j _ => (Memory.openLink_idle j).1) rfl rfl htasks hr).1⟩

end AgentLink
