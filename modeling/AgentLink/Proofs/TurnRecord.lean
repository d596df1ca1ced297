import AgentLink.Proofs.ClientTasks
import AgentLink.Proofs.TurnGuarantee

/-!
# What each call does to the turn record

Beside the lock the turn record carries the active session and the turn's sink. Of the calls
that run beside a turn, `cancel` leaves the whole record alone: it only writes to the agent.
`newSession` changes the active session only when it succeeds, and then to the id it returns,
which is not empty. A prompt refused because no connection is open or because a turn is in
progress returns its refusal in the segment it began in, having changed nothing and written
nothing. Waiting for the turn to end returns at once when no turn is in progress, and otherwise
holds a new cell among the waiters and gives way until that cell is settled.

`LeavesTurn` says of code, whatever follows it, that each of its segments ends with the turn
record as the segment found it.
-/

namespace AgentLink

open Concurrency Async Memory

/-- The turn record is the same at `s₀` and at `s`. -/
def Memory.SameTurn (s₀ s : Memory) : Prop := s.client.turn = s₀.client.turn

theorem Memory.SameTurn.refl (s : Memory) : SameTurn s s := rfl

/-- Code that leaves the turn record alone, whatever follows it: each of its segments ends with
the record as the segment found it. -/
def LeavesTurn {α : Type} (a : Act α) : Prop :=
  Triple (fun s₀ s _ => SameTurn s₀ s) (fun _ _ => True) SameTurn a fun _ => SameTurn

namespace LeavesTurn

variable {α β : Type}

theorem pure (v : α) : LeavesTurn (Pure.pure v : Act α) := Triple.pure v

theorem bind {a : Act α} {f : α → Act β} (ha : LeavesTurn a) (hf : ∀ v, LeavesTurn (f v)) :
    LeavesTurn (a >>= f) :=
  Triple.bind ha hf

theorem ite {c : Prop} [Decidable c] {a b : Act α} (ha : LeavesTurn a) (hb : LeavesTurn b) :
    LeavesTurn (if c then a else b) := by
  split
  · exact ha
  · exact hb

theorem modify {f : Memory → Memory} (h : ∀ s, (f s).client.turn = s.client.turn) :
    LeavesTurn (Async.modify f) :=
  Triple.conseq (Triple.modify f) (fun _ s hs => ⟨trivial, (h s).trans hs⟩) fun _ _ _ h => h

theorem modifyGet {f : Memory → α × Memory} (h : ∀ s, (f s).2.client.turn = s.client.turn) :
    LeavesTurn (Async.modifyGet f) :=
  Triple.conseq (Triple.modifyGet f) (fun _ s hs => ⟨trivial, (h s).trans hs⟩)
    fun _ _ _ h => h

theorem read (f : Memory → α) : LeavesTurn (Async.read f) := Triple.read f

theorem now : LeavesTurn (Async.now : Act Nat) :=
  Triple.conseq Triple.now (fun _ _ h _ => h) fun _ _ _ h => h

theorem spend : LeavesTurn (Async.spend : Act Unit) :=
  Triple.conseq Triple.spend (fun _ _ h _ => h) fun _ _ _ h => h ▸ SameTurn.refl _

theorem waitUntil (ready : Memory → Bool) (deadline : Option Nat) :
    LeavesTurn (Async.waitUntil ready deadline) :=
  Triple.conseq (Triple.waitUntil ready deadline) (fun _ _ h _ => h)
    fun _ _ _ h => h ▸ SameTurn.refl _

theorem sleep (ms : Nat) : LeavesTurn (Async.sleep ms : Act Unit) :=
  Triple.conseq (Triple.sleep ms) (fun _ _ h _ => h) fun _ _ _ h => h ▸ SameTurn.refl _

end LeavesTurn

namespace Link

variable (i : Nat)

theorem leavesTurn_waitForRoom : LeavesTurn (Link.waitForRoom i) := by
  unfold Link.waitForRoom
  exact LeavesTurn.bind (LeavesTurn.read _) fun _ =>
    LeavesTurn.ite (LeavesTurn.waitUntil _ _) (LeavesTurn.pure ())

theorem leavesTurn_enqueue (msg : Message) : LeavesTurn (Link.enqueue i msg) := by
  unfold Link.enqueue
  refine LeavesTurn.bind LeavesTurn.spend fun _ =>
    LeavesTurn.bind (leavesTurn_waitForRoom i) fun _ => LeavesTurn.modifyGet fun s => ?_
  split <;> rfl

theorem leavesTurn_report (r : ProcessReport) : LeavesTurn (Link.report i r) :=
  LeavesTurn.bind LeavesTurn.spend fun _ => LeavesTurn.modify fun s => by simp

theorem leavesTurn_sendNotification (method : String) (params : Json.Value) :
    LeavesTurn (Link.sendNotification i method params) := by
  unfold Link.sendNotification
  dsimp only
  refine LeavesTurn.bind (LeavesTurn.read _) fun closed => LeavesTurn.ite ?_ ?_ <;>
    refine LeavesTurn.bind ?_ fun _ => LeavesTurn.ite (leavesTurn_report i _) (LeavesTurn.pure ())
  · exact LeavesTurn.pure _
  · exact leavesTurn_enqueue i _

theorem leavesTurn_awaitCell (c : Nat) : LeavesTurn (Act.awaitCell c) :=
  LeavesTurn.bind (LeavesTurn.waitUntil _ _) fun _ => LeavesTurn.read _

theorem leavesTurn_sendRequest (method : String) (params : Json.Value)
    (timeout : Option Duration) : LeavesTurn (Link.sendRequest i method params timeout) := by
  unfold Link.sendRequest
  refine LeavesTurn.bind (LeavesTurn.modifyGet fun _ => rfl) fun id =>
    LeavesTurn.bind (LeavesTurn.modifyGet fun _ => rfl) fun cell =>
      LeavesTurn.bind (LeavesTurn.read _) fun _ => LeavesTurn.ite (LeavesTurn.pure _) ?_
  refine LeavesTurn.bind (LeavesTurn.modify fun _ => rfl) fun _ =>
    LeavesTurn.bind (leavesTurn_enqueue i _) fun queued => LeavesTurn.ite
      (LeavesTurn.bind (LeavesTurn.modify fun _ => rfl) fun _ => LeavesTurn.pure _) ?_
  cases timeout with
  | none => exact LeavesTurn.bind (leavesTurn_awaitCell cell) fun _ => LeavesTurn.pure _
  | some limit =>
    exact LeavesTurn.bind LeavesTurn.now fun _ => LeavesTurn.bind (LeavesTurn.waitUntil _ _)
      fun _ => LeavesTurn.bind (LeavesTurn.read _) fun _ => LeavesTurn.ite (LeavesTurn.pure _)
        (LeavesTurn.bind (LeavesTurn.modify fun _ => rfl) fun _ => LeavesTurn.pure _)

end Link

namespace Client

theorem leavesTurn_retrying {α : Type} (p : RetryPolicy) {op : Act (Except Failure α)}
    (hop : LeavesTurn op) : ∀ attempt fuel, LeavesTurn (retrying p op attempt fuel)
  | _, 0 => hop
  | attempt, fuel + 1 => by
    rw [retrying]
    refine LeavesTurn.bind hop fun r => ?_
    split
    · exact LeavesTurn.pure _
    · exact LeavesTurn.ite
        (LeavesTurn.bind (LeavesTurn.sleep _) fun _ => leavesTurn_retrying p hop _ fuel)
        (LeavesTurn.pure _)

/-- Cancelling a turn changes nothing of the turn record: it only writes to the agent. -/
theorem leavesTurn_cancel (session : String) : LeavesTurn (cancel session) := by
  unfold cancel
  dsimp only
  refine LeavesTurn.bind (LeavesTurn.read _) fun c => ?_
  split
  · exact LeavesTurn.bind (Link.leavesTurn_sendNotification _ _ _) fun _ => LeavesTurn.pure _
  · exact LeavesTurn.pure _

/-- Opening a session leaves the turn record alone, but for its last change on success: the
active session becomes the id it returns, which is not empty. -/
theorem newSession_sets_active (cwd : String) (servers : List Json.Value) :
    Triple (fun s₀ s _ => SameTurn s₀ s) (fun _ _ => True) SameTurn (newSession cwd servers)
      fun v s₀ s => SameTurn s₀ s ∨ ∃ x, x ≠ "" ∧ v = .ok (.string x) ∧
        s.client.turn = { s₀.client.turn with activeSession := some x } := by
  unfold newSession
  -- every way out but the last leaves the record as it was
  have hsame : ∀ v : Except Failure Json.Value, Triple (fun s₀ s _ => SameTurn s₀ s)
      (fun _ _ => True) SameTurn (Pure.pure v : Act _) fun v s₀ s => SameTurn s₀ s ∨
        ∃ x, x ≠ "" ∧ v = .ok (.string x) ∧
          s.client.turn = { s₀.client.turn with activeSession := some x } :=
    fun v => Triple.conseq (Triple.pure v) (fun _ _ h => .inl h) fun _ _ _ h => h
  refine Triple.bind (LeavesTurn.read _) fun link => ?_
  cases link with
  | none => exact hsame _
  | some i =>
    refine Triple.bind (LeavesTurn.read _) fun c =>
      Triple.bind (leavesTurn_retrying _ (Link.leavesTurn_sendRequest i _ _ _) _ _) fun r => ?_
    split
    · exact hsame _
    · split
      · rename_i x _
        by_cases hx : x.isEmpty = true
        · rw [if_pos hx]
          exact hsame _
        · rw [if_neg hx]
          refine Triple.bind (Q := fun _ s₀ s =>
              s.client.turn = { s₀.client.turn with activeSession := some x }) ?_ fun _ =>
            Triple.conseq (Triple.pure _)
              (fun _ _ h => .inr ⟨x, fun he => hx (by simp [he]), rfl, h⟩) fun _ _ _ h => h
          refine Triple.conseq (Triple.modify _) (fun s₀ s h => ⟨trivial, ?_⟩) fun _ _ _ h => h
          have hturn : s.client.turn = s₀.client.turn := h
          rw [← hturn]
      · exact hsame _

/-- With no connection open, the live connection looked up is none. -/
theorem live_eq_none {m : Memory} (h : isInitialized m = false) :
    (m.client.link.filter fun i => !(m.link i).closed) = none := by
  unfold isInitialized at h
  cases hc : m.client.link with
  | none => rfl
  | some i => simp_all

/-- A prompt with no connection open returns `NotInitialized` at once: its segment runs as the
code after it would, from the same state. -/
theorem prompt_uninitialized (session : String) (content : List PromptItem) (sink : Nat)
    (k : Except Failure Json.Value → Program Memory) (t : Nat) (m : Memory)
    (h : isInitialized m = false) :
    (prompt session content sink k).runSegment t m = (k (.error .notInitialized)).runSegment t m := by
  simp [prompt, bind, liveLink, Async.read, Program.runSegment, live_eq_none h, pure]

/-- A prompt while a turn is in progress returns `TurnInProgress` at once: its segment runs as
the code after it would, from the same state. -/
theorem prompt_busy (session : String) (content : List PromptItem) (sink : Nat)
    (k : Except Failure Json.Value → Program Memory) (t : Nat) (m : Memory)
    (hi : isInitialized m = true) (h : m.client.turn.inProgress = true) :
    (prompt session content sink k).runSegment t m =
      (k (.error (.turnInProgress
        ("cannot prompt session " ++ session ++ " while another turn is running")))).runSegment t m := by
  obtain ⟨i, hlink⟩ : ∃ i, (m.client.link.filter fun i => !(m.link i).closed) = some i := by
    unfold isInitialized at hi
    cases hc : m.client.link with
    | none => simp_all
    | some i => exact ⟨i, by simp_all⟩
  simp [prompt, bind, liveLink, Async.read, Async.modifyGet, Program.runSegment, hlink, h, pure]

/-- Waiting for the turn to end when none is in progress returns at once. -/
theorem waitComplete_idle (k : Except Failure Json.Value → Program Memory) (t : Nat) (m : Memory)
    (h : m.client.turn.inProgress = false) :
    (waitComplete k).runSegment t m = (k (.ok .null)).runSegment t m := by
  simp [waitComplete, bind, Async.modifyGet, Program.runSegment, h, pure]

/-- Waiting for the turn to end while one is in progress holds a new cell among the waiters and
gives way until that cell is settled. -/
theorem waitComplete_busy (k : Except Failure Json.Value → Program Memory) (t : Nat) (m : Memory)
    (h : m.client.turn.inProgress = true) :
    (waitComplete k).runSegment t m = (m.addWaiter, [],
      .wait (fun m' => (m'.cell m.cells.size).isSettled) none (.look fun _ _ => k (.ok .null))) := by
  simp [waitComplete, bind, Async.modifyGet, Program.runSegment, h, pure, Act.awaitCell,
    Async.waitUntil]
  exact ⟨rfl, rfl, rfl⟩

end Client

end AgentLink
