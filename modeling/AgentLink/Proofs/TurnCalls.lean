import AgentLink.Proofs.TurnGuarantee
import AgentLink.Proofs.ClientTasks

/-!
# The client's calls keep the turn's guarantee

Three changes of the client's calls move the turn: a prompt's check-and-set starts a turn when
none is in progress, making its task the owner; waiting for the turn to end holds a new cell
among the waiters while a turn is in progress; and the owner's ending of the turn clears the
flag, lets go of every waiter and fills their cells, in one segment. Each keeps the turn's
guarantee by one lemma about `Calm` (`Calm.start`, `Calm.register`, `Calm.finish`). The other
calls leave the turn's flag and waiters alone and keep it as the connection's operations do.

`RunsTurn` is the guarantee of a call run by a task that is idle when it begins: its last
segment ends in a step of the turn's guarantee from wherever that segment began.
-/

namespace AgentLink

open Concurrency Async Memory

/-- Starting a turn when none is in progress makes a task that was not the owner the owner. -/
theorem Calm.start {g₀ : TurnPhase} {s₀ s s' : Memory} (h : Calm g₀ .idle s₀ s)
    (hg₀ : g₀ ≠ .owner) (hip : s.client.turn.inProgress = false)
    (hip' : s'.client.turn.inProgress = true)
    (hw : s'.client.turn.waiters = s.client.turn.waiters) : Calm g₀ .owner s₀ s' := by
  obtain ⟨hs, hsub⟩ := h
  have hmem : ∀ c ∈ s₀.client.turn.waiters, c ∈ s'.client.turn.waiters := fun c hc => by
    rw [hw]
    exact hsub c hc
  refine ⟨⟨fun hg => absurd hg hg₀, fun _ h₀ => ?_, fun _ _ => by simp [hip'], fun _ _ => hip',
    fun c hc hc' => absurd (hmem c hc) hc'⟩, hmem⟩
  -- a turn in progress when the segment began would still be in progress
  have hstill := (hs.others_keep hg₀ h₀).1
  rw [hip] at hstill
  cases hstill

/-- Holding more waiters while a turn is in progress keeps a stretch calm. -/
theorem Calm.register {g₀ g : TurnPhase} {s₀ s s' : Memory} (h : Calm g₀ g s₀ s)
    (hip : s.client.turn.inProgress = true)
    (hip' : s'.client.turn.inProgress = s.client.turn.inProgress) {ws : List Nat}
    (hw : s'.client.turn.waiters = s.client.turn.waiters ++ ws) : Calm g₀ g s₀ s' := by
  obtain ⟨hs, hsub⟩ := h
  have hmem : ∀ c ∈ s₀.client.turn.waiters, c ∈ s'.client.turn.waiters := fun c hc => by
    rw [hw]
    exact List.mem_append_left _ (hsub c hc)
  refine ⟨⟨?_, ?_, ?_, fun _ _ => hip' ▸ hip, fun c hc hc' => absurd (hmem c hc) hc'⟩, hmem⟩ <;>
    rw [hip']
  · exact hs.owner_keeps
  · exact hs.others_keep
  · exact hs.starts

/-- The owner's ending of the turn, with the filling of the cells of the waiters it lets go of,
ends the segment in a step of the turn's guarantee, the task idle again. -/
theorem Calm.finish {g₀ : TurnPhase} {s₀ s : Memory} (h : Calm g₀ .owner s₀ s) (k : Nat)
    (outcome o : Except Failure Json.Value) :
    TurnStep g₀ s₀ ((Client.endTurn k outcome s).2.fillAll s.client.turn.waiters o) .idle := by
  obtain ⟨hs, hsub⟩ := h
  -- a task that was not the owner when the segment began found no turn in progress
  have hfree : g₀ ≠ .owner → s₀.client.turn.inProgress = false := fun hg => by
    by_contra hip
    exact (hs.others_keep hg (by simpa using hip)).2 rfl
  refine ⟨fun _ => .inr ⟨by decide, by simp⟩, fun hg hip => absurd hip (by simp [hfree hg]),
    fun _ _ => by simp, fun _ hne => absurd (by simp) hne, fun c hc _ => ⟨?_, by simp, by simp,
      fun hlt => ?_⟩⟩
  · by_cases hg : g₀ = .owner
    · exact .inl hg
    · exact .inr (hfree hg)
  · refine isSettled_fillAll o _ _ c (hsub c hc) ?_
    simpa [Client.cells_endTurn] using hlt

/-- The loop that fills the waiters' cells acts as one change, `Memory.fillAll`. -/
theorem Concurrency.Async.TripleP.fills {γ : Type}
    {G : γ → Memory → Memory → Program Memory → γ → Prop} {H : Memory → Memory → Prop}
    {init : γ} {Q : Unit → γ → γ → Memory → Memory → Prop}
    (o : Except Failure Json.Value) (hH : ∀ s c, H s (s.modifyCell c (·.fill o))) :
    ∀ ws : List Nat, TripleP G H init (fun g₀ g s₀ s => Q () g₀ g s₀ (s.fillAll ws o))
      (ForIn.forIn ws () fun w _ => do Act.fill w o; Pure.pure (ForInStep.yield ())) Q
  | [] => TripleP.pure ()
  | w :: ws => by
    simp only [List.forIn_cons]
    refine TripleP.bind
      (Q := fun r g₀ g s₀ s => r = .yield () ∧ Q () g₀ g s₀ (s.fillAll ws o)) ?_ fun r => ?_
    · exact TripleP.bind (TripleP.conseq (TripleP.modify _)
        (fun _ g _ s h => ⟨hH s w, g, rfl, h⟩) fun _ _ _ _ _ h => h) fun _ => TripleP.pure _
    · cases r with
      | done u => exact fun _ _ _ _ _ _ h => absurd h.1 (by simp)
      | yield u =>
        exact TripleP.conseq (TripleP.fills o hH ws) (fun _ _ _ _ h => h.2)
          fun _ _ _ _ _ h => h

/-- A call that, begun by an idle task at the start of a segment, keeps the turn's guarantee
to its end. -/
def RunsTurn {α : Type} (a : Act α) : Prop :=
  TripleP TurnGuarantee (fun _ _ => True) .idle
    (fun g₀ g s₀ s => g₀ = .idle ∧ g = .idle ∧ Calm .idle .idle s₀ s) a
    fun _ g₀ g s₀ s => TurnStep g₀ s₀ s g

/-- The program of a call that runs the turn's guarantee is a task safe from phase `idle`. -/
theorem RunsTurn.safe {α : Type} {a : Act α} (h : RunsTurn a) :
    a.toProgram.PSafe TurnGuarantee (fun _ _ => True) .idle .idle :=
  TripleP.safe (TripleP.conseq h (fun _ _ _ _ h => by
    obtain ⟨rfl, rfl, rfl⟩ := h
    exact ⟨rfl, rfl, Calm.refl _ _⟩) fun _ _ _ _ _ h => h)

namespace Client

/-- A change of the turn record that leaves its flag and its waiters alone. -/
theorem keepsTurn_modifyTurn {f : Turn → Turn}
    (h : ∀ t, (f t).inProgress = t.inProgress ∧ (f t).waiters = t.waiters) :
    KeepsTurn (modifyTurn f) :=
  KeepsTurn.modifyFlag fun s => h s.client.turn

theorem keepsTurn_retrying {α : Type} (p : RetryPolicy) {op : Act (Except Failure α)}
    (hop : KeepsTurn op) : ∀ attempt fuel, KeepsTurn (retrying p op attempt fuel)
  | _, 0 => hop
  | attempt, fuel + 1 => by
    rw [retrying]
    refine KeepsTurn.bind hop fun r => ?_
    split
    · exact KeepsTurn.pure _
    · exact KeepsTurn.ite
        (KeepsTurn.bind (KeepsTurn.sleep _) fun _ => keepsTurn_retrying p hop _ fuel)
        (KeepsTurn.pure _)

/-- Opening a session changes only the active session. -/
theorem keepsTurn_newSession (cwd : String) (servers : List Json.Value) :
    KeepsTurn (newSession cwd servers) := by
  unfold newSession
  refine KeepsTurn.bind (KeepsTurn.read _) fun link => ?_
  cases link with
  | none => exact KeepsTurn.pure _
  | some i =>
    refine KeepsTurn.bind (KeepsTurn.read _) fun c =>
      KeepsTurn.bind (keepsTurn_retrying _ (Link.keepsTurn_sendRequest i _ _ _) _ _) fun r => ?_
    split
    · exact KeepsTurn.pure _
    · split
      · refine KeepsTurn.ite (KeepsTurn.pure _) ?_
        exact KeepsTurn.bind (keepsTurn_modifyTurn fun _ => ⟨rfl, rfl⟩) fun _ => KeepsTurn.pure _
      · exact KeepsTurn.pure _

theorem keepsTurn_cancel (session : String) : KeepsTurn (cancel session) := by
  unfold cancel
  dsimp only
  refine KeepsTurn.bind (KeepsTurn.read _) fun c => ?_
  split
  · exact KeepsTurn.bind (Link.keepsTurn_sendNotification _ _ _) fun _ => KeepsTurn.pure _
  · exact KeepsTurn.pure _

/-- Dropping the connection takes the turn's sink away and leaves the turn running. -/
theorem keepsTurn_disconnect : KeepsTurn disconnect := by
  unfold disconnect
  dsimp only
  refine KeepsTurn.bind (KeepsTurn.modifyGet fun _ => rfl) fun link => ?_
  split
  · exact KeepsTurn.bind (keepsTurn_modifyTurn fun _ => ⟨rfl, rfl⟩) fun _ =>
      KeepsTurn.bind (Link.keepsTurn_close _) fun _ => KeepsTurn.pure _
  · exact KeepsTurn.pure _

/-- Waiting for the turn to end: the cell is held among the waiters only while a turn is in
progress. -/
theorem runsTurn_waitComplete : RunsTurn waitComplete := by
  unfold waitComplete
  dsimp only
  refine TripleP.bind (Q := fun _ g₀ g s₀ s => g = .idle ∧ Calm g₀ .idle s₀ s) ?_ fun cell => ?_
  · refine TripleP.conseq (TripleP.modifyGet _) (fun g₀ g s₀ s h => ⟨trivial, .idle, rfl, ?_⟩)
      fun _ _ _ _ _ h => h
    obtain ⟨rfl, rfl, hc⟩ := h
    split
    · exact hc.register ‹_› rfl rfl
    · exact hc
  · -- then it waits for its cell, which leaves the turn alone
    refine TripleP.conseq (P := fun g₀ g s₀ s => g = .idle ∧ Calm g₀ .idle s₀ s)
      (Q := fun _ g₀ g s₀ s => g = .idle ∧ Calm g₀ .idle s₀ s) ?_ (fun _ _ _ _ h => h)
      fun _ _ _ _ _ h => by
        obtain ⟨rfl, hc⟩ := h
        exact hc.1
    split
    · exact KeepsTurn.bind (Link.keepsTurn_awaitCell _) (fun _ => KeepsTurn.pure _) .idle
    · exact KeepsTurn.pure _ .idle

/-- A prompt: refused, it leaves the turn alone; otherwise its task owns the turn from the
check-and-set until it ends the turn, and sends the prompt as the owner. -/
theorem runsTurn_prompt (session : String) (content : List PromptItem) (sink : Nat) :
    RunsTurn (prompt session content sink) := by
  unfold prompt liveLink
  refine TripleP.bind (Q := fun _ g₀ g s₀ s => g₀ = .idle ∧ g = .idle ∧ Calm .idle .idle s₀ s)
    (TripleP.read _) fun link => ?_
  cases link with
  | none =>
    exact TripleP.conseq (TripleP.pure _) (fun _ _ _ _ h => by
      obtain ⟨rfl, rfl, hc⟩ := h
      exact hc.1) fun _ _ _ _ _ h => h
  | some i =>
    refine TripleP.bind (Q := fun busy g₀ g s₀ s => if busy = true then
        g₀ = .idle ∧ g = .idle ∧ Calm .idle .idle s₀ s else g = .owner ∧ Calm g₀ .owner s₀ s)
      ?_ fun busy => ?_
    · refine TripleP.conseq (TripleP.modifyGet _) (fun g₀ g s₀ s h => ?_) fun _ _ _ _ _ h => h
      obtain ⟨rfl, rfl, hc⟩ := h
      dsimp only
      split
      · exact ⟨trivial, .idle, by simpa using hc⟩
      · refine ⟨trivial, .owner, ?_⟩
        rw [if_neg Bool.false_ne_true]
        exact ⟨rfl, hc.start (by decide) (Bool.eq_false_iff.2 ‹_›) rfl rfl⟩
    · split
      · refine TripleP.conseq (TripleP.pure _) (fun _ _ _ _ h => ?_) fun _ _ _ _ _ h => h
        obtain ⟨rfl, rfl, hc⟩ := h
        exact hc.1
      · refine TripleP.bind (Link.keepsTurn_sendRequest i _ _ _ .owner) fun outcome => ?_
        refine TripleP.bind (Q := fun ws g₀ g s₀ s => TurnStep g₀ s₀ (s.fillAll ws (.ok .null)) g)
          ?_ fun ws => TripleP.bind (TripleP.fills _ (fun _ _ => trivial) ws) fun _ =>
            TripleP.pure _
        refine TripleP.conseq (TripleP.modifyGet _) (fun g₀ g s₀ s h => ?_) fun _ _ _ _ _ h => h
        obtain ⟨rfl, hc⟩ := h
        exact ⟨trivial, .idle, hc.finish _ _ _⟩

end Client

end AgentLink
