import AgentLink.Proofs.Initialize
import AgentLink.Bench.Run

/-!
# Disconnecting while a handshake is under way

`disconnect` drops the stored connection in its first segment, without the initialisation lock.
A handshake holding the lock stores its connection only as it lets the lock go, so from the
moment `disconnect` has run, and so once it has returned, the client is uninitialised, and
asking for a session or a turn fails with `NotInitialized`, until a handshake stores a
connection as it lets the lock go (`disconnect_until_handshake`).

That handshake need not have begun after `disconnect` returned: one that had connected and was
waiting for the agent's answer when `disconnect` ran stores its connection when the answer
comes, with no handshake begun since (`disconnect_overtaken`).
-/

namespace AgentLink

open Concurrency Memory

namespace Client

/-- The step from `m` to `m'` stores a connection where none was stored, as the holder of the
initialisation lock lets it go: a handshake succeeds. -/
def StoresOnRelease (m m' : Memory) : Prop :=
  m.client.link = none ∧ m'.client.serving = m.client.serving + 1 ∧ m'.client.link ≠ none

/-- The first segment of `disconnect` leaves no connection stored. -/
theorem disconnect_segment_link (t : Nat) (m : Memory) :
    (disconnect.toProgram.runSegment t m).1.client.link = none := by
  cases hc : m.client.link with
  | none => simp [disconnect, bind, Async.modifyGet, Program.runSegment, hc, pure, Async.toProgram]
  | some i =>
    simp only [disconnect, bind, Async.modifyGet, Program.runSegment, hc, pure, modifyTurn, modify,
      Link.close, Link.shutdown, Async.toProgram, Async.modify, Async.spend]
    -- marking the connection closed leaves the client, and so its dropped link, alone
    generalize hs : markClosed _ i = r
    obtain ⟨closedNow, s⟩ := r
    have hkeep : s.client.link = none := by
      rw [show s = (markClosed _ i).2 by rw [hs]]
      unfold markClosed
      split <;> rfl
    cases closedNow <;> simp [Program.runSegment, hkeep]

end Client

namespace Concurrency.Pool

variable {P R : Pool Memory}

/-- From a pool with no connection stored, every interleaving keeps none stored until a step
stores one as it lets the initialisation lock go. -/
theorem Reaches.stored_by_release (hr : Reaches LockKept InitTask P R) (hP : P.LockPhased)
    (hnone : P.state.client.link = none) :
    R.state.client.link = none ∨
      ∃ Q Q', Reaches LockKept InitTask P Q ∧ Step LockKept InitTask Q Q' ∧
        Reaches LockKept InitTask Q' R ∧ Client.StoresOnRelease Q.state Q'.state := by
  induction hr with
  | refl => exact .inl hnone
  | @step P Q R hs hrest ih =>
    by_cases hq : Q.state.client.link = none
    · -- still none stored: go on from the next pool
      rcases ih (Reaches.lockPhased (.step hs (.refl _)) hP) hq with h | ⟨Q₁, Q₂, h₁, h₂, h₃, h₄⟩
      · exact .inl h
      · exact .inr ⟨Q₁, Q₂, .step hs h₁, h₂, h₃, h₄⟩
    · -- a connection is stored in this very step, which can only be the holder letting go
      have hrel : Q.state.client.serving = P.state.client.serving + 1 := by
        rcases (hs.initStep hP).link with h | h | ⟨h, -⟩
        · exact absurd (h.trans hnone) hq
        · exact absurd h hq
        · exact h
      exact .inr ⟨P, Q, .refl _, hs, hrest, hnone, hrel, hq⟩

end Concurrency.Pool

/-- A client with no connection and one agent's connection open, a handshake through the
bench's connector and a disconnect, neither yet started. -/
def handshakeBesideDisconnect : Pool Memory :=
  ⟨((Memory.new (Client.new default)).addLink (Connection.fresh 0 1)).2, 0,
    [(Client.handshake (agentConnector 1)).toProgram, Client.disconnect.toProgram]⟩

open Pool in
/-- Once a disconnect has run its first segment, over every interleaving of handshakes,
disconnects and a world that leaves the lock alone: either the client is uninitialised, and
asking for a session or a turn fails with `NotInitialized` at once, or on the way a handshake
stored its connection as it let the initialisation lock go. -/
theorem disconnect_until_handshake {P R : Pool Memory} {k : Nat} (hP : P.LockPhased)
    (hk : P.tasks[k]? = some Client.disconnect.toProgram)
    (hR : Reaches LockKept InitTask (P.runTask k Client.disconnect.toProgram) R) :
    (Client.isInitialized R.state = false ∧
      (∀ cwd servers k t, (Client.newSession cwd servers k).runSegment t R.state =
        (k (.error .notInitialized)).runSegment t R.state) ∧
      (∀ session content sink k t, (Client.prompt session content sink k).runSegment t R.state =
        (k (.error .notInitialized)).runSegment t R.state)) ∨
    ∃ Q Q', Reaches LockKept InitTask (P.runTask k Client.disconnect.toProgram) Q ∧
      Pool.Step LockKept InitTask Q Q' ∧ Reaches LockKept InitTask Q' R ∧
      Client.StoresOnRelease Q.state Q'.state := by
  have hfirst : Pool.Step LockKept InitTask P (P.runTask k Client.disconnect.toProgram) :=
    .run hk rfl
  have hnone : (P.runTask k Client.disconnect.toProgram).state.client.link = none :=
    Client.disconnect_segment_link P.clock P.state
  rcases hR.stored_by_release (Reaches.lockPhased (.step hfirst (.refl _)) hP) hnone with h | h
  · have hinit : Client.isInitialized R.state = false := by simp [Client.isInitialized, h]
    exact .inl ⟨hinit,
      fun cwd servers k t => Client.newSession_uninitialized cwd servers k t _ hinit,
      fun session content sink k t => Client.prompt_uninitialized session content sink k t _ hinit⟩
  · exact .inr h

/-- The disconnect beside a handshake runs first; the handshake then takes the lock, connects
and sends its request, and once the agent answers stores its connection: along that run the
client ends initialised, and the step where the handshake succeeds is found on the way. -/
theorem disconnect_until_handshake_bench : ∃ R : Pool Memory,
    Pool.Reaches LockKept InitTask
        (handshakeBesideDisconnect.runTask 1 Client.disconnect.toProgram) R ∧
      Client.isInitialized R.state = true ∧
      ∃ Q Q', Pool.Reaches LockKept InitTask
          (handshakeBesideDisconnect.runTask 1 Client.disconnect.toProgram) Q ∧
        Pool.Step LockKept InitTask Q Q' ∧ Pool.Reaches LockKept InitTask Q' R ∧
        Client.StoresOnRelease Q.state Q'.state := by
  have htasks : ∀ p ∈ handshakeBesideDisconnect.tasks, InitTask p := by
    intro p hp
    simp only [handshakeBesideDisconnect, List.mem_cons, List.not_mem_nil, or_false] at hp
    rcases hp with rfl | rfl
    · exact .handshake (keepsLock_agentConnector 1)
    · exact .disconnect
  -- the agent's answer to the handshake, written into its waiting cell by the world
  have answer : ∀ Q : Pool Memory, Pool.Step LockKept InitTask Q
      { Q with state :=
          Q.state.modifyCell 0 (·.fill (.ok (.object [("protocolVersion", .number (.nat 1))]))) } :=
    fun Q => .world (LockKept.of_client rfl)
  -- the handshake takes the lock, connects and sends its request; the answer comes and the
  -- handshake stores its connection
  have hr : Pool.Reaches LockKept InitTask
      (handshakeBesideDisconnect.runTask 1 Client.disconnect.toProgram) _ :=
    .step (.run (k := 0) rfl rfl) (.step (.run (k := 0) rfl rfl) (.step (.run (k := 0) rfl rfl)
      (.step (answer _) (.step (.run (k := 0) rfl rfl) (.refl _)))))
  refine ⟨_, hr, by decide, ?_⟩
  -- the client ends initialised, so the run passed the step where a handshake succeeded
  exact (disconnect_until_handshake (Pool.lockPhased_start (Nat.le_refl 0) htasks) rfl
    hr).resolve_left fun h => absurd h.1 (by decide)

/-- A handshake that had connected and was waiting for the agent's answer when a disconnect ran
to its end stores its connection once the answer comes: the disconnect is done and the client
uninitialised, and then, with no task started since, the client is initialised. -/
theorem disconnect_overtaken : ∃ Q R : Pool Memory,
    Pool.Reaches LockKept (fun _ => False) handshakeBesideDisconnect Q ∧ Q.tasks[1]? = some .done ∧
      Client.isInitialized Q.state = false ∧
      Pool.Reaches LockKept (fun _ => False) Q R ∧ Client.isInitialized R.state = true := by
  -- the agent's answer to the handshake, written into its waiting cell by the world
  have answer : ∀ Q : Pool Memory, Pool.Step LockKept (fun _ => False) Q
      { Q with state :=
          Q.state.modifyCell 0 (·.fill (.ok (.object [("protocolVersion", .number (.nat 1))]))) } :=
    fun Q => .world (LockKept.of_client rfl)
  -- the handshake takes the lock, connects and sends its request; the disconnect runs through;
  -- the answer comes and the handshake stores its connection
  exact ⟨_, _, .step (.run (k := 0) rfl rfl) (.step (.run (k := 0) rfl rfl)
    (.step (.run (k := 0) rfl rfl) (.step (.run (k := 1) rfl rfl) (.refl _)))), rfl, rfl,
    .step (answer _) (.step (.run (k := 0) rfl rfl) (.refl _)), by decide⟩

end AgentLink
