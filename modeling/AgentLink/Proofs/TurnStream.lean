import AgentLink.Proofs.Footprints
import AgentLink.Proofs.TurnExclusion

/-!
# Every interleaving is a run of the turn's moves

Take a client's tasks (calls of `prompt`, `waitComplete`, `newSession`, `cancel` and
`disconnect`, any number of them, and the tasks of its connections), with listeners and
responders whose every change is a move of sink `k`'s view, as the client's and the bench's are,
and a world whose every change is one too: the receiver of sink `k` taking what was delivered or
going away, the agent writing to the pipes, or anything else that leaves the turn's routing and
sink `k` alone. Interleave their segments in any order and start more such tasks at any time.

Every change any task makes is one move (`ClientTask.moves`): the check of a prompt that starts a
turn installs its session and sink, the reader's routing of a `session/update` is that update's
move, `disconnect` takes the turn's sink away, `newSession` makes its session the active one, a
prompt's end of its turn is the finish of its sink, and everything else leaves the view and
sink `k` alone. So every interleaving is one `TurnRun` (`Pool.Reaches.turnRun`), and sink `k`
receives exactly the events of its notes (`turn_events`), late updates racing a turn's end and
receivers closed mid-turn included.

The segment of a prompt that starts a turn ends with the turn's sink installed and nothing
queued for the agent: the `session/prompt` request is queued in a later segment, and the writer
writes only what is queued (`Client.prompt_installs_first`).
-/

namespace AgentLink

open Concurrency Async Memory

/-- A change that keeps the client and the sinks is a quiet move of every sink's view. -/
theorem Memory.ClientKept.turnChange (k : Nat) (s s' : Memory) (h : ClientKept s s') :
    TurnChange k s s' :=
  ⟨[], [], TurnMove.of_routing (by rw [h.1]) (by rw [h.1]) h.2⟩

theorem Client.moves_retrying {R : Memory → Memory → Prop} {α : Type} (p : RetryPolicy)
    {op : Act (Except Failure α)} (hop : Moves R op) :
    ∀ attempt fuel, Moves R (Client.retrying p op attempt fuel)
  | _, 0 => hop
  | attempt, fuel + 1 => by
    rw [Client.retrying]
    refine Moves.bind hop fun r => ?_
    split
    · exact Moves.pure _
    · exact Moves.ite (Moves.bind (Moves.sleep _) fun _ => moves_retrying p hop _ fuel)
        (Moves.pure _)

section Calls

variable (k : Nat)

namespace Client

/-- Hearing a notification: a `session/update` with a record for params is routed, in a change
that is that update's move. -/
theorem moves_hear (method : String) (params : Json.Value) :
    Moves (TurnChange k) (hear method params) := by
  unfold hear
  split
  · exact Moves.bind Moves.spend fun _ =>
      Moves.modify fun s => .single ⟨_, _, .update _ s⟩
  · exact Moves.pure ()

theorem moves_respondPermission (id : String) (response : PermissionResponse) :
    Moves (TurnChange k) (respondPermission id response) := by
  unfold respondPermission
  dsimp only
  refine Moves.bind (Moves.read _) fun c => ?_
  split
  · exact Moves.bind (Link.moves_resolveSlot (ClientKept.turnChange k) _ _ _) fun _ =>
      Moves.pure _
  · exact Moves.pure _

/-- Answering a permission request counts a made-up id, which leaves the turn alone, and parks
the request in a slot. -/
theorem moves_answerPermission (params : Json.Value) :
    Moves (TurnChange k) (answerPermission params) := by
  unfold answerPermission
  dsimp only
  split
  · refine Moves.bind (Moves.modifyGet fun _ => .single ⟨_, _, TurnMove.of_routing rfl rfl rfl⟩)
      fun req => Moves.bind (Moves.read _) fun c => ?_
    split
    · exact Moves.pure _
    · exact Moves.pure _
    · refine Moves.bind (Link.moves_openSlot (ClientKept.turnChange k) _ _) fun cell => ?_
      split
      · refine Moves.bind (Moves.kept (ClientKept.turnChange k) fun _ => ⟨rfl, rfl⟩) fun _ =>
          Moves.bind (Moves.waitUntil _ _) fun _ => Moves.bind (Moves.read _) fun c => ?_
        split <;> exact Moves.pure _
      · refine Moves.bind (Moves.spawn (Moves.bind (moves_respondPermission k _ _) fun _ =>
          Moves.pure ())) fun _ =>
            Moves.bind (Moves.waitUntil _ _) fun _ => Moves.bind (Moves.read _) fun c => ?_
        split <;> exact Moves.pure _
  · exact Moves.pure _

/-- A prompt: the check that starts a turn is the move of its start, the request moves as a
connection's operations do, and ending the turn is the finish of the prompt's sink. -/
theorem moves_prompt (session : String) (content : List PromptItem) (sink : Nat) :
    Moves (TurnChange k) (prompt session content sink) := by
  unfold prompt
  refine Moves.bind (Moves.read _) fun link => ?_
  cases link with
  | none => exact Moves.pure _
  | some i =>
    refine Moves.bind (Moves.modifyGet fun s => ?_) fun busy => Moves.ite (Moves.pure _) ?_
    · dsimp only
      split
      · exact .refl
      · exact .single ⟨_, _, .start session sink rfl rfl⟩
    refine Moves.bind (Link.moves_sendRequest (ClientKept.turnChange k) i _ _ _) fun outcome =>
      Moves.bind (Moves.modifyGet fun s => .single ⟨_, _, .finish sink outcome s⟩) fun ws => ?_
    exact Moves.bind (Moves.forIn fun w =>
      Moves.bind (Moves.kept (ClientKept.turnChange k) fun s => clientKept_modifyCell s w _)
        fun _ => Moves.pure _) fun _ => Moves.pure _

/-- Waiting for the turn to end holds a cell among the waiters, which leaves the routing alone. -/
theorem moves_waitComplete : Moves (TurnChange k) waitComplete := by
  unfold waitComplete
  refine Moves.bind (Moves.modifyGet fun s => ?_) fun cell => ?_
  · split
    · exact .single ⟨_, _, TurnMove.of_routing rfl rfl rfl⟩
    · exact .refl
  · split
    · exact Moves.bind (Link.moves_awaitCell _) fun _ => Moves.pure _
    · exact Moves.pure _

/-- Opening a session makes its id the active session, the move of its note. -/
theorem moves_newSession (cwd : String) (servers : List Json.Value) :
    Moves (TurnChange k) (newSession cwd servers) := by
  unfold newSession
  refine Moves.bind (Moves.read _) fun link => ?_
  cases link with
  | none => exact Moves.pure _
  | some i =>
    refine Moves.bind (Moves.read _) fun c => Moves.bind (moves_retrying _
      (Link.moves_sendRequest (ClientKept.turnChange k) i _ _ _) _ _) fun r => ?_
    split
    · exact Moves.pure _
    · split
      · refine Moves.ite (Moves.pure _) ?_
        exact Moves.bind (Moves.modify fun s => .single ⟨_, _, .session _ rfl rfl⟩) fun _ =>
          Moves.pure _
      · exact Moves.pure _

theorem moves_cancel (session : String) : Moves (TurnChange k) (cancel session) := by
  unfold cancel
  dsimp only
  refine Moves.bind (Moves.read _) fun c => ?_
  split
  · exact Moves.bind (Link.moves_sendNotification (ClientKept.turnChange k) _ _ _) fun _ =>
      Moves.pure _
  · exact Moves.pure _

/-- Dropping the connection: letting go of it leaves the routing alone, taking the turn's sink
away is the move of its note, and closing moves as a connection's operations do. -/
theorem moves_disconnect : Moves (TurnChange k) disconnect := by
  unfold disconnect
  dsimp only
  refine Moves.bind (Moves.modifyGet fun _ => .single ⟨_, _, TurnMove.of_routing rfl rfl rfl⟩)
    fun link => ?_
  split
  · exact Moves.bind (Moves.modify fun _ => .single ⟨_, _, .disconnect rfl rfl⟩) fun _ =>
      Moves.bind (Link.moves_close (ClientKept.turnChange k) _) fun _ => Moves.pure _
  · exact Moves.pure _

end Client

theorem moves_pause (ms : Nat) : Moves (TurnChange k) (pause ms) := by
  unfold pause
  exact Moves.ite (Moves.bind (Moves.sleep ms) fun _ => Moves.spend) (Moves.pure ())

theorem moves_logInbound (v : Json.Value) : Moves (TurnChange k) (logInbound v) :=
  Moves.kept (ClientKept.turnChange k) fun _ => ⟨rfl, rfl⟩

/-- Every change of the bench's listeners and responders is a move of sink `k`'s view. -/
theorem benchHooks_moves : benchHooks.MovesBy (TurnChange k) where
  hear i l method params := by
    cases l with
    | log delay => exact Moves.bind (moves_pause k delay) fun _ => moves_logInbound k _
    | client => exact Client.moves_hear k method params
  answer i r method params id := by
    cases r with
    | scripted reply delay =>
      refine Moves.bind (moves_logInbound k _) fun _ => Moves.bind (moves_pause k delay) fun _ => ?_
      cases reply with
      | result v => exact Moves.pure _
      | failure f => exact Moves.pure _
      | slot =>
        refine Moves.bind (Link.moves_openSlot (ClientKept.turnChange k) i _) fun c =>
          Moves.bind (Link.moves_awaitCell c) fun cl => ?_
        split <;> exact Moves.pure _
    | permission => exact Client.moves_answerPermission k params

/-- Every change of the client's listener and permission responder is a move of sink `k`'s
view. -/
theorem Cli.clientHooks_moves : Cli.clientHooks.MovesBy (TurnChange k) where
  hear _ _ method params := Client.moves_hear k method params
  answer _ _ _ params _ := Client.moves_answerPermission k params

end Calls

section Tasks

variable {hooks : Hooks} {k : Nat} (hh : hooks.MovesBy (TurnChange k))
include hh

/-- Every change of a task of a client is a move of sink `k`'s view. -/
theorem ClientTask.moves {p : Program Memory} (h : ClientTask hooks p) :
    p.Safe (fun _ _ _ => True) (Relation.ReflTransGen (TurnChange k)) := by
  have hR := ClientKept.turnChange k
  cases h with
  | transport h =>
    cases h with
    | request i method params timeout => exact (Link.moves_sendRequest hR i _ _ _).safe
    | notify i method params => exact (Link.moves_sendNotification hR i _ _).safe
    | close i => exact (Link.moves_close hR i).safe
    | start fromAgent toAgent => exact (Link.moves_start hR hh _ _).safe
    | reader i fuel fr => exact (Link.moves_reader hR i hh fuel fr).safe
    | writer i fuel => exact (Link.moves_writer hR i fuel).safe
  | prompt session content sink => exact (Client.moves_prompt k session content sink).safe
  | waitComplete => exact (Client.moves_waitComplete k).safe
  | newSession cwd servers => exact (Client.moves_newSession k cwd servers).safe
  | cancel session => exact (Client.moves_cancel k session).safe
  | disconnect => exact (Client.moves_disconnect k).safe

/-- Every interleaving of a client's tasks, with a world whose changes are moves of sink `k`'s
view, is one run of moves from the first state to the last. -/
theorem Concurrency.Pool.Reaches.turnRun {env : Memory → Memory → Prop}
    (henv : ∀ s s', env s s' → Relation.ReflTransGen (TurnChange k) s s') {P Q : Pool Memory}
    (hr : Pool.Reaches env (ClientTask hooks) P Q) (htasks : ∀ p ∈ P.tasks, ClientTask hooks p) :
    ∃ notes taken, TurnRun k P.state notes taken Q.state :=
  TurnRun.of_chain (hr.moves henv (fun _ hp => hp.moves hh) fun p hp => (htasks p hp).moves hh)

end Tasks

namespace Link

/-- The first segment of a request on an open connection takes an id, makes a cell and
registers the call, and stops where the request is about to be queued: it starts no task and
leaves the client, the sinks and every queue as they were. -/
theorem sendRequest_first_segment (i : Nat) (method : String) (params : Json.Value)
    (timeout : Option Duration) (t : Nat) (m : Memory) (hopen : (m.link i).closed = false)
    (kont : Except Failure Json.Value → Program Memory) :
    ∃ m' rest, (sendRequest i method params timeout kont).runSegment t m = (m', [], .spend rest) ∧
      m'.client = m.client ∧ m'.sinks = m.sinks ∧ ∀ j, (m'.link j).outbox = (m.link j).outbox := by
  -- the connection is still open once the id is taken and the cell made
  have hclosed : ((m.modifyLink i fun _ => ((m.link i).takeId).2).addCell.2.link i).closed =
      false := by
    rw [link_addCell, link_modifyLink]
    split <;> simpa [Connection.takeId] using hopen
  simp only [sendRequest, bind, Async.modifyGet, Act.newCell, isClosed, Async.read,
    Program.runSegment, Link.modify, Async.modify, enqueue, Async.spend]
  simp only [hclosed, Bool.false_eq_true, ↓reduceIte]
  refine ⟨_, _, rfl, rfl, rfl, fun j => ?_⟩
  rw [link_modifyLink, link_addCell, link_modifyLink]
  split <;> split <;> simp_all [Connection.takeId]

end Link

namespace Client

/-- The segment of a prompt that starts a turn ends with the turn's session and sink installed
and nothing queued for the agent: it stops where the `session/prompt` request is about to be
queued, having started no task. -/
theorem prompt_installs_first (session : String) (content : List PromptItem) (sink : Nat)
    (kont : Except Failure Json.Value → Program Memory) (t : Nat) (m : Memory)
    (hi : isInitialized m = true) (hidle : m.client.turn.inProgress = false) :
    ∃ m' rest, (prompt session content sink kont).runSegment t m = (m', [], .spend rest) ∧
      m'.client = { m.client with turn := { m.client.turn with
        activeSession := some session, sink := some sink, inProgress := true } } ∧
      m'.sinks = m.sinks ∧ ∀ j, (m'.link j).outbox = (m.link j).outbox := by
  obtain ⟨i, hlink⟩ : ∃ i, (m.client.link.filter fun i => !(m.link i).closed) = some i := by
    unfold isInitialized at hi
    cases hc : m.client.link with
    | none => simp_all
    | some i => exact ⟨i, by simp_all⟩
  have hopen : (m.link i).closed = false := by
    cases hc : m.client.link <;> simp_all
  simp only [prompt, bind, liveLink, Async.read, Async.modifyGet, Program.runSegment, hlink, hidle,
    Bool.false_eq_true, ↓reduceIte]
  -- the rest of the segment is the request's first one, from the memory with the turn started
  exact Link.sendRequest_first_segment i _ _ none t _ (by exact hopen) _

end Client

/-- The events of a turn's sink over every interleaving of a client's tasks. Whatever tasks of
the client run, whatever the agent writes and whatever the world does to sink `k` (its receiver
taking what was delivered, or going away), the run is one chain of moves of sink `k`'s view,
with notes of what happened: sink `k` receives exactly `TurnNote.events` of those notes, past
what its receiver took. That is: while `k` is the turn's sink and its receiver is there, the
events of each `session/update` the reader routes and the turn takes (params that are a record,
whose `sessionId` is not a string naming another session than the active one), in the order
they were routed; and at the end of a turn whose prompt was given sink `k`, one `turnComplete`
carrying the stop reason of a successful answer with a string `stopReason`, unless `disconnect`
took the sink away first. Updates routed before a prompt installs `k` or after its turn ended
reach nothing. And the segment of a prompt that starts a turn installs its session and sink
and queues nothing, so `session/prompt` reaches the agent only after the sink is installed. -/
theorem turn_events {hooks : Hooks} {k : Nat} (hh : hooks.MovesBy (TurnChange k))
    {env : Memory → Memory → Prop}
    (henv : ∀ s s', env s s' → Relation.ReflTransGen (TurnChange k) s s') {P Q : Pool Memory}
    (htasks : ∀ p ∈ P.tasks, ClientTask hooks p) (hr : Pool.Reaches env (ClientTask hooks) P Q) :
    (∃ notes taken, TurnRun k P.state notes taken Q.state ∧
      taken ++ (Q.state.sink k).received =
        (P.state.sink k).received ++ TurnNote.events k (TurnView.of k P.state) notes ∧
      TurnView.of k Q.state = TurnNote.after (TurnView.of k P.state) notes) ∧
    ∀ session content (kont : Except Failure Json.Value → Program Memory) t m,
      Client.isInitialized m = true → m.client.turn.inProgress = false →
      ∃ m' rest, (Client.prompt session content k kont).runSegment t m = (m', [], .spend rest) ∧
        m'.client = { m.client with turn := { m.client.turn with
          activeSession := some session, sink := some k, inProgress := true } } ∧
        m'.sinks = m.sinks ∧ ∀ j, (m'.link j).outbox = (m.link j).outbox := by
  obtain ⟨notes, taken, hrun⟩ := hr.turnRun hh henv htasks
  exact ⟨⟨notes, taken, hrun, hrun.sink_events⟩, fun session content kont t m =>
    Client.prompt_installs_first session content k kont t m⟩

/-- The client with a prompt of session `sess-1` about to start, its events going to sink 0. -/
def promptPool : Pool Memory := ⟨Memory.openLink, 0, [(Client.prompt "sess-1" [] 0).toProgram]⟩

/-- The prompt of `promptPool` runs the segment that starts its turn, and then the receiver of
sink 0 goes away: the run is a chain of moves, and sink 0 has received what its notes say. -/
theorem turn_events_prompting :
    ∃ notes taken, TurnRun 0 promptPool.state notes taken
        (Memory.dropReceiver (promptPool.runTask 0 promptPool.tasks[0]).state 0) ∧
      taken ++ ((Memory.dropReceiver (promptPool.runTask 0 promptPool.tasks[0]).state 0).sink 0).received =
        (promptPool.state.sink 0).received ++
          TurnNote.events 0 (TurnView.of 0 promptPool.state) notes ∧
      TurnView.of 0 (Memory.dropReceiver (promptPool.runTask 0 promptPool.tasks[0]).state 0) =
        TurnNote.after (TurnView.of 0 promptPool.state) notes := by
  have htasks : ∀ p ∈ promptPool.tasks, ClientTask Cli.clientHooks p := by
    intro p hp
    simp only [promptPool, List.mem_singleton] at hp
    subst hp
    exact .prompt "sess-1" [] 0
  -- the prompt's first segment, then the world taking the receiver away
  have hr : Pool.Reaches (TurnChange 0) (ClientTask Cli.clientHooks) promptPool
      { promptPool.runTask 0 promptPool.tasks[0] with
        state := Memory.dropReceiver (promptPool.runTask 0 promptPool.tasks[0]).state 0 } :=
    .step (.run (k := 0) rfl rfl) (.step (.world ⟨_, _, TurnMove.dropReceiver _⟩) (.refl _))
  exact (turn_events (Cli.clientHooks_moves 0) (fun _ _ h => .single h) htasks hr).1

end AgentLink
