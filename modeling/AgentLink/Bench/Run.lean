import AgentLink.Bench.Step
import AgentLink.Client.Calls
import AgentLink.Concurrency.Scheduler
import AgentLink.Json.Reader

/-!
# Running a scenario

The bench holds the scheduler of the host's tasks and its own ends of the agents' pipes. The
host's calls run as named tasks; the bench's subscribers log what they hear into the host's
memory, from where each step's answer collects what is new. An agent reads its input at the
end of every step, line by line, until it sees the end of it or stops reading, and remembers
the last request it received of each method, so that it can answer without naming an id.

In a connection scenario the bench's listener logs each notification after its pause, and a
scripted responder logs each request, pauses, and answers: a result, a failure, or the value a
slot keyed by the request's id is resolved with (a dropped slot fails with
`acp: slot dropped`). Attaching the agent's diagnostics again drops the bench's end of the
pipe attached before.

In a client scenario every agent's connection is open from the start, with no listener,
responder or failure subscriber, so what an agent writes before the client connects to it is
read, refused or dropped as such a connection does.
-/

namespace AgentLink

open Json Concurrency

/-- The bench's end of one agent's pipes. -/
structure AgentEnd where
  /-- The pipe the agent writes to. -/
  fromAgent : Nat
  /-- The pipe the agent reads from. -/
  toAgent : Nat
  /-- Bytes of a line not yet complete. -/
  partialLine : List UInt8
  /-- Whether the agent still reads its input. -/
  reading : Bool
  /-- The id of the last request received, per method. -/
  lastByMethod : List (String × Value)
  /-- The id of the last request received. -/
  lastRequest : Option Value
  deriving Inhabited

/-- What a scenario exercises. -/
inductive Subject where
  /-- One connection over agent 0. -/
  | link
  /-- The client, with agents to connect to. -/
  | client
  deriving DecidableEq, Inhabited

/-- A scenario under way. -/
structure Bench where
  subject : Subject
  sched : Scheduler Memory
  agents : Array AgentEnd
  /-- The pipe of the agent's diagnostics last attached; attaching another drops the bench's
  writing end of the one before, whose watcher then sees the end of it. -/
  stderr : Option Nat
  /-- The names of the calls started. -/
  started : List String
  /-- How many ended calls have been shown. -/
  shownCalls : Nat
  /-- The sink of each prompt. -/
  sinks : List (String × Nat)
  /-- How many permission requests have been shown. -/
  shownPermissions : Nat

/-- Log an entry the bench's subscribers heard from the agent. -/
def logInbound (v : Value) : Act Unit :=
  Async.modify (·.modifyHeard fun h => { h with inbound := h.inbound ++ [v] })

/-- Pause `ms` milliseconds, when that is more than none; the end of the pause costs a unit of
the budget, as the timer is looked at once more. -/
def pause (ms : Nat) : Act Unit := do
  if ms > 0 then
    Async.sleep ms
    Async.spend

/-- The bench's listeners and responders, and the client's. -/
def benchHooks : Hooks where
  hear _ l method params :=
    match l with
    | .log delay => do
      pause delay
      logInbound (Value.obj [("notification", .string method), ("params", params)])
    | .client => Client.hear method params
  answer i r method params id :=
    match r with
    | .scripted reply delay => do
      logInbound (Value.obj [("request", .string method), ("id", id.toValue), ("params", params)])
      pause delay
      match reply with
      | .result v => return .ok v
      | .failure f => return .error f
      | .slot =>
        let c ← Link.openSlot i id.display
        match ← Act.awaitCell c with
        | .filled o => return o
        | _ => return .error (.protocol "slot dropped")
    | .permission => Client.answerPermission params

/-- The connector of a client scenario with `n` agents: it hands out the agents' connections in
order, one per connection made, and fails when none is left. The connections are opened when
the scenario starts, so that each reads what its agent writes before the client takes it. -/
def agentConnector (n : Nat) : Act (Except Failure Nat) := do
  let k ← Async.read (·.client.connections)
  if k < n then return .ok k
  else return .error (.process "no fake agent left to connect")

/-- Open the connections to agents `0 … n-1`, which are connections `0 … n-1`. -/
def openAgentLinks (n : Nat) : Act Unit :=
  (List.range n).forM fun k => do
    let _ ← Link.start benchHooks (2 * k) (2 * k + 1)

/-- The bench's ends of agents `0 … n-1`, whose pipes are `2k` (from the agent) and `2k + 1`. -/
def agentEnds (n : Nat) : Array AgentEnd :=
  ((List.range n).map fun k => (⟨2 * k, 2 * k + 1, [], true, [], none⟩ : AgentEnd)).toArray

/-- Memory with the pipes of `n` agents. -/
def memoryWithAgents (client : Client) (n : Nat) : Memory :=
  { Memory.new client with pipes := (List.replicate (2 * n) Pipe.fresh).toArray }

namespace Bench

/-- A connection scenario: one agent and a connection to it. -/
def forLink : Bench :=
  let sched := Scheduler.start (memoryWithAgents (Client.new default) 1)
  let sched := sched.launch (do let _ ← Link.start benchHooks 0 1; pure () : Act Unit).toProgram
  ⟨.link, sched, agentEnds 1, none, [], 0, [], 0⟩

/-- A client scenario with `n` agents to connect to, each connection open from the start. -/
def forClient (options : ClientOptions) (n : Nat) : Bench :=
  let sched := Scheduler.start (memoryWithAgents (Client.new options) n)
  ⟨.client, sched.launch (openAgentLinks n).toProgram, agentEnds n, none, [], 0, [], 0⟩

/-- The host's memory. -/
def memory (b : Bench) : Memory := b.sched.state

/-- Change the host's memory at once, waking the tasks this lets go on, and run them. -/
def perform {α : Type} (b : Bench) (f : Memory → α × Memory) : α × Bench :=
  let (a, m) := f b.memory
  (a, { b with sched := { b.sched with state := m }.wake.settle })

/-- Change the host's memory at once and run what this lets go on. -/
def alter (b : Bench) (f : Memory → Memory) : Bench := (b.perform fun m => ((), f m)).2

/-- Start the call `name` and run until nothing is ready. -/
def call (b : Bench) (name : String) (a : Act CallResult) : Bench × StepResult :=
  let p := (do let r ← a; Async.modify (·.finish name r) : Act Unit).toProgram
  ({ b with sched := b.sched.launch p, started := b.started ++ [name] }, .started name)

/-- Start a call that returns or fails. -/
def callReturning (b : Bench) (name : String) (a : Act (Except Failure Value)) :
    Bench × StepResult :=
  b.call name (CallResult.returned <$> a)

/-- How many bytes a pipe from an agent holds before a write must wait for the host to read. -/
def pipeCapacity : Nat := 65536

/-- Write bytes to pipe `p` as the agent, as many at a time as the pipe has room for. While the
pipe is full the host runs and time passes until it reads; the write fails once the host has
dropped the pipe, and ends if the host would never read again. -/
def write (b : Bench) (p : Nat) : Nat → List UInt8 → Bench × StepResult
  | 0, _ => (b, .written)
  | fuel + 1, bytes =>
    let pipe := b.memory.pipe p
    if !pipe.reading then (b, .brokenPipe)
    else
      let room := pipeCapacity - pipe.unread.length
      let b := b.alter (·.modifyPipe p fun q => { q with unread := q.unread ++ bytes.take room })
      let rest := bytes.drop room
      if rest.isEmpty then (b, .written)
      else
        let drained := fun (m : Memory) =>
          (m.pipe p).unread.length < pipeCapacity || !(m.pipe p).reading
        match b.sched.runUntil drained (b.sched.clock + 600000) taskFuel with
        | (sched, true) => write { b with sched := sched } p fuel rest
        | (sched, false) => ({ b with sched := sched }, .written)

/-- Write bytes as agent `k`. -/
def agentWrite (b : Bench) (k : Nat) (bytes : List UInt8) : Bench × StepResult :=
  match b.agents[k]? with
  | some a => b.write a.fromAgent (bytes.length + 1) bytes
  | none => (b, .refused ("no agent " ++ toString k))

/-- The id agent `k` answers when none is named: that of the last request of method `method`
it received, or else of the last request it received. -/
def answerId (b : Bench) (k : Nat) (method : Option String) : Value :=
  match b.agents[k]? with
  | some a => ((method.bind fun t => a.lastByMethod.lookup t) <|> a.lastRequest).getD .null
  | none => .null

/-- The last call named `name` that ended, with its place among the ended calls. -/
def endedCall (b : Bench) (name : String) : Option (Nat × CallResult) :=
  let finished := b.memory.heard.finished
  let hits := (List.range finished.length).zip finished |>.filter (·.2.1 == name)
  hits.getLast?.map fun (k, _, r) => (k, r)

/-- Wait up to `ms` for the call `name`. When the wait runs out, the tasks whose timers end at
that moment wake with the waiter and run before the step is answered. -/
def await (b : Bench) (name : String) (ms : Nat) : Bench × StepResult :=
  match b.endedCall name with
  | some (k, r) =>
    if k < b.shownCalls then (b, .ended name r true)
    else (b, .ended name r false)
  | none =>
    if !b.started.contains name then (b, .refused ("no task named " ++ name))
    else
      let (sched, reached) :=
        b.sched.runUntil (·.hasFinished name) (b.sched.clock + ms) taskFuel
      let b := { b with sched := sched }
      if reached then
        match b.endedCall name with
        | some (_, r) => (b, .ended name r false)
        | none => (b, .pending name)
      else ({ b with sched := sched.settle }, .pending name)

/-- Perform one step. -/
def perform1 (b : Bench) (step : Step) : Bench × StepResult :=
  let onLink (f : Unit → Bench × StepResult) : Bench × StepResult :=
    if b.subject == .link then f () else (b, .refused "not a transport step")
  let onClient (f : Unit → Bench × StepResult) : Bench × StepResult :=
    if b.subject == .client then f () else (b, .refused "not a backend step")
  match step with
  | .await name ms => b.await name ms
  | .advance ms => ({ b with sched := b.sched.advance ms }, .unit)
  | .agentWrite k bytes => b.agentWrite k bytes
  | .agentRespond k id method key payload =>
    let id := id.getD (b.answerId k method)
    let msg := Value.obj [("jsonrpc", .string "2.0"), ("id", id), (key, payload)]
    b.agentWrite k (utf8Encode (msg.render ++ "\n"))
  | .agentClose k =>
    match b.agents[k]? with
    | some a => (b.alter (·.modifyPipe a.fromAgent Pipe.closeWriter), .unit)
    | none => (b, .refused ("no agent " ++ toString k))
  | .agentCloseInput k =>
    match b.agents[k]? with
    | some a =>
      let b := b.alter (·.modifyPipe a.toAgent Pipe.closeReader)
      ({ b with agents := b.agents.set! k { a with reading := false } }, .unit)
    | none => (b, .refused ("no agent " ++ toString k))
  | .debug =>
    match b.subject with
    | .link =>
      let closed := if (b.memory.link 0).closed then "true" else "false"
      (b, .text ("Transport \x7b closed: " ++ closed ++ ", .. \x7d"))
    | .client => (b, .text b.memory.client.debugText)
  | .subscribeErrors name =>
    match b.subject with
    | .link => (b.alter (·.modifyLink 0 fun c => { c with reports := true }), .unit)
    | .client => b.callReturning name
        Client.subscribeErrors
  | .sendRequest name method params timeout => onLink fun _ =>
    b.callReturning name (Link.sendRequest 0 method params (timeout.map Duration.ofMillis))
  | .sendNotification name method params => onLink fun _ =>
    b.callReturning name do
      Link.sendNotification 0 method params
      return .ok .null
  | .listen delay => onLink fun _ =>
    (b.alter (·.modifyLink 0 fun c => { c with listener := some (.log delay) }), .unit)
  | .handle method reply delay => onLink fun _ =>
    (b.alter (·.modifyLink 0 (·.setResponder method (.scripted reply delay))), .unit)
  | .openSlot key name => onLink fun _ =>
    b.call name do
      let c ← Link.openSlot 0 key
      match ← Act.awaitCell c with
      | .filled (.ok v) => return .returned (.ok v)
      | _ => return .slotClosed
  | .resolveSlot key value => onLink fun _ =>
    let (ok, b) := b.perform (·.resolveSlot 0 key value)
    (b, .flag ok)
  | .cancelSlot key => onLink fun _ =>
    let (ok, b) := b.perform (·.cancelSlot 0 key)
    (b, .flag ok)
  | .hasSlot key => onLink fun _ => (b, .flag (b.memory.hasSlot 0 key))
  | .close => onLink fun _ => ((b.perform (·.shutdown 0)).2, .unit)
  | .report r => onLink fun _ => (b.alter (·.report 0 r), .unit)
  | .attachStderr => onLink fun _ =>
    let (p, m) := b.memory.addPipe
    let previous := b.stderr
    let b := { b with sched := { b.sched with state := m }, stderr := some p }
    let b := { b with sched := b.sched.launch (Link.attachStderr 0 p).toProgram }
    match previous with
    | some old => (b.alter (·.modifyPipe old Pipe.closeWriter), .unit)
    | none => (b, .unit)
  | .agentStderr bytes =>
    match b.stderr with
    | some p => b.write p (bytes.length + 1) bytes
    | none => (b, .refused "no stderr attached")
  | .agentStderrClose =>
    match b.stderr with
    | some p => (b.alter (·.modifyPipe p Pipe.closeWriter), .unit)
    | none => (b, .refused "no stderr attached")
  | .handshake name => onClient fun _ =>
    b.callReturning name
      ((·.map fun _ => Value.null) <$> Client.handshake (agentConnector b.agents.size))
  | .newSession name cwd servers => onClient fun _ =>
    b.callReturning name (Client.newSession cwd servers)
  | .prompt name session content listening => onClient fun _ =>
    let (sink, m) := b.memory.addSink listening
    let b := { b with sched := { b.sched with state := m }, sinks := b.sinks ++ [(name, sink)] }
    b.callReturning name (Client.prompt session content sink)
  | .cancel name session => onClient fun _ =>
    b.callReturning name (Client.cancel session)
  | .respondPermission name target response => onClient fun _ =>
    let id := match target with
      | .heard k => (b.memory.heard.permissions[k]?).map (·.id)
      | .byId s => some s
    match id with
    | some id => b.callReturning name
        (Client.respondPermission id response)
    | none => (b, .refused "no such permission request")
  | .subscribePermissions name => onClient fun _ =>
    b.callReturning name (Client.subscribePermissions .log)
  | .waitComplete name => onClient fun _ =>
    b.callReturning name Client.waitComplete
  | .disconnect name => onClient fun _ =>
    b.callReturning name Client.disconnect
  | .refused reason => (b, .refused reason)

/-- Split bytes into complete lines and what is left of an unfinished one. -/
def splitLines : Nat → List UInt8 → List (List UInt8) × List UInt8
  | 0, bytes => ([], bytes)
  | fuel + 1, bytes =>
    match bytes.findIdx? (· == 10) with
    | some k =>
      let (more, rest) := splitLines fuel (bytes.drop (k + 1))
      (bytes.take k :: more, rest)
    | none => ([], bytes)

/-- Remember a request the agent received. -/
def AgentEnd.note (a : AgentEnd) (line : String) : AgentEnd :=
  match readValue line with
  | .ok v =>
    match v.getStr? "method", v.get? "id" with
    | some method, some id =>
      { a with lastByMethod := (putEntry method id a.lastByMethod).2, lastRequest := some id }
    | _, _ => a
  | .error _ => a

/-- Let agent `k` read what the host wrote to it. -/
def readAgent (b : Bench) (k : Nat) : Bench × List Received :=
  match b.agents[k]? with
  | none => (b, [])
  | some a =>
    if !a.reading then (b, [])
    else
      let m := b.memory
      let (bytes, pipe) := (m.pipe a.toAgent).take
      let m := m.modifyPipe a.toAgent fun _ => pipe
      let buf := a.partialLine ++ bytes
      let (lines, rest) := splitLines (buf.length + 1) buf
      let texts := lines.map fun l => (utf8Decode l).getD ""
      let a := texts.foldl AgentEnd.note { a with partialLine := rest }
      let ended := pipe.ended
      let a := if ended then { a with reading := false } else a
      let got := texts.map Received.line ++ (if ended then [Received.eof] else [])
      ({ b with sched := { b.sched with state := m }, agents := b.agents.set! k a }, got)

/-- The state shown after a step. -/
def shown (b : Bench) : Shown :=
  let m := b.memory
  match b.subject with
  | .link => .link (m.link 0).closed
  | .client => .client (Client.isInitialized m) m.client.turn.inProgress m.client.turn.activeSession

/-- Collect the answer to a step that returned `r`. -/
def collect (b : Bench) (r : StepResult) : Bench × StepAnswer :=
  let (b, sent) := (List.range b.agents.size).foldl (fun (b, acc) k =>
    let (b, got) := b.readAgent k
    (b, if got.isEmpty then acc else acc ++ [(k, got)])) (b, [])
  let m := b.memory
  let awaited := match r with
    | .ended name _ false => some name
    | _ => none
  let done := (m.heard.finished.drop b.shownCalls).filter fun (n, _) => some n != awaited
  let events := b.sinks.filterMap fun (name, s) =>
    match m.sinks[s]? with
    | some sink => if sink.received.isEmpty then none else some (name, sink.received)
    | none => none
  let sinks := m.sinks.map fun s => { s with received := [] }
  let answer : StepAnswer := ⟨r, done, sent, events, m.heard.reports, m.heard.inbound,
    m.heard.permissions.drop b.shownPermissions, b.shown⟩
  let m := { m with sinks := sinks, heard := { m.heard with reports := [], inbound := [] } }
  let sched := { b.sched with state := m }
  let b := { b with sched := sched, shownCalls := m.heard.finished.length }
  ({ b with shownPermissions := m.heard.permissions.length }, answer)

/-- Run a scenario, answering each step. -/
def run (b : Bench) : List Step → List StepAnswer
  | [] => []
  | step :: more =>
    let (b, r) := b.perform1 step
    let (b, answer) := b.collect r
    answer :: b.run more

end Bench

end AgentLink
