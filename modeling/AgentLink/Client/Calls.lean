import AgentLink.Connection.Tasks
import AgentLink.Conversation.Update
import AgentLink.Conversation.Prompt

/-!
# The calls of the client

`handshake` connects and makes the handshake, one caller at a time: a caller that finds an
open connection is done at once; one that finds a connection the agent has closed connects
anew. The handshake is retried as the policy says, each attempt with the handshake deadline;
an answer must carry a numeric `protocolVersion`, and a failed handshake closes the new
connection. `newSession` asks for a session under the same retries and makes its id the
active session. `prompt` runs one turn at a time: it routes the agent's session updates for the
active session to the turn's sink while the `session/prompt` request waits without deadline,
then delivers the stop reason as the turn's last event (unless the sink was taken away by
`disconnect`) and releases those waiting for the turn to end.

The agent's permission requests are parked in a slot keyed by the request's id until
`respondPermission` resolves it; without a subscriber or a connection they are dismissed at
once, and a slot dropped unanswered dismisses its request.
-/

namespace AgentLink

open Json Concurrency

namespace Client

/-- The client. -/
def get : Act Client := Async.read (·.client)

/-- Change the client. -/
def modify (f : Client → Client) : Act Unit :=
  Async.modify fun m => { m with client := f m.client }

/-- Change the turn bookkeeping. -/
def modifyTurn (f : Turn → Turn) : Act Unit := modify fun c => { c with turn := f c.turn }

/-- The connection, when one is open. -/
def liveLink : Act (Option Nat) :=
  Async.read fun m => m.client.link.filter fun i => !(m.link i).closed

/-- Whether the client holds an open connection. -/
def isInitialized (m : Memory) : Bool :=
  match m.client.link with
  | some i => !(m.link i).closed
  | none => false

/-- Run `op` from attempt `attempt` on, waiting between failed attempts as `p` says; the last
failure is returned. -/
def retrying {α : Type} (p : RetryPolicy) (op : Act (Except Failure α)) :
    Nat → Nat → Act (Except Failure α)
  | _, 0 => op
  | attempt, fuel + 1 => do
    match ← op with
    | .ok v => return .ok v
    | .error e =>
      if attempt < p.attempts then
        Async.sleep (p.delayFor attempt).ceilMillis
        retrying p op (attempt + 1) fuel
      else return .error e

/-- Run `op` under the retry policy `p`. -/
def withRetry {α : Type} (p : RetryPolicy) (op : Act (Except Failure α)) :
    Act (Except Failure α) :=
  retrying p op 1 p.attempts

/-- The params of the handshake. -/
def handshakeParams (o : ClientOptions) : Value :=
  Value.obj [("protocolVersion", Value.ofNat 1),
    ("clientCapabilities", Value.obj [
      ("fs", Value.obj [("readTextFile", .bool false), ("writeTextFile", .bool false)]),
      ("terminal", .bool false)]),
    ("clientInfo", Value.obj [("name", .string o.name), ("version", .string o.version)])]

/-- Route the agent's notifications and permission requests on connection `i` to the client,
and its process failures to the client's subscriber. -/
def registerHandlers (i : Nat) : Act Unit := do
  Link.modify i fun c => { c.setResponder "session/request_permission" .permission with
    listener := some .client }
  if (← get).errorSubscriber then Link.modify i fun c => { c with reports := true }

/-- Keep the new connection `i` when the handshake's answer carries a numeric
`protocolVersion`; else close it and fail. -/
def greet (i : Nat) : Except Failure Value → Act (Except Failure Unit)
  | .error e => do
    Link.close i
    return .error (.initializationFailed e.display)
  | .ok resp =>
    match resp.get? "protocolVersion" with
    | some (.number _) => do
      modify fun c => { c with link := some i }
      return .ok ()
    | _ => do
      Link.close i
      return .error (.initializationFailed
        "invalid initialize response: missing numeric protocolVersion")

/-- Connect with `connect` and make the handshake on the new connection. -/
def connectHeld (connect : Act (Except Failure Nat)) : Act (Except Failure Unit) := do
  match ← connect with
  | .error e => return .error (.initializationFailed ("failed to connect: " ++ e.display))
  | .ok i =>
    modify fun c => { c with connections := c.connections + 1 }
    registerHandlers i
    let o := (← get).options
    let attempt := Link.sendRequest i "initialize" (handshakeParams o) o.handshakeTimeout
    greet i (← withRetry o.retry attempt)

/-- Connect with `connect` and make the handshake, holding the initialisation lock, unless an
open connection is stored; a closed one is dropped first. -/
def handshakeHeld (connect : Act (Except Failure Nat)) : Act (Except Failure Unit) := do
  if let some i := (← get).link then
    if !(← Link.isClosed i) then return .ok ()
    modify fun c => { c with link := none }
  connectHeld connect

/-- Connect with `connect` and make the handshake, unless a connection is open; callers take
turns. -/
def handshake (connect : Act (Except Failure Nat)) : Act (Except Failure Unit) := do
  let ticket ← Async.modifyGet fun m =>
    (m.client.nextTicket,
      { m with client := { m.client with nextTicket := m.client.nextTicket + 1 } })
  Async.waitUntil (fun m => m.client.serving == ticket) none
  let r ← handshakeHeld connect
  modify fun c => { c with serving := c.serving + 1 }
  return r

/-- Open a session in `cwd` with the given servers; its id becomes the active session. -/
def newSession (cwd : String) (servers : List Value) : Act (Except Failure Value) := do
  match ← liveLink with
  | none => return .error .notInitialized
  | some i =>
    let o := (← get).options
    let params := Value.obj [("cwd", .string cwd), ("mcpServers", .array servers)]
    match ← withRetry o.retry (Link.sendRequest i "session/new" params o.handshakeTimeout) with
    | .error e => return .error (.sessionCreationFailed e.display)
    | .ok resp =>
      match resp.getStr? "sessionId" with
      | some s =>
        if s.isEmpty then
          return .error (.sessionCreationFailed "invalid session/new response: missing sessionId")
        modifyTurn fun t => { t with activeSession := some s }
        return .ok (.string s)
      | none =>
        return .error (.sessionCreationFailed "invalid session/new response: missing sessionId")

/-- End the turn with the outcome of its prompt request: take the sink away, deliver the stop
reason to `sink` if the turn still had one, and return the cells of those waiting. -/
def endTurn (sink : Nat) (outcome : Except Failure Value) (m : Memory) : List Nat × Memory :=
  let t := m.client.turn
  let m := { m with client := { m.client with
    turn := { t with sink := none, inProgress := false, waiters := [] } } }
  let m := match t.sink, outcome with
    | some _, .ok resp =>
      match resp.getStr? "stopReason" with
      | some r => (m.deliver sink (.turnComplete r)).2
      | none => m
    | _, _ => m
  (t.waiters, m)

/-- Run one turn of `session`, its events going to `sink`. -/
def prompt (session : String) (content : List PromptItem) (sink : Nat) :
    Act (Except Failure Value) := do
  match ← liveLink with
  | none => return .error .notInitialized
  | some i =>
    let busy ← Async.modifyGet fun m =>
      let t := m.client.turn
      if t.inProgress then (true, m)
      else (false, { m with client := { m.client with
        turn := { t with activeSession := some session, sink := some sink, inProgress := true } } })
    if busy then
      return .error (.turnInProgress ("cannot prompt session " ++ session ++
        " while another turn is running"))
    let params := Value.obj [("sessionId", .string session),
      ("prompt", .array (content.map PromptItem.toValue))]
    let outcome ← Link.sendRequest i "session/prompt" params none
    let waiters ← Async.modifyGet (endTurn sink outcome)
    for w in waiters do
      Act.fill w (.ok .null)
    return outcome.map fun _ => .null

/-- Route a `session/update` to the running turn: dropped unless its params are a record, its
session (when it names one) is the active one (when there is one), and a turn has a sink. -/
def routeUpdate (params : Value) (m : Memory) : Memory :=
  match params with
  | .object _ =>
    let t := m.client.turn
    let stray := match t.activeSession, params.getStr? "sessionId" with
      | some active, some incoming => active != incoming
      | _, _ => false
    if stray then m
    else
      match t.sink with
      | none => m
      | some s =>
        (normalizeUpdate ((params.get? "update").getD .null)).foldl (fun m e => (m.deliver s e).2) m
  | _ => m

/-- Hear a notification: session updates go to the running turn, others are ignored. Routing
an update whose params are a record takes the turn's lock, a unit of the budget. -/
def hear (method : String) (params : Value) : Act Unit :=
  match method == "session/update", params with
  | true, .object _ => do
    Async.spend
    Async.modify (routeUpdate params)
  | _, _ => pure ()

/-- Answer the permission request `id` with `response`, if its slot is open. -/
def respondPermission (id : String) (response : PermissionResponse) :
    Act (Except Failure Value) := do
  if let some i := (← get).link then
    let _ ← Link.resolveSlot i id response.outcome
  return .ok .null

/-- Answer the agent's permission request: park it in a slot keyed by its id and tell the
subscriber (a log records it; a policy responder answers it on a task of its own), then
answer with the slot's resolution. -/
def answerPermission (params : Value) : Act (Except Failure Value) := do
  let dismissed : Except Failure Value := .ok PermissionResponse.cancelled.outcome
  match params with
  | .object _ =>
    let req ← Async.modifyGet fun m =>
      let c := m.client
      let fallback := c.turn.activeSession.getD "unknown"
      (PermissionRequest.ofParams params fallback (freshToolCallId c.madeUpIds),
        { m with client := { c with madeUpIds := c.madeUpIds + 1 } })
    let c ← get
    match c.permissionSubscriber, c.link with
    | none, _ | _, none => return dismissed
    | some subscriber, some i =>
      let cell ← Link.openSlot i req.id
      match subscriber with
      | .log =>
        Async.modify (·.modifyHeard fun h => { h with permissions := h.permissions ++ [req] })
      | .policy p => Async.spawn do
        let _ ← respondPermission req.id (p.decide req)
      Async.waitUntil (fun m => (m.cell cell).isSettled || (m.link i).closed) none
      match ← Async.read (·.cell cell) with
      | .filled o => return o
      | .abandoned => return dismissed
      | .empty => return .error .transportClosed
  | _ => return dismissed

/-- Ask the agent to cancel the turn of `session`; without a connection, nothing. -/
def cancel (session : String) : Act (Except Failure Value) := do
  if let some i := (← get).link then
    Link.sendNotification i "session/cancel" (Value.obj [("sessionId", .string session)])
  return .ok .null

/-- Wait until the running turn, if any, ends. -/
def waitComplete : Act (Except Failure Value) := do
  let cell ← Async.modifyGet fun m =>
    if m.client.turn.inProgress then
      let (c, m) := m.addCell
      (some c, { m with client := { m.client with
        turn := { m.client.turn with waiters := m.client.turn.waiters ++ [c] } } })
    else (none, m)
  if let some c := cell then
    let _ ← Act.awaitCell c
  return .ok .null

/-- Drop the connection: take the running turn's sink away and close it. -/
def disconnect : Act (Except Failure Value) := do
  let link ← Async.modifyGet fun m =>
    (m.client.link, { m with client := { m.client with link := none } })
  if let some i := link then
    modifyTurn fun t => { t with sink := none }
    Link.close i
  return .ok .null

/-- Let `subscriber` hear permission requests. -/
def subscribePermissions (subscriber : PermissionSubscriber) : Act (Except Failure Value) := do
  modify fun c => { c with permissionSubscriber := some subscriber }
  return .ok .null

/-- Let the subscriber hear process failures, of the present connection too. -/
def subscribeErrors : Act (Except Failure Value) := do
  modify fun c => { c with errorSubscriber := true }
  if let some i := (← get).link then
    Link.modify i fun c => { c with reports := true }
  return .ok .null

end Client

end AgentLink
