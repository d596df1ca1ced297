import AgentLink.Host.Memory
import AgentLink.Wire.Lines
import AgentLink.Text.Utf8

/-!
# The tasks of a connection

A connection runs a reader and a writer. The reader frames what the agent writes and handles
each frame in arrival order: a response fills the cell of the call waiting for it (a response
nobody waits for is dropped), a request goes to the responder of its method on a task of its
own (with no responder it is refused with `-32601`), a notification goes to the listener and
is heard before the next frame is read, and a line that is not a message is reported. At the
end of the agent's output the reader reports that the stream closed, unless the connection was
closed already, and closes it. The writer writes queued messages in order; a failed write is
reported and closes the connection. Both stop, before anything else, once the connection is
closed; the writer then closes the agent's input.

Closing marks the connection closed and fails every waiting call with `TransportClosed`; open
slots are left as they are. A call sent with a deadline that passes first fails with
`Timeout`, and its entry is removed. All functions here act on connection number `i`.

The tasks spend their run's budget as they go: a read of the agent's output that gets bytes or
the end, a lookup of the waiting calls, the responders, the listener or the failure subscriber
(each behind a lock), and putting a message on the writer's queue cost a unit each, and the
writer spends one on taking a message and one on writing it. A burst of frames therefore makes
the reader give way part of the way through, and the tasks it started run before the rest.
-/

namespace AgentLink

open Json Concurrency

/-- How the host acts on what the agent says: the listeners and responders at work. -/
structure Hooks where
  /-- Let a listener hear a notification on connection `i`. -/
  hear : Nat → Listener → String → Value → Act Unit
  /-- Let a responder answer a request of a method, with its params and id, on connection
  `i`. -/
  answer : Nat → Responder → String → Value → RequestId → Act (Except Failure Value)

/-- Enough turns for any loop of a task. -/
def taskFuel : Nat := 1000000

/-- The turns the reader, the writer and the diagnostics watcher of a connection may take, 2^64.
Each turn of the reader or the watcher is paid for by the bytes it reads, so only a stream of
more than `2^64 / 5` bytes could use them all. -/
def loopFuel : Nat := 18446744073709551616

namespace Memory

/-- Tell the failure subscriber of connection `i`, if there is one, about a process failure. -/
def report (m : Memory) (i : Nat) (r : ProcessReport) : Memory :=
  if (m.link i).reports then m.modifyHeard fun h => { h with reports := h.reports ++ [r] } else m

/-- Mark connection `i` closed; false when it was closed already. -/
def markClosed (m : Memory) (i : Nat) : Bool × Memory :=
  if (m.link i).closed then (false, m)
  else (true, m.modifyLink i fun c => { c with closed := true })

/-- Fail every call waiting on connection `i` with `TransportClosed`. -/
def failPending (m : Memory) (i : Nat) : Memory :=
  let c := m.link i
  let m := m.modifyLink i fun c => { c with pending := [] }
  c.pending.foldl (fun m e => m.modifyCell e.2 (·.fill (.error .transportClosed))) m

/-- Close connection `i` and fail every call waiting on it; false when it was closed already. -/
def shutdown (m : Memory) (i : Nat) : Bool × Memory :=
  match m.markClosed i with
  | (true, m) => (true, m.failPending i)
  | other => other

/-- Resolve the slot `key` of connection `i` with `value`, once; false when none is open. -/
def resolveSlot (m : Memory) (i : Nat) (key : String) (value : Value) : Bool × Memory :=
  match (m.link i).takeSlot key with
  | (some cell, c) => (true, (m.modifyLink i fun _ => c).modifyCell cell (·.fill (.ok value)))
  | (none, _) => (false, m)

/-- Drop the slot `key` of connection `i` unanswered; false when none is open. -/
def cancelSlot (m : Memory) (i : Nat) (key : String) : Bool × Memory :=
  match (m.link i).takeSlot key with
  | (some cell, c) => (true, (m.modifyLink i fun _ => c).modifyCell cell Cell.abandon)
  | (none, _) => (false, m)

/-- Whether connection `i` has a slot open under `key`. -/
def hasSlot (m : Memory) (i : Nat) (key : String) : Bool := ((m.link i).slots.lookup key).isSome

end Memory

namespace Link

/-- The connection. -/
def get (i : Nat) : Act Connection := Async.read (·.link i)

/-- Change the connection. -/
def modify (i : Nat) (f : Connection → Connection) : Act Unit := Async.modify (·.modifyLink i f)

/-- Whether the connection is closed. -/
def isClosed (i : Nat) : Act Bool := Async.read fun m => (m.link i).closed

/-- Tell the failure subscriber, if there is one, about a process failure; looking the
subscriber up takes a lock, a unit of the budget. -/
def report (i : Nat) (r : ProcessReport) : Act Unit := do
  Async.spend
  Async.modify (·.report i r)

/-- When the writer's queue is full, wait until it has room or the writer no longer takes
messages. -/
def waitForRoom (i : Nat) : Act Unit := do
  if ← Async.read fun m => (m.link i).queueFull then
    Async.waitUntil (fun m => !(m.link i).queueFull) none

/-- Queue an outbound message, a unit of the budget, once the queue has room; false when the
writer no longer takes messages. -/
def enqueue (i : Nat) (msg : Message) : Act Bool := do
  Async.spend
  waitForRoom i
  Async.modifyGet fun m =>
    if (m.link i).outboxOpen then
      (true, m.modifyLink i fun c => { c with outbox := c.outbox ++ [msg] })
    else (false, m)

/-- Close the connection and fail every waiting call, under the lock on them (a unit of the
budget, spent once the connection is marked closed); false when it was closed already. -/
def shutdown (i : Nat) : Act Bool := do
  if !(← Async.modifyGet (·.markClosed i)) then return false
  Async.spend
  Async.modify (·.failPending i)
  return true

/-- Close the connection. Closing twice does nothing more. -/
def close (i : Nat) : Act Unit := do
  let _ ← shutdown i
  pure ()

/-- Take everything that has arrived on pipe `p`. -/
def takeBytes (p : Nat) : Act (List UInt8) := Async.modifyGet fun m =>
  let (bytes, pipe) := (m.pipe p).take
  (bytes, m.modifyPipe p fun _ => pipe)

/-- Take at most `n` of the bytes that have arrived on pipe `p`. -/
def takeAtMost (p n : Nat) : Act (List UInt8) := Async.modifyGet fun m =>
  let (bytes, pipe) := (m.pipe p).takeAtMost n
  (bytes, m.modifyPipe p fun _ => pipe)

/-- Read at most `n` of the bytes that have arrived on pipe `p`, or the error reading it meets. -/
def readAtMost (p n : Nat) : Act (Except String (List UInt8)) := do
  match ← Async.read fun m => (m.pipe p).fault with
  | some e => return .error e
  | none => return .ok (← takeAtMost p n)

/-- The outcome a settled cell carries; an abandoned cell means the connection closed. -/
def outcomeOf : Cell → Except Failure Value
  | .filled o => o
  | _ => .error .transportClosed

/-- Send a request and wait for its answer, at most `timeout` when one is given. -/
def sendRequest (i : Nat) (method : String) (params : Value) (timeout : Option Duration) :
    Act (Except Failure Value) := do
  let id ← Async.modifyGet fun m =>
    let (n, c) := (m.link i).takeId
    (n, m.modifyLink i fun _ => c)
  let cell ← Act.newCell
  if ← isClosed i then return .error .transportClosed
  modify i fun c => { c with pending := c.pending ++ [(.num id, cell)] }
  let queued ← enqueue i (Message.request (.num id) method params)
  if !queued then
    modify i fun c => (c.takePending (.num id)).2
    return .error .transportClosed
  match timeout with
  | none => return outcomeOf (← Act.awaitCell cell)
  | some limit =>
    let t ← Async.now
    Async.waitUntil (fun m => (m.cell cell).isSettled) (some (t + limit.ceilMillis))
    let c ← Async.read (·.cell cell)
    if c.isSettled then return outcomeOf c
    modify i fun c => (c.takePending (.num id)).2
    return .error (.timeout (method ++ " (id " ++ toString id ++ ") not answered within " ++
      limit.debugText))

/-- Send a notification; when the connection is closed, report that instead. -/
def sendNotification (i : Nat) (method : String) (params : Value) : Act Unit := do
  let delivered ← if ← isClosed i then pure false
    else enqueue i (Message.notification method params)
  if !delivered then report i ⟨.writeFailed, "cannot send " ++ method ++ ": stream closed"⟩

/-- Open the slot `key`, dropping one open under the same key; return its cell. -/
def openSlot (i : Nat) (key : String) : Act Nat := do
  let cell ← Act.newCell
  let old ← Async.modifyGet fun m =>
    let (old, c) := (m.link i).putSlot key cell
    (old, m.modifyLink i fun _ => c)
  if let some o := old then Act.abandon o
  return cell

/-- Resolve the slot `key` with `value`, once; false when no slot is open under it. -/
def resolveSlot (i : Nat) (key : String) (value : Value) : Act Bool :=
  Async.modifyGet (·.resolveSlot i key value)

/-- Drop the slot `key` unanswered; false when no slot is open under it. -/
def cancelSlot (i : Nat) (key : String) : Act Bool := Async.modifyGet (·.cancelSlot i key)

/-- Stop the writer: it takes no more messages and closes the agent's input. -/
def stopWriter (i : Nat) : Act Unit := do
  let c ← get i
  modify i fun c => { c with outboxOpen := false, outbox := [] }
  Async.modify (·.modifyPipe c.toAgent Pipe.closeWriter)

/-- The writer: write queued messages in order until the connection closes or a write fails.
Taking a message from the queue and writing it cost a unit of the budget each; once a message
is taken it is written, even if the connection closes meanwhile. -/
def writer (i : Nat) : Nat → Act Unit
  | 0 => pure ()
  | fuel + 1 => do
    Async.waitUntil (fun m => let c := m.link i; c.closed || !c.outbox.isEmpty) none
    if ← isClosed i then stopWriter i
    else
      Async.spend
      let c ← get i
      match c.closed, c.outbox with
      | true, _ => stopWriter i
      | false, [] => writer i fuel
      | false, msg :: rest =>
        modify i fun c => { c with outbox := rest }
        Async.spend
        let written ← Async.modifyGet fun m =>
          match (m.pipe c.toAgent).write (utf8Encode msg.line) with
          | some p => (true, m.modifyPipe c.toAgent fun _ => p)
          | none => (false, m)
        if written then writer i fuel
        else
          report i ⟨.writeFailed, "write failed: io: broken pipe"⟩
          let _ ← shutdown i
          stopWriter i

/-- The answer to a request, from its handler's outcome. -/
def replyTo (id : RequestId) : Except Failure Value → Message
  | .ok v => Message.response id v
  | .error (.remote code message _) => Message.errorResponse id code message
  | .error e => Message.errorResponse id internalError e.display

/-- Handle one message from the agent. Looking up the waiting call, the responder or the
listener takes a lock, a unit of the budget. -/
def dispatch (hooks : Hooks) (i : Nat) (msg : Message) : Act Unit := do
  match msg.kind with
  | .response =>
    if let some id := msg.id then
      Async.spend
      let cell ← Async.modifyGet fun m =>
        let (cell, c) := (m.link i).takePending id
        (cell, m.modifyLink i fun _ => c)
      if let some c := cell then Act.fill c msg.outcome
  | .request =>
    match msg.id, msg.method with
    | some id, some method =>
      let params := msg.params.getD .null
      Async.spend
      let c ← get i
      match c.responders.lookup method with
      | none =>
        let refusal := Message.errorResponse id methodNotFound ("method not supported: " ++ method)
        let _ ← enqueue i refusal
      | some r =>
        Async.spawn do
          let out ← hooks.answer i r method params id
          let _ ← enqueue i (replyTo id out)
    | _, _ => pure ()
  | .notification =>
    if let some method := msg.method then
      Async.spend
      let c ← get i
      if let some l := c.listener then hooks.hear i l method (msg.params.getD .null)
  | .invalid => report i ⟨.malformedOutput, "message carries neither id nor method"⟩

/-- Handle one frame from the agent. -/
def dispatchFrame (hooks : Hooks) (i : Nat) : Frame → Act Unit
  | .malformed line reason => report i ⟨.malformedOutput, reason ++ ": " ++ line⟩
  | .message msg => dispatch hooks i msg

/-- Stop the reader: close the connection and stop reading the agent's output. -/
def stopReader (i : Nat) : Act Unit := do
  let _ ← shutdown i
  let c ← get i
  Async.modify (·.modifyPipe c.fromAgent Pipe.closeReader)

/-- The end of the agent's output: report it unless the connection was closed already, and
stop. -/
def outputEnded (i : Nat) : Act Unit := do
  if !(← isClosed i) then report i ⟨.streamClosed, "agent stdout closed"⟩
  stopReader i

/-- The reader: frame the agent's output and handle each frame in order, until the connection
closes, the output ends or reading it fails. Frames are cut from the inbox until it holds none;
only then is the pipe read again, for at most the inbox's room. After the end the last frames
are cut and the output is over; a failed read is reported as the stream closing, and ends it.
Each turn of the loop (a frame handed on, a look that finds no frame, a wait, a read) takes one
of the `fuel` turns; a read also spends a unit of the run's budget. -/
def reader (hooks : Hooks) (i : Nat) : Nat → Framer → Act Unit
  | 0, _ => pure ()
  | fuel + 1, fr => do
    let c ← get i
    if c.closed then stopReader i
    else if fr.framing then
      match fr.inbox.nextFrame fr.atEnd with
      | (ib, some f) =>
        dispatchFrame hooks i f
        reader hooks i fuel { fr with inbox := ib }
      | (ib, none) =>
        if fr.atEnd then outputEnded i
        else reader hooks i fuel { fr with inbox := ib, framing := false }
    else if !(← Async.read fun m => (m.pipe c.fromAgent).readable) then
      Async.waitUntil (fun m => (m.link i).closed || (m.pipe c.fromAgent).readable) none
      reader hooks i fuel fr
    else
      Async.spend
      if ← isClosed i then stopReader i
      else
        let ib := fr.inbox.makeRoom
        match ← readAtMost c.fromAgent ib.room with
        | .error e =>
          report i ⟨.streamClosed, "stream error: " ++ e⟩
          stopReader i
        | .ok bytes =>
          if bytes.isEmpty then reader hooks i fuel ⟨ib, true, true⟩
          else reader hooks i fuel ⟨ib.push bytes, true, false⟩

/-- Handle one line of the agent's diagnostics, without its newline; a line that had one also
loses a carriage return before it. False when the line is not UTF-8, which ends them. -/
def stderrLine (i : Nat) (bytes : List UInt8) (terminated : Bool) : Act Bool := do
  let bytes := if terminated then dropCarriageReturn bytes else bytes
  match utf8Decode bytes with
  | none => return false
  | some line =>
    if looksLikeError line then report i ⟨.stderr, line⟩
    return true

/-- The most one read of the agent's diagnostics takes. -/
def diagnosticsChunk : Nat := 8192

/-- Watch the agent's diagnostics on pipe `p`, reporting the lines that look like failures,
until the connection closes, the stream ends, reading it fails or a line is not UTF-8. The pipe
is read, at most `diagnosticsChunk` bytes at a time, only when no whole line is buffered; a read
costs a unit of the budget, and at the end what is left forms a last line. Each turn of the loop
(a line handled, a wait, a read) takes one of the `fuel` turns. -/
def watchStderr (i p : Nat) : Nat → List UInt8 → Act Unit
  | 0, _ => pure ()
  | fuel + 1, buf => do
    let stop : Act Unit := Async.modify (·.modifyPipe p Pipe.closeReader)
    if ← isClosed i then stop
    else
      match buf.findIdx? (· == 10) with
      | some k =>
        if ← stderrLine i (buf.take k) true then watchStderr i p fuel (buf.drop (k + 1))
        else stop
      | none =>
        if !(← Async.read fun m => (m.pipe p).readable) then
          Async.waitUntil (fun m => (m.link i).closed || (m.pipe p).readable) none
          watchStderr i p fuel buf
        else
          Async.spend
          if ← isClosed i then stop
          else
            match ← readAtMost p diagnosticsChunk with
            | .error _ => stop
            | .ok bytes =>
              if !bytes.isEmpty then watchStderr i p fuel (buf ++ bytes)
              else if buf.isEmpty then stop
              else if ← stderrLine i buf false then watchStderr i p fuel []
              else stop

/-- Start watching the agent's diagnostics on pipe `p`. -/
def attachStderr (i p : Nat) : Act Unit := Async.spawn (watchStderr i p loopFuel [])

/-- Open a connection over the given pipes and start its writer and reader. -/
def start (hooks : Hooks) (fromAgent toAgent : Nat) : Act Nat := do
  let i ← Async.modifyGet (·.addLink (Connection.fresh fromAgent toAgent))
  Async.spawn (writer i loopFuel)
  Async.spawn (reader hooks i loopFuel {})
  return i

end Link

end AgentLink
