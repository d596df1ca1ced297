import AgentLink.Agent.Script
import AgentLink.Process.Streams
import AgentLink.Host.Environment

/-!
# The scripted agent at work

A scripted agent runs as a process: it reads its input line by line, writes JSON lines to its
output and plain lines to its diagnostics. While it looks for a message it remembers the id of
every request it reads, by method; at the end of its input it exits with code 0, and so it
does, after reading to the end of its input, once its script is played. Ending itself on
purpose, it first sleeps 30 ms so that the host has read what it wrote. Playing the script
gives how the process ended.

Text the agent shows (echoes, its environment, its working directory) has every occurrence of
its mask replaced by `$CWD`. Message chunks and updates go to the agent's current session,
`sess-1` until a result it sends names a `sessionId`.
-/

namespace AgentLink

open Json Concurrency

/-- What a scripted agent was started with. -/
structure AgentSetup where
  /-- The agent process of the host it runs in. -/
  child : Nat
  io : Streams
  /-- Its environment block. -/
  environ : List String
  cwd : String
  mask : String
  deriving Inhabited

/-- What a scripted agent remembers as it goes. -/
structure AgentMemory where
  /-- Input read and not yet a line. -/
  input : List UInt8
  /-- The last message it looked for. -/
  last : Option Value
  /-- The id of the last request read, per method. -/
  byMethod : List (String × Value)
  /-- The session its updates are for. -/
  session : String
  deriving Inhabited

/-- The id an answer goes to: that of the last request of method `method`, or else that of the last
message. -/
def AgentMemory.answerId (st : AgentMemory) (method : Option String) : Value :=
  ((method.bind fun t => st.byMethod.lookup t) <|> (st.last.bind (·.get? "id"))).getD .null

namespace AgentSetup

/-- The text with every occurrence of the mask written `$CWD`. -/
def masked (s : AgentSetup) (text : String) : String :=
  if s.mask.isEmpty then text else text.replace s.mask "$CWD"

/-- The variables the agent reads from its environment block, as `K=V` pairs sorted by name
and joined by `;`. -/
def envText (s : AgentSetup) : String :=
  let sorted := (readEnviron s.environ).mergeSort fun a b => decide (a.1 ≤ b.1)
  ";".intercalate (sorted.map fun (k, v) => k ++ "=" ++ v)

/-- Write a line to the agent's output, if its reader is still there. -/
def emit (s : AgentSetup) (line : String) : Act Unit := s.io.say (line ++ "\n")

/-- Write a line to the agent's diagnostics, if their reader is still there. -/
def complain (s : AgentSetup) (line : String) : Act Unit := s.io.complain (line ++ "\n")

/-- Send a message. -/
def say (s : AgentSetup) (v : Value) : Act Unit := s.emit v.render

/-- Send a session update for `session`. -/
def sendUpdate (s : AgentSetup) (session : String) (update : Value) : Act Unit :=
  s.say (Value.obj [("jsonrpc", .string "2.0"), ("method", .string "session/update"),
    ("params", Value.obj [("sessionId", .string session), ("update", update)])])

/-- Send text as a message chunk, masked. -/
def chunk (s : AgentSetup) (session text : String) : Act Unit :=
  s.sendUpdate session (Value.obj [("sessionUpdate", .string "agent_message_chunk"),
    ("content", Value.obj [("type", .string "text"), ("text", .string (s.masked text))])])

/-- Read the next line of input; none at its end. -/
def readLine (s : AgentSetup) : Nat → AgentMemory → Act (Option String × AgentMemory)
  | 0, st => pure (none, st)
  | fuel + 1, st => do
    match st.input.findIdx? (· == 10) with
    | some k =>
      let line := (utf8Decode (st.input.take k)).getD ""
      return (some line, { st with input := st.input.drop (k + 1) })
    | none =>
      match ← s.io.readChunk taskFuel with
      | some bytes => readLine s fuel { st with input := st.input ++ bytes }
      | none =>
        if st.input.isEmpty then return (none, st)
        else return (some ((utf8Decode st.input).getD ""), { st with input := [] })

/-- Read lines until one of `method` arrives (any line when none is given), remembering every
request read; none at the end of the input. -/
def receive (s : AgentSetup) (method : Option String) :
    Nat → AgentMemory → Act (Option AgentMemory)
  | 0, st => pure (some st)
  | fuel + 1, st => do
    match ← s.readLine taskFuel st with
    | (none, _) => return none
    | (some line, st) =>
      match readValue line with
      | .ok v =>
        let st := match v.getStr? "method", v.get? "id" with
          | some m, some id => { st with byMethod := (putEntry m id st.byMethod).2 }
          | _, _ => st
        if method.isNone || v.getStr? "method" == method then return some { st with last := some v }
        else s.receive method fuel st
      | .error _ => s.receive method fuel st

/-- Read to the end of the input, then exit with code 0. -/
def drain (s : AgentSetup) : Nat → AgentMemory → Act Ending
  | 0, _ => pure (.exited 0)
  | fuel + 1, st => do
    match ← s.readLine taskFuel st with
    | (none, _) => pure (.exited 0)
    | (some _, st) => s.drain fuel st

/-- Play the script; an agent whose host process was killed plays no further. -/
def play (s : AgentSetup) : List Action → AgentMemory → Act Ending
  | [], st => s.drain taskFuel st
  | a :: rest, st => do
    if ← Async.read (·.hasEnded s.child) then return .signaled 9
    match a with
    | .receive method => do
      match ← s.receive method taskFuel st with
      | some st => s.play rest st
      | none => pure (.exited 0)
    | .reply result method => do
      s.say (Value.obj [("jsonrpc", .string "2.0"), ("id", st.answerId method), ("result", result)])
      let st := match result.getStr? "sessionId" with
        | some id => { st with session := id }
        | none => st
      s.play rest st
    | .replyError error method => do
      s.say (Value.obj [("jsonrpc", .string "2.0"), ("id", st.answerId method), ("error", error)])
      s.play rest st
    | .update u session => do
      s.sendUpdate (session.getD st.session) u
      s.play rest st
    | .echo => do
      s.chunk st.session ((st.last.getD .null).render)
      s.play rest st
    | .showEnv => do
      s.chunk st.session s.envText
      s.play rest st
    | .showCwd => do
      s.chunk st.session s.cwd
      s.play rest st
    | .send v => do
      s.say v
      s.play rest st
    | .raw line => do
      s.emit line
      s.play rest st
    | .stderr line => do
      s.complain line
      s.play rest st
    | .sleep ms => do
      Async.sleep ms
      s.play rest st
    | .interruptParent ms => do
      Async.sleep ms
      Async.modify Memory.interrupt
      s.play rest st
    | .exit code => do
      Async.sleep 30
      pure (.exited (code % 256).toNat)
    | .killSelf => do
      Async.sleep 30
      pure (.signaled 9)

/-- Run the agent with its script from the start. -/
def run (s : AgentSetup) (script : List Action) : Act Ending :=
  s.play script ⟨[], none, [], "sess-1"⟩

end AgentSetup

end AgentLink
