import AgentLink.Host.Memory
import AgentLink.Conversation.Prompt

/-!
# Scenario steps and their answers

A scenario exercises either one connection or the client against scripted agents, step by
step, on a virtual clock. Steps act as the agent (writing to the host, closing a pipe), call
the host (each call a named task), or let time pass. After each step everything that can run
runs, and the answer tells what the step returned and what was observed since the previous
step: the calls that ended, the lines each agent received, the conversation events each
prompt's sink received, the process failures, notifications, requests and permission
requests the subscribers heard, and the state of the connection or client.
-/

namespace AgentLink

open Json

/-- Which permission request an answer is for. -/
inductive PermissionTarget where
  /-- The `k`-th request the subscriber heard, from 0. -/
  | heard (k : Nat)
  /-- The request with this id. -/
  | byId (id : String)
  deriving Inhabited

/-- One step of a scenario. -/
inductive Step where
  /-- Wait up to `ms` for the call `name` to end. -/
  | await (name : String) (ms : Nat)
  /-- Let `ms` milliseconds pass. -/
  | advance (ms : Nat)
  /-- The agent writes bytes to the host. -/
  | agentWrite (agent : Nat) (bytes : List UInt8)
  /-- The agent answers a request: by id, or else the last request it received of method
  `method`, or else the last it received; `key` is `result` or `error`. -/
  | agentRespond (agent : Nat) (id : Option Value) (method : Option String) (key : String)
      (payload : Value)
  /-- The agent closes its output. -/
  | agentClose (agent : Nat)
  /-- The agent stops reading its input. -/
  | agentCloseInput (agent : Nat)
  /-- The diagnostic text of the connection or client. -/
  | debug
  /-- Subscribe to process failures. -/
  | subscribeErrors (name : String)
  /-- Send a request on the connection. -/
  | sendRequest (name method : String) (params : Value) (timeoutMs : Option Nat)
  /-- Send a notification on the connection. -/
  | sendNotification (name method : String) (params : Value)
  /-- Log the connection's notifications, each after a pause. -/
  | listen (delayMs : Nat)
  /-- Answer the agent's requests of `method` with a scripted handler. -/
  | handle (method : String) (reply : Reply) (delayMs : Nat)
  /-- Open a slot and wait for it. -/
  | openSlot (key name : String)
  | resolveSlot (key : String) (value : Value)
  | cancelSlot (key : String)
  | hasSlot (key : String)
  /-- Close the connection. -/
  | close
  /-- Report a process failure on the connection. -/
  | report (r : ProcessReport)
  /-- Watch a new diagnostics pipe of the agent. -/
  | attachStderr
  /-- The agent writes to its diagnostics pipe. -/
  | agentStderr (bytes : List UInt8)
  /-- The agent closes its diagnostics pipe. -/
  | agentStderrClose
  /-- The client connects and makes its handshake. -/
  | handshake (name : String)
  | newSession (name cwd : String) (servers : List Value)
  /-- The client runs a turn; its sink listens or not. -/
  | prompt (name session : String) (content : List PromptItem) (listening : Bool)
  | cancel (name session : String)
  | respondPermission (name : String) (target : PermissionTarget) (response : PermissionResponse)
  | subscribePermissions (name : String)
  | waitComplete (name : String)
  | disconnect (name : String)
  /-- A step that cannot be performed, with the reason. -/
  | refused (reason : String)
  deriving Inhabited

/-- What a step returned. -/
inductive StepResult where
  /-- Nothing. -/
  | unit
  /-- A call was started as the named task. -/
  | started (name : String)
  /-- The agent's write went through. -/
  | written
  /-- The agent's write failed: the host no longer reads. -/
  | brokenPipe
  | flag (b : Bool)
  | text (s : String)
  /-- The awaited call ended; `earlier` when that was before this step. -/
  | ended (name : String) (r : CallResult) (earlier : Bool)
  /-- The awaited call has not ended. -/
  | pending (name : String)
  /-- The step could not be performed. -/
  | refused (reason : String)
  deriving Inhabited

/-- What an agent received: a line, or the end of its input. -/
inductive Received where
  | line (text : String)
  | eof
  deriving Inhabited

/-- The state shown after a step. -/
inductive Shown where
  /-- Whether the connection is closed. -/
  | link (closed : Bool)
  /-- Whether the client is connected, whether a turn runs, and the active session. -/
  | client (initialized processing : Bool) (activeSession : Option String)
  deriving Inhabited

/-- The answer to one step. -/
structure StepAnswer where
  result : StepResult
  done : List (String × CallResult)
  sent : List (Nat × List Received)
  events : List (String × List Event)
  errors : List ProcessReport
  inbound : List Value
  permissions : List PermissionRequest
  shown : Shown
  deriving Inhabited

end AgentLink
