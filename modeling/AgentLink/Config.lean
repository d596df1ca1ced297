import AgentLink.Toml.Parser
import AgentLink.Toml.Decode
import AgentLink.Toml.Render
import AgentLink.Failure
import AgentLink.Retry
import AgentLink.Text.Blank
import AgentLink.Host.FileSystem
import AgentLink.Permission

/-!
# The bridge's configuration

The configuration is a TOML document:

```
permission_policy = "allow_once"   # or "cancel" (the default), "first_option"

[agent]
command = "gemini"                  # required
args = ["--experimental-acp"]
env = { GEMINI_API_KEY = "..." }

[session]
cwd = "."                           # the directory the agent works in
mcp_servers = []                    # forwarded to the agent as JSON

[retry]
max_attempts = 3
min_delay_ms = 1000
max_delay_ms = 5000

[timeouts]
handshake_seconds = 30              # 0: no deadline
```

Unknown keys are ignored. After reading, the configuration is checked in this order: the
command must not be blank, at least one attempt is needed, the longest delay may not be
shorter than the shortest, and the session directory must exist; it is replaced by its
canonical path.
-/

namespace AgentLink

open Json Toml

/-- How the agent process is started. -/
structure AgentCommand where
  command : String
  args : List String
  env : List (String × String)
  deriving Inhabited

/-- What a new session starts with. -/
structure SessionDefaults where
  cwd : String
  mcpServers : List Value
  deriving Inhabited

/-- The retry settings of the handshake. -/
structure RetrySettings where
  maxAttempts : Nat
  minDelayMs : Nat
  maxDelayMs : Nat
  deriving Inhabited

/-- The configuration. -/
structure Config where
  agent : AgentCommand
  session : SessionDefaults
  retry : RetrySettings
  handshakeSeconds : Nat
  permissionPolicy : PermissionPolicy
  deriving Inhabited

namespace Config

/-- The retry settings when none are given. -/
def defaultRetry : RetrySettings := ⟨3, 1000, 5000⟩

/-- The session defaults when none are given: the working directory, no servers. -/
def defaultSession : SessionDefaults := ⟨".", []⟩

/-- The handshake deadline in seconds when none is given. -/
def defaultHandshakeSeconds : Nat := 30

/-- Read the `[agent]` table. -/
def readAgent : Read AgentCommand :=
  readStruct "AgentConfig"
    [Field.of "command" (readString "a string") (fun v s => { s with command := v }) true,
     Field.of "args" (readList (readString "a string")) (fun v s => { s with args := v }) false,
     Field.of "env" (readMap (readString "a string")) (fun v s => { s with env := v }) false]
    ⟨"", [], []⟩

/-- Read the `[session]` table. -/
def readSession : Read SessionDefaults :=
  readStruct "SessionDefaults"
    [Field.of "cwd" (readString "path string") (fun v s => { s with cwd := v }) false,
     Field.of "mcp_servers" (readList fun it => .ok it.toJson)
       (fun v s => { s with mcpServers := v }) false]
    defaultSession

/-- Read the `[retry]` table. -/
def readRetry : Read RetrySettings :=
  readStruct "RetryConfig"
    [Field.of "max_attempts" (readUnsigned 32) (fun v s => { s with maxAttempts := v }) false,
     Field.of "min_delay_ms" (readUnsigned 64) (fun v s => { s with minDelayMs := v }) false,
     Field.of "max_delay_ms" (readUnsigned 64) (fun v s => { s with maxDelayMs := v }) false]
    defaultRetry

/-- Read the `[timeouts]` table: the handshake deadline in seconds. -/
def readTimeouts : Read Nat :=
  readStruct "TimeoutConfig"
    [Field.of "handshake_seconds" (readUnsigned 64) (fun v _ => v) false]
    defaultHandshakeSeconds

/-- Read the permission policy. -/
def readPolicy : Read PermissionPolicy :=
  readVariant [("cancel", .cancel), ("allow_once", .allowOnce), ("first_option", .firstOption)]

/-- Read the whole document. -/
def read : Read Config :=
  readStruct "GlobalConfig"
    [Field.of "agent" readAgent (fun v s => { s with agent := v }) true,
     Field.of "session" readSession (fun v s => { s with session := v }) false,
     Field.of "retry" readRetry (fun v s => { s with retry := v }) false,
     Field.of "timeouts" readTimeouts (fun v s => { s with handshakeSeconds := v }) false,
     Field.of "permission_policy" readPolicy (fun v s => { s with permissionPolicy := v }) false]
    ⟨⟨"", [], []⟩, defaultSession, defaultRetry, defaultHandshakeSeconds, .cancel⟩

/-- Check a configuration read from text, resolving its session directory in `fs`. -/
def validate (fs : FileSystem) (c : Config) : Except Failure Config :=
  if (trimBlanks c.agent.command).isEmpty then .error (.config "agent.command must not be empty")
  else if c.retry.maxAttempts = 0 then
    .error (.config "retry.max_attempts must be greater than zero")
  else if c.retry.maxDelayMs < c.retry.minDelayMs then
    .error (.config "retry.max_delay_ms must not be less than retry.min_delay_ms")
  else
    match fs.resolve c.session.cwd with
    | .error e => .error (.config ("session.cwd invalid: " ++ e.text))
    | .ok dir => .ok { c with session := { c.session with cwd := dir } }

/-- Read a configuration from TOML text, unchecked. -/
def parse (text : String) : Except Failure Config :=
  let invalid (p : Problem) : Failure := .config ("invalid config: " ++ p.render text)
  match parseDocument text with
  | .error p => .error (invalid p)
  | .ok root =>
    match readAt read root none with
    | .error p => .error (invalid p)
    | .ok c => .ok c

/-- Read and check a configuration from TOML text. -/
def ofText (fs : FileSystem) (text : String) : Except Failure Config := do
  validate fs (← parse text)

/-- Load a configuration from the file at `path`. -/
def load (fs : FileSystem) (path : String) : Except Failure Config :=
  match fs.read path with
  | .error e => .error (.config ("failed to read config: " ++ e.text))
  | .ok bytes =>
    match utf8Decode bytes with
    | some text => ofText fs text
    | none => .error (.config "failed to read config: stream did not contain valid UTF-8")

/-- The retry policy of the handshake. -/
def retryPolicy (c : Config) : RetryPolicy :=
  ⟨c.retry.maxAttempts, Duration.ofMillis c.retry.minDelayMs,
    Duration.ofMillis c.retry.maxDelayMs⟩

/-- The deadline of each handshake attempt, none when disabled. -/
def handshakeTimeout (c : Config) : Option Duration :=
  if c.handshakeSeconds = 0 then none else some (Duration.ofSecs c.handshakeSeconds)

end Config

end AgentLink
