import AgentLink.Retry
import AgentLink.Text.Quote
import AgentLink.Permission

/-!
# The state of the client

The client drives one agent connection at a time. Its options fix the handshake: the retry
policy, the deadline of each attempt, and the name and version it introduces itself with.

Initialisation is serialised by a first-come, first-served lock, kept as two ticket counters:
the next ticket to hand out and the ticket that holds the lock. The active session, the sink of
the running turn, whether a turn runs, and the cells of those waiting for it to end form one
`Turn` record, changed in single steps.
-/

namespace AgentLink

/-- How the client makes its handshake. -/
structure ClientOptions where
  retry : RetryPolicy
  /-- The deadline of each handshake attempt; none waits for ever. -/
  handshakeTimeout : Option Duration
  name : String
  version : String
  deriving Inhabited

/-- The client's options as its diagnostic form shows them. -/
def ClientOptions.debugText (o : ClientOptions) : String :=
  let timeout := match o.handshakeTimeout with
    | some d => "Some(" ++ d.debugText ++ ")"
    | none => "None"
  "BackendOptions \x7b retry: RetryPolicy \x7b max_attempts: " ++ toString o.retry.maxAttempts ++
    ", min_delay: " ++ o.retry.minDelay.debugText ++ ", max_delay: " ++
    o.retry.maxDelay.debugText ++ " \x7d, handshake_timeout: " ++ timeout ++ ", client_name: " ++
    quote o.name ++ ", client_version: " ++ quote o.version ++ " \x7d"

/-- Who hears the agent's permission requests. -/
inductive PermissionSubscriber where
  /-- A log of the requests, answered by hand. -/
  | log
  /-- A responder that answers each request as the policy says. -/
  | policy (p : PermissionPolicy)
  deriving Inhabited

/-- The turn bookkeeping. -/
structure Turn where
  /-- The session updates are routed for. -/
  activeSession : Option String
  /-- The sink of the running turn. -/
  sink : Option Nat
  /-- Whether a turn runs. -/
  inProgress : Bool
  /-- Cells filled when the running turn ends. -/
  waiters : List Nat
  deriving Inhabited

/-- The client. -/
structure Client where
  options : ClientOptions
  /-- The connection made by the last successful initialisation. -/
  link : Option Nat
  /-- How many connections have been made. -/
  connections : Nat
  /-- The next ticket of the initialisation lock. -/
  nextTicket : Nat
  /-- The ticket that holds the initialisation lock. -/
  serving : Nat
  /-- Who hears permission requests. -/
  permissionSubscriber : Option PermissionSubscriber
  /-- Whether anyone hears process failures. -/
  errorSubscriber : Bool
  turn : Turn
  /-- How many tool call ids have been made up. -/
  madeUpIds : Nat
  deriving Inhabited

/-- A client with nothing connected. -/
def Client.new (options : ClientOptions) : Client :=
  ⟨options, none, 0, 0, 0, none, false, ⟨none, none, false, []⟩, 0⟩

/-- The client's diagnostic form. -/
def Client.debugText (c : Client) : String :=
  "AcpBackend \x7b options: " ++ c.options.debugText ++ ", .. \x7d"

end AgentLink
