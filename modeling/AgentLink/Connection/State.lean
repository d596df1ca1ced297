import AgentLink.Wire.Message

/-!
# The state of a connection

A connection to an agent numbers the host's requests from 1, keeps the calls that wait for an
answer (each with the cell its answer goes to) and the slots in which answers to the agent's
requests are parked, queues outbound messages for the writer, and knows who listens to the
agent's notifications, who answers its requests, and whether anyone hears its process
failures. Closing is final.

Tables keyed by request id or slot key are association lists; putting a key that is there
replaces its entry in place.
-/

namespace AgentLink

open Json

/-- Remove the entry of `key`, returning its value. -/
def extractEntry {κ α : Type} [BEq κ] (key : κ) :
    List (κ × α) → Option α × List (κ × α)
  | [] => (none, [])
  | (k, v) :: rest =>
    if k == key then (some v, rest)
    else
      let (found, rest') := extractEntry key rest
      (found, (k, v) :: rest')

/-- Put an entry, replacing the one of the same key in place; return the value it replaced. -/
def putEntry {κ α : Type} [BEq κ] (key : κ) (value : α) :
    List (κ × α) → Option α × List (κ × α)
  | [] => (none, [(key, value)])
  | (k, v) :: rest =>
    if k == key then (some v, (key, value) :: rest)
    else
      let (old, rest') := putEntry key value rest
      (old, (k, v) :: rest')

/-- What a scripted request handler answers. -/
inductive Reply where
  /-- This result. -/
  | result (v : Value)
  /-- This failure. -/
  | failure (f : Failure)
  /-- The value a slot keyed by the request id is resolved with. -/
  | slot
  deriving Inhabited

/-- Who hears the agent's notifications. -/
inductive Listener where
  /-- A log that records each notification after a pause of `delayMs`. -/
  | log (delayMs : Nat)
  /-- The client, which routes session updates to the running turn. -/
  | client
  deriving Inhabited

/-- Who answers the agent's requests of one method. -/
inductive Responder where
  /-- A handler that logs the call, pauses `delayMs`, then answers `reply`. -/
  | scripted (reply : Reply) (delayMs : Nat)
  /-- The client's permission flow. -/
  | permission
  deriving Inhabited

/-- One connection to an agent. -/
structure Connection where
  /-- The id of the host's next request. -/
  nextId : Nat
  /-- Whether the connection is closed. -/
  closed : Bool
  /-- Messages waiting for the writer. -/
  outbox : List Message
  /-- Whether the writer still takes messages. -/
  outboxOpen : Bool
  /-- Calls waiting for an answer, with the cell each answer goes to. -/
  pending : List (RequestId × Nat)
  /-- Open slots, with the cell each resolution goes to. -/
  slots : List (String × Nat)
  listener : Option Listener
  responders : List (String × Responder)
  /-- Whether anyone hears process failures. -/
  reports : Bool
  /-- The pipe the agent writes to. -/
  fromAgent : Nat
  /-- The pipe the agent reads from. -/
  toAgent : Nat
  deriving Inhabited

/-- How many messages the writer's queue holds; putting a message on a full queue waits for
room. -/
def outboundCapacity : Nat := 64

namespace Connection

/-- Whether putting a message on the queue must wait: the writer still takes messages and the
queue is full. -/
def queueFull (c : Connection) : Bool := c.outboxOpen && decide (outboundCapacity ≤ c.outbox.length)

/-- A fresh connection over the given pipes. -/
def fresh (fromAgent toAgent : Nat) : Connection :=
  ⟨1, false, [], true, [], [], none, [], false, fromAgent, toAgent⟩

/-- Take the next request id. -/
def takeId (c : Connection) : Nat × Connection := (c.nextId, { c with nextId := c.nextId + 1 })

/-- Remove the waiting call of `id`, returning its cell. -/
def takePending (c : Connection) (id : RequestId) : Option Nat × Connection :=
  let (cell, rest) := extractEntry id c.pending
  (cell, { c with pending := rest })

/-- Open the slot `key` with `cell`, returning the cell of the slot it replaces. -/
def putSlot (c : Connection) (key : String) (cell : Nat) : Option Nat × Connection :=
  let (old, slots) := putEntry key cell c.slots
  (old, { c with slots := slots })

/-- Remove the slot `key`, returning its cell. -/
def takeSlot (c : Connection) (key : String) : Option Nat × Connection :=
  let (cell, rest) := extractEntry key c.slots
  (cell, { c with slots := rest })

/-- Set who answers requests of `method`. -/
def setResponder (c : Connection) (method : String) (r : Responder) : Connection :=
  { c with responders := (putEntry method r c.responders).2 }

end Connection

end AgentLink
