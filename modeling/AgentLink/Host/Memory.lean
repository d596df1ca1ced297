import AgentLink.Concurrency.Program
import AgentLink.Concurrency.Channel
import AgentLink.Connection.State
import AgentLink.Client.State
import AgentLink.Conversation.Event
import AgentLink.Permission
import AgentLink.Report

/-!
# The memory the host's tasks share

All tasks of the host process share one `Memory`: the pipes to and from the agents, the
one-shot cells that carry answers between tasks, the connections, the sinks that receive each
turn's conversation events, the client, what the host's subscribers have heard, the agent
processes it started and the jobs those started, what it has written to its standard output,
and what interrupts did to it. Pipes, cells, connections, sinks, children and jobs are numbered
by their place in their array; `Act α` is a task over this memory.
-/

namespace AgentLink

open Json Concurrency

/-- Where a turn's conversation events go. -/
structure Sink where
  /-- Whether the receiving end is still there. -/
  listening : Bool
  /-- Events delivered and not yet collected. -/
  received : List Event
  /-- Whether events may still come. -/
  sending : Bool
  deriving Inhabited

/-- How a call of the host ended. -/
inductive CallResult where
  /-- It returned, or failed. -/
  | returned (r : Except Failure Value)
  /-- The slot it waited on was dropped. -/
  | slotClosed
  deriving Inhabited

/-- What the host's subscribers have heard, and the calls that have ended. -/
structure Heard where
  /-- Process failures, not yet collected. -/
  reports : List ProcessReport
  /-- Notifications and requests from the agent, not yet collected. -/
  inbound : List Value
  /-- Every permission request, in the order they came. -/
  permissions : List PermissionRequest
  /-- Every call that ended, in the order they ended. -/
  finished : List (String × CallResult)
  deriving Inhabited

/-- How a process ended. -/
inductive ExitStatus where
  /-- It exited with this code. -/
  | code (n : Int)
  /-- A signal ended it. -/
  | signal
  deriving DecidableEq, Inhabited

/-- A child process of the host: the pipes of its standard streams and how it ended. -/
structure Child where
  stdin : Nat
  stdout : Nat
  stderr : Nat
  status : Option ExitStatus
  deriving Inhabited

/-- What interrupts did to the host: whether it handles them, whether one arrived while it
did, and whether one arrived while it did not, which ends the host. -/
structure Interrupts where
  handled : Bool
  caught : Bool
  fatal : Bool
  deriving Inhabited

/-- The memory shared by the host's tasks. -/
structure Memory where
  pipes : Array Pipe
  cells : Array Cell
  links : Array Connection
  sinks : Array Sink
  client : Client
  heard : Heard
  children : Array Child
  /-- What the host has written to its standard output. -/
  output : String
  interrupts : Interrupts
  /-- The processes that agent processes started, by number: the status each ended with, none
  while it runs. -/
  jobs : Array (Option Nat)
  deriving Inhabited

/-- A task of the host. -/
abbrev Act (α : Type) := Async Memory α

namespace Memory

/-- Memory with the given client and nothing else. -/
def new (client : Client) : Memory :=
  ⟨#[], #[], #[], #[], client, ⟨[], [], [], []⟩, #[], "", ⟨false, false, false⟩, #[]⟩

/-- Connection `i`. -/
def link (m : Memory) (i : Nat) : Connection := m.links.getD i default

/-- Change connection `i`. -/
def modifyLink (m : Memory) (i : Nat) (f : Connection → Connection) : Memory :=
  { m with links := m.links.modify i f }

/-- Pipe `i`. -/
def pipe (m : Memory) (i : Nat) : Pipe := m.pipes.getD i default

/-- Change pipe `i`. -/
def modifyPipe (m : Memory) (i : Nat) (f : Pipe → Pipe) : Memory :=
  { m with pipes := m.pipes.modify i f }

/-- Cell `i`. -/
def cell (m : Memory) (i : Nat) : Cell := m.cells.getD i default

/-- Change cell `i`. -/
def modifyCell (m : Memory) (i : Nat) (f : Cell → Cell) : Memory :=
  { m with cells := m.cells.modify i f }

/-- Add a pipe with both ends open, returning its number. -/
def addPipe (m : Memory) : Nat × Memory :=
  (m.pipes.size, { m with pipes := m.pipes.push Pipe.fresh })

/-- Add an empty cell, returning its number. -/
def addCell (m : Memory) : Nat × Memory := (m.cells.size, { m with cells := m.cells.push .empty })

/-- Add a connection, returning its number. -/
def addLink (m : Memory) (c : Connection) : Nat × Memory :=
  (m.links.size, { m with links := m.links.push c })

/-- Add a sink, returning its number. -/
def addSink (m : Memory) (listening : Bool) : Nat × Memory :=
  (m.sinks.size, { m with sinks := m.sinks.push ⟨listening, [], true⟩ })

/-- Sink `i`. -/
def sink (m : Memory) (i : Nat) : Sink := m.sinks.getD i default

/-- No more events will come to sink `i`. -/
def closeSink (m : Memory) (i : Nat) : Memory :=
  { m with sinks := m.sinks.modify i fun s => { s with sending := false } }

/-- Take the events delivered to sink `i`. -/
def takeEvents (m : Memory) (i : Nat) : List Event × Memory :=
  ((m.sink i).received, { m with sinks := m.sinks.modify i fun s => { s with received := [] } })

/-- Deliver an event to sink `i`; false when nobody listens there. -/
def deliver (m : Memory) (i : Nat) (e : Event) : Bool × Memory :=
  match m.sinks[i]? with
  | some s =>
    if s.listening then
      (true, { m with sinks := m.sinks.set! i { s with received := s.received ++ [e] } })
    else (false, m)
  | none => (false, m)

/-- Child `i`. -/
def child (m : Memory) (i : Nat) : Child := m.children.getD i default

/-- Change child `i`. -/
def modifyChild (m : Memory) (i : Nat) (f : Child → Child) : Memory :=
  { m with children := m.children.modify i f }

/-- Add a child with the given pipes, running, returning its number. -/
def addChild (m : Memory) (stdin stdout stderr : Nat) : Nat × Memory :=
  (m.children.size, { m with children := m.children.push ⟨stdin, stdout, stderr, none⟩ })

/-- Whether child `i` has ended. -/
def hasEnded (m : Memory) (i : Nat) : Bool := (m.child i).status.isSome

/-- End child `i` with `status`: its output streams end and its input is no longer read. -/
def endChild (m : Memory) (i : Nat) (status : ExitStatus) : Memory :=
  let c := m.child i
  if c.status.isSome then m
  else
    let m := m.modifyPipe c.stdout Pipe.closeWriter
    let m := m.modifyPipe c.stderr Pipe.closeWriter
    let m := m.modifyPipe c.stdin Pipe.closeReader
    m.modifyChild i fun c => { c with status := some status }

/-- Add a running job, returning its number. -/
def addJob (m : Memory) : Nat × Memory := (m.jobs.size, { m with jobs := m.jobs.push none })

/-- Job `i` ended with `status`. -/
def endJob (m : Memory) (i : Nat) (status : Nat) : Memory :=
  { m with jobs := m.jobs.modify i fun _ => some status }

/-- The status job `i` ended with, none while it runs. -/
def jobStatus (m : Memory) (i : Nat) : Option Nat := (m.jobs.getD i none)

/-- Write text to the host's standard output, unless the host has ended. -/
def print (m : Memory) (text : String) : Memory :=
  if m.interrupts.fatal then m else { m with output := m.output ++ text }

/-- Deliver an interrupt to the host. -/
def interrupt (m : Memory) : Memory :=
  let i := m.interrupts
  if i.handled then { m with interrupts := { i with caught := true } }
  else { m with interrupts := { i with fatal := true } }

/-- Change what the subscribers heard. -/
def modifyHeard (m : Memory) (f : Heard → Heard) : Memory := { m with heard := f m.heard }

/-- Record that the call `name` ended with `r`. -/
def finish (m : Memory) (name : String) (r : CallResult) : Memory :=
  m.modifyHeard fun h => { h with finished := h.finished ++ [(name, r)] }

/-- Whether the call `name` has ended. -/
def hasFinished (m : Memory) (name : String) : Bool :=
  m.heard.finished.any (·.1 == name)

end Memory

namespace Act

/-- A fresh empty cell. -/
def newCell : Act Nat := Async.modifyGet Memory.addCell

/-- Fill cell `c`. -/
def fill (c : Nat) (outcome : Except Failure Value) : Act Unit :=
  Async.modify fun m => m.modifyCell c (·.fill outcome)

/-- Abandon cell `c`. -/
def abandon (c : Nat) : Act Unit := Async.modify fun m => m.modifyCell c Cell.abandon

/-- Wait for cell `c` to settle, and read it. -/
def awaitCell (c : Nat) : Act Cell := do
  Async.waitUntil (fun m => (m.cell c).isSettled) none
  Async.read (·.cell c)

end Act

end AgentLink
