import AgentLink.Bench.Run
import AgentLink.Agent.Launch

/-!
# Probing an agent process

A probe starts an agent process and connects to it, logs what the agent tells it (process
failures and notifications), sends its requests one after the other, each with a three second
deadline, and lets 50 ms pass. Then it closes the connection, if asked to, and waits up to
three seconds for a report that the agent exited. What it found is what the requests came back
with, what it heard, and whether the connection is closed by then.
-/

namespace AgentLink

open Json Concurrency

/-- A request a probe sends. -/
structure ProbeRequest where
  method : String
  params : Value
  deriving Inhabited

/-- What a probe found. -/
structure ProbeFindings where
  /-- The outcome of each request, in order. -/
  results : List (Except Failure Value)
  /-- The notifications heard, as the bench logs them. -/
  inbound : List Value
  /-- The process failures heard, in the order they came. -/
  reports : List ProcessReport
  /-- Whether the connection was closed at the end. -/
  closed : Bool

/-- How long the probe waits for each answer. -/
def probeDeadline : Duration := Duration.ofSecs 3

/-- How long the probe waits for the agent to exit, in milliseconds. -/
def probeExitWait : Nat := 3000

/-- Whether a report says the process exited. -/
def ProcessReport.isExit (r : ProcessReport) : Bool :=
  match r.kind with
  | .exited _ => true
  | _ => false

/-- The probe as a task of the host. It records the outcome of each request as the ended call
`request`, and ends as the call `probe`: with whether the connection is closed, or with why the
agent could not start. -/
def probeTask (m : Machine) (cfg : SpawnConfig) (requests : List ProbeRequest) (close : Bool) :
    Act Unit := do
  match ← launch benchHooks m cfg with
  | .error f => Async.modify (·.finish "probe" (.returned (.error f)))
  | .ok i =>
    Link.modify i fun c => { c with reports := true, listener := some (.log 0) }
    for r in requests do
      let out ← Link.sendRequest i r.method r.params (some probeDeadline)
      Async.modify (·.finish "request" (.returned out))
    Async.sleep 50
    if close then Link.close i
    let t ← Async.now
    Async.waitUntil (fun m => m.heard.reports.any ProcessReport.isExit) (some (t + probeExitWait))
    let closed ← Link.isClosed i
    Async.modify (·.finish "probe" (.returned (.ok (.bool closed))))

/-- The longest a probe can take, in milliseconds: every request waited out, the pause, and
the wait for the exit. -/
def probeSpan (requests : Nat) : Nat := requests * probeDeadline.ceilMillis + 50 + probeExitWait + 1

/-- Probe an agent started on machine `m` from `cfg`; the failure when it cannot start. -/
def probe (m : Machine) (cfg : SpawnConfig) (requests : List ProbeRequest) (close : Bool) :
    Except Failure ProbeFindings :=
  let sched := (Scheduler.start (Memory.new (Client.new default))).launch
    (probeTask m cfg requests close).toProgram
  let (sched, _) := sched.runUntil (·.hasFinished "probe") (probeSpan requests.length) taskFuel
  let heard := sched.state.heard
  let ended := fun (name : String) => heard.finished.filterMap fun (e : String × CallResult) =>
    if e.1 == name then some e.2 else none
  match ended "probe" with
  | [.returned (.error f)] => .error f
  | outcome =>
    let closed := match outcome with
      | [.returned (.ok (.bool b))] => b
      | _ => false
    let results := (ended "request").filterMap fun
      | .returned r => some r
      | .slotClosed => none
    .ok ⟨results, heard.inbound, heard.reports, closed⟩

end AgentLink
