import AgentLink.Concurrency.Program

/-!
# Running cooperative tasks

A `Scheduler` holds the shared state, the clock, the tasks ready to run (first come, first
served), the tasks that wait, and the tasks that gave way with their budget spent. A task runs
until it waits, finishes or has spent `runBudget` units. Every change of the shared state lets
the waiting tasks whose condition now holds join the back of the queue, in the order they began
to wait; each checks its condition again when it runs. A new task joins the back of the queue.
The tasks that gave way join it only once it is empty, so that every task that was ready when
they gave way runs first; they then start a new run with a full budget.

Time moves only when no task is ready: the clock then jumps to the nearest deadline and the
tasks waiting for it join the queue. `settle` runs until nothing is ready without moving the
clock; `runUntil` also lets time pass, up to a limit, until a goal is reached.
-/

namespace AgentLink.Concurrency

/-- A task that waits, with what it waits for and how it goes on. -/
structure Parked (σ : Type) where
  ready : σ → Bool
  deadline : Option Nat
  next : Program σ

/-- Tasks sharing one state and one clock. -/
structure Scheduler (σ : Type) where
  state : σ
  clock : Nat
  runnable : List (Program σ)
  parked : List (Parked σ)
  /-- Tasks that gave way with their budget spent, in the order they did. -/
  yielded : List (Program σ)

namespace Scheduler

variable {σ : Type}

/-- No task, at time zero. -/
def start (state : σ) : Scheduler σ := ⟨state, 0, [], [], []⟩

/-- Whether a waiting task may go on. -/
def isDue (s : Scheduler σ) (p : Parked σ) : Bool :=
  p.ready s.state ||
    match p.deadline with
    | some d => decide (d ≤ s.clock)
    | none => false

/-- Move the waiting tasks that may go on to the back of the queue, in the order they began to
wait; each checks its condition again when it runs. -/
def wake (s : Scheduler σ) : Scheduler σ :=
  let (due, still) := s.parked.partition s.isDue
  { s with runnable := s.runnable ++ due.map (fun p => .wait p.ready p.deadline p.next),
           parked := still }

/-- Add a task to the back of the queue. -/
def enqueue (s : Scheduler σ) (p : Program σ) : Scheduler σ :=
  { s with runnable := s.runnable ++ [p] }

/-- Run one task, with `budget` units left to spend, until it waits, finishes or gives way,
for at most `fuel` steps. -/
def slice : Nat → Nat → Scheduler σ → Program σ → Scheduler σ
  | 0, _, s, _ => s
  | fuel + 1, budget, s, p =>
    match p with
    | .done => s
    | .update f next => slice fuel budget ({ s with state := f s.state }.wake) next
    | .look next => slice fuel budget s (next s.clock s.state)
    | .wait ready deadline next =>
      let parked : Parked σ := ⟨ready, deadline, next⟩
      if s.isDue parked then slice fuel budget s next
      else { s with parked := s.parked ++ [parked] }
    | .spawn child next => slice fuel budget (s.enqueue child) next
    | .spend next =>
      match budget with
      | 0 => { s with yielded := s.yielded ++ [p] }
      | left + 1 => slice fuel left s next

/-- The units a task may spend in one run. -/
def runBudget : Nat := 128

/-- The steps one run of a task may take at most. -/
def sliceFuel : Nat := 1000000

/-- Run ready tasks until none is, for at most `fuel` runs, without moving the clock. Once the
queue is empty, the tasks that gave way join it. -/
def settleFor : Nat → Scheduler σ → Scheduler σ
  | 0, s => s
  | fuel + 1, s =>
    match s.runnable with
    | [] =>
      if s.yielded.isEmpty then s
      else settleFor fuel { s with runnable := s.yielded, yielded := [] }
    | p :: rest => settleFor fuel (slice sliceFuel runBudget { s with runnable := rest } p)

/-- Run ready tasks until none is, without moving the clock. -/
def settle (s : Scheduler σ) : Scheduler σ := settleFor 1000000 s

/-- Start a task and run until nothing is ready. -/
def launch (s : Scheduler σ) (p : Program σ) : Scheduler σ := (s.enqueue p).settle

/-- The nearest deadline of a waiting task. -/
def nextDeadline (s : Scheduler σ) : Option Nat :=
  s.parked.foldl (fun acc p =>
    match acc, p.deadline with
    | some a, some d => some (min a d)
    | none, d => d
    | a, none => a) none

/-- Move the clock to `t` and wake the tasks whose deadline has come. -/
def jump (s : Scheduler σ) (t : Nat) : Scheduler σ := { s with clock := max s.clock t }.wake

/-- Run until `goal` holds, letting time pass up to `limit`; say whether the goal was reached.
When it is not, the clock stands at `limit`, and the tasks whose deadline is `limit` are ready
but have not run. -/
def runUntil (goal : σ → Bool) (limit : Nat) : Nat → Scheduler σ → Scheduler σ × Bool
  | 0, s => (s, false)
  | fuel + 1, s =>
    let s := s.settle
    if goal s.state then (s, true)
    else
      match s.nextDeadline with
      | some d => if d < limit then runUntil goal limit fuel (s.jump d) else (s.jump limit, false)
      | none => (s.jump limit, false)

/-- Sleep for `ms` milliseconds (at most `Duration.longestSleep`), running every task that
becomes ready on the way. -/
def advance (s : Scheduler σ) (ms : Nat) : Scheduler σ :=
  (s.runUntil (fun _ => false) (s.clock + min ms Duration.longestSleep.millis) 1000000).1.settle

end Scheduler

end AgentLink.Concurrency
