import AgentLink.Time

/-!
# Cooperative tasks

Everything the bridge does concurrently runs as tasks on one thread that share one state and
one clock. A task runs without interruption until it waits; only then may another task run.
A `Program σ` is a task as the steps it takes between waits: it changes the shared state,
looks at the state and the clock, waits until a condition holds or a deadline passes, starts
another task, or spends a unit of its budget. Each run of a task may spend a fixed number of
units (one per operation on a pipe, lock or queue that completes); a task that has spent them
all gives way before its next such operation, as if it waited for nothing. `Async σ α` is the usual continuation monad over programs, so that a task
reads as straight-line code that returns a value.
-/

namespace AgentLink.Concurrency

/-- A task over shared state `σ`, as the steps it takes; the clock counts milliseconds. -/
inductive Program (σ : Type) where
  /-- The task has finished. -/
  | done
  /-- Change the shared state, then go on. -/
  | update (f : σ → σ) (next : Program σ)
  /-- Go on as the clock and the shared state say. -/
  | look (next : Nat → σ → Program σ)
  /-- Give way until `ready` holds of the state or the clock reaches `deadline`. -/
  | wait (ready : σ → Bool) (deadline : Option Nat) (next : Program σ)
  /-- Start `child` as a task of its own, then go on. -/
  | spawn (child : Program σ) (next : Program σ)
  /-- Spend one unit of the run's budget, first giving way when none is left, then go on. -/
  | spend (next : Program σ)

/-- A task that ends with a value of type `α`, written as a program awaiting what to do with
that value. -/
def Async (σ α : Type) : Type := (α → Program σ) → Program σ

namespace Async

variable {σ α β : Type}

instance : Monad (Async σ) where
  pure a := fun k => k a
  bind m f := fun k => m (fun a => f a k)

/-- The program of a task whose value is dropped. -/
def toProgram (a : Async σ α) : Program σ := a fun _ => .done

/-- The clock. -/
def now : Async σ Nat := fun k => .look fun t _ => k t

/-- A view of the shared state. -/
def read (f : σ → α) : Async σ α := fun k => .look fun _ s => k (f s)

/-- Change the shared state. -/
def modify (f : σ → σ) : Async σ Unit := fun k => .update f (k ())

/-- Change the shared state and return something read off it, in one step. -/
def modifyGet (f : σ → α × σ) : Async σ α := fun k =>
  .look fun _ s =>
    let (a, s') := f s
    .update (fun _ => s') (k a)

/-- Give way until `ready` holds or the clock reaches `deadline`; go on at once if either
already does. -/
def waitUntil (ready : σ → Bool) (deadline : Option Nat) : Async σ Unit := fun k =>
  .wait ready deadline (k ())

/-- Sleep for `ms` milliseconds, or for `Duration.longestSleep` when that is shorter. -/
def sleep (ms : Nat) : Async σ Unit := do
  let t ← now
  waitUntil (fun _ => false) (some (t + min ms Duration.longestSleep.millis))

/-- Start a task of its own. -/
def spawn (child : Async σ Unit) : Async σ Unit := fun k => .spawn child.toProgram (k ())

/-- Spend one unit of the run's budget, as an operation on a pipe, lock or queue does when it
completes; when the budget is spent, give way first. -/
def spend : Async σ Unit := fun k => .spend (k ())

end Async

end AgentLink.Concurrency
