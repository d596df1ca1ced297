import AgentLink.Time
import AgentLink.Failure

/-!
# Retrying with bounded backoff

A `RetryPolicy` allows a number of attempts (at least one, whatever it says) and bounds the
wait between them. The wait after failed attempt `n` (from 1) doubles from `minDelay` for at
most 16 doublings, saturating, and is clamped into `[minDelay, max maxDelay minDelay]`.

`RetryPolicy.run` is the retry loop over a script of outcomes: attempt `k` (from 0) gives
`outcome k`; a success ends the loop, a failure is retried while attempts remain, and the last
failure is the result. It also gives the time of each attempt, measured from the first; a wait
lasts at most `Duration.longestSleep`.
-/

namespace AgentLink

/-- How often to try and how long to wait between tries. -/
structure RetryPolicy where
  maxAttempts : Nat
  minDelay : Duration
  maxDelay : Duration
  deriving DecidableEq, Inhabited

namespace RetryPolicy

/-- Three attempts, waiting one to five seconds. -/
def standard : RetryPolicy := ⟨3, Duration.ofMillis 1000, Duration.ofMillis 5000⟩

/-- The wait after failed attempt `attempt` (from 1). -/
def delayFor (p : RetryPolicy) (attempt : Nat) : Duration :=
  let shift := min (attempt - 1) 16
  (p.minDelay.saturatingMul (Nat.pow 2 shift)).clamp p.minDelay (p.maxDelay.longer p.minDelay)

/-- The attempts allowed: at least one. -/
def attempts (p : RetryPolicy) : Nat := max p.maxAttempts 1

/-- The loop from attempt `attempt` (from 1) at time `now`: the result and the times of the
attempts made. -/
def loop {α : Type} (p : RetryPolicy) (outcome : Nat → Except Failure α) :
    Nat → Duration → Nat → Except Failure α × List Duration
  | _, now, 0 => (.error (.protocol "retry budget spent"), [now])
  | attempt, now, fuel + 1 =>
    match outcome (attempt - 1) with
    | .ok v => (.ok v, [now])
    | .error e =>
      if attempt < p.attempts then
        let wake := now.saturatingAdd (p.delayFor attempt).sleepLength
        let (r, times) := loop p outcome (attempt + 1) wake fuel
        (r, now :: times)
      else (.error e, [now])

/-- Run a script of outcomes under the policy: the result and the time of each attempt. -/
def run {α : Type} (p : RetryPolicy) (outcome : Nat → Except Failure α) :
    Except Failure α × List Duration :=
  p.loop outcome 1 Duration.zero p.attempts

/-- The outcome of attempt `k` of a finite script; past its end the script is exhausted. -/
def scripted {α : Type} (outcomes : List (Except Failure α)) (k : Nat) : Except Failure α :=
  outcomes.getD k (.error (.protocol "script exhausted"))

example : (standard.delayFor 3) = Duration.ofMillis 4000 := by decide
example : (standard.delayFor 40) = Duration.ofMillis 5000 := by decide

end RetryPolicy

end AgentLink
