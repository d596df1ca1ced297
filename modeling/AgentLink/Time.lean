/-!
# Durations

A `Duration` is a whole number of nanoseconds whose seconds fit in 64 bits, so the longest is
`2^64 - 1` seconds and `999999999` nanoseconds. Arithmetic that would pass it saturates there.
`Duration.debugText` writes a duration in its most natural unit (`s`, `ms`, `µs` or `ns`)
with the exact fraction, trailing zeros removed: `1s`, `1.5s`, `100ms`, `90061.001s`.
-/

namespace AgentLink

/-- A span of time in nanoseconds, at most `Duration.max`. -/
structure Duration where
  nanos : Nat
  deriving DecidableEq, Inhabited, Ord

namespace Duration

/-- Nanoseconds in a second. -/
def perSecond : Nat := 1000000000

/-- The longest duration: `2^64 - 1` seconds and `999999999` nanoseconds. -/
def max : Duration := ⟨Nat.pow 2 64 * perSecond - 1⟩

/-- The zero duration. -/
def zero : Duration := ⟨0⟩

/-- A duration of `ms` milliseconds. -/
def ofMillis (ms : Nat) : Duration := ⟨ms * 1000000⟩

/-- A duration of `s` seconds. -/
def ofSecs (s : Nat) : Duration := ⟨s * perSecond⟩

/-- The whole seconds. -/
def secs (d : Duration) : Nat := d.nanos / perSecond

/-- The nanoseconds past the whole seconds. -/
def subsecNanos (d : Duration) : Nat := d.nanos % perSecond

/-- The whole milliseconds. -/
def millis (d : Duration) : Nat := d.nanos / 1000000

/-- Whole milliseconds, rounded up. -/
def ceilMillis (d : Duration) : Nat := (d.nanos + 999999) / 1000000

/-- Multiply, saturating at `max`. -/
def saturatingMul (d : Duration) (k : Nat) : Duration :=
  if d.nanos * k ≤ max.nanos then ⟨d.nanos * k⟩ else max

/-- Add, saturating at `max`. -/
def saturatingAdd (a b : Duration) : Duration :=
  if a.nanos + b.nanos ≤ max.nanos then ⟨a.nanos + b.nanos⟩ else max

/-- Clamp into `[lo, hi]`, for `lo ≤ hi`. -/
def clamp (d lo hi : Duration) : Duration :=
  if d.nanos < lo.nanos then lo else if hi.nanos < d.nanos then hi else d

/-- The longer of two durations. -/
def longer (a b : Duration) : Duration := if a.nanos ≤ b.nanos then b else a

/-- The longest a sleep lasts: thirty years of 365 days. A timer is set no further ahead than
that, so a longer sleep ends after thirty years. A timeout is not bounded this way. -/
def longestSleep : Duration := ofSecs (30 * 365 * 86400)

/-- How long a sleep of `d` lasts. -/
def sleepLength (d : Duration) : Duration :=
  if d.nanos ≤ longestSleep.nanos then d else longestSleep

/-- The digits of a fraction `frac / (10 · divisor)`, most significant first, stopping when
the rest is zero; at most `fuel` digits. -/
def fractionDigits (frac divisor : Nat) : Nat → List Char
  | 0 => []
  | fuel + 1 =>
    if frac = 0 ∨ divisor = 0 then []
    else Char.ofNat (48 + frac / divisor) :: fractionDigits (frac % divisor) (divisor / 10) fuel

/-- An integer part and an exact fraction, then the unit. -/
def decimal (whole frac divisor : Nat) (unit : String) : String :=
  let digits := fractionDigits frac divisor 9
  toString whole ++ (if digits.isEmpty then "" else "." ++ String.ofList digits) ++ unit

/-- The diagnostic form. -/
def debugText (d : Duration) : String :=
  let n := d.subsecNanos
  if 0 < d.secs then decimal d.secs n (perSecond / 10) "s"
  else if 1000000 ≤ n then decimal (n / 1000000) (n % 1000000) 100000 "ms"
  else if 1000 ≤ n then decimal (n / 1000) (n % 1000) 100 "µs"
  else decimal n 0 1 "ns"

example : (ofMillis 1500).debugText = "1.5s" := by decide
example : (ofMillis 100).debugText = "100ms" := by decide
example : (ofMillis 90061001).debugText = "90061.001s" := by decide
example : zero.debugText = "0ns" := by decide

end Duration

end AgentLink
