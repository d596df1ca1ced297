import Mathlib
import AgentLink.Proofs.Backoff
import AgentLink.Client.Calls

/-!
# The schedule of a retried call

`RetryPolicy.run` tries a script of outcomes until one succeeds or `attempts` tries are spent.
The loop stops at the first attempt that succeeds or is the last allowed; everything is read off
that attempt (`loop_eq`): it makes exactly that many attempts, returns that attempt's outcome,
and attempt `j + 1` begins once the waits after attempts `1` to `j` have passed. A wait lasts as
long as `delayFor` says, but never more than thirty years, the furthest a timer reaches
(`run_schedule`). With a 32-bit attempt budget the start times never saturate.

The client's own retry loop, `Client.retrying`, is the call itself from the last attempt the
budget allows: nothing, and no wait, follows that attempt (`retrying_of_attempts_le`).

A wait beyond thirty years is cut short, so the attempt after it begins earlier than the sum of
the delays (`run_wait_capped`).
-/

namespace AgentLink

namespace Duration

@[simp] theorem saturatingAdd_nanos (a b : Duration) :
    (a.saturatingAdd b).nanos = min (a.nanos + b.nanos) max.nanos :=
  nanos_cap _ max

/-- The nanoseconds of the longest sleep, thirty years of 365 days, as a numeral. -/
theorem longestSleep_nanos : longestSleep.nanos = 946080000000000000 := rfl

/-- A sleep lasts its duration, but at most thirty years. -/
@[simp] theorem sleepLength_nanos (d : Duration) :
    d.sleepLength.nanos = min d.nanos longestSleep.nanos :=
  nanos_cap d.nanos longestSleep

end Duration

/-- From the last attempt the budget allows, the retried call is the call itself: no wait and no
further attempt follow it. -/
theorem Client.retrying_of_attempts_le {α : Type} (p : RetryPolicy) (op : Act (Except Failure α))
    {attempt : Nat} (h : p.attempts ≤ attempt) : ∀ fuel, Client.retrying p op attempt fuel = op
  | 0 => rfl
  | fuel + 1 => by
    have hlast : ¬ attempt < p.attempts := by omega
    funext k
    show op _ = op k
    -- both branches hand the outcome on as it is
    congr 1
    funext r
    cases r <;> simp [hlast, pure]

namespace RetryPolicy

variable (p : RetryPolicy) {α : Type} (outcome : Nat → Except Failure α)

/-- The time slept, in nanoseconds, over the waits after the `count` failed attempts from
attempt `first` on. -/
def slept (first count : Nat) : Nat :=
  ∑ i ∈ Finset.range count, (p.delayFor (first + i)).sleepLength.nanos

theorem slept_zero (first : Nat) : p.slept first 0 = 0 := Finset.sum_range_zero _

/-- The waits from attempt `first` are its own wait and then those from the next attempt. -/
theorem slept_succ (first count : Nat) :
    p.slept first (count + 1) =
      (p.delayFor first).sleepLength.nanos + p.slept (first + 1) count := by
  unfold slept
  rw [Finset.sum_range_succ', Nat.add_comm]
  simp only [Nat.add_zero, Nat.add_assoc, Nat.add_comm 1]

theorem slept_le (first count : Nat) : p.slept first count ≤ count * Duration.longestSleep.nanos := by
  unfold slept
  calc ∑ i ∈ Finset.range count, (p.delayFor (first + i)).sleepLength.nanos
      ≤ ∑ _i ∈ Finset.range count, Duration.longestSleep.nanos :=
        Finset.sum_le_sum fun i _ => by rw [Duration.sleepLength_nanos]; omega
    _ = count * Duration.longestSleep.nanos := by simp

/-- The attempt start times from attempt `first` on, the first at `now`, saturating at `max`. -/
def startTimes (first : Nat) (now : Duration) (count : Nat) : List Duration :=
  (List.range count).map fun i => ⟨min (now.nanos + p.slept first i) Duration.max.nanos⟩

/-- The start times are `now` and then those from the next attempt, after this one's wait. -/
theorem startTimes_succ (first : Nat) {now : Duration} (hnow : now.Bounded) (count : Nat) :
    p.startTimes first now (count + 1) =
      now :: p.startTimes (first + 1)
        (now.saturatingAdd (p.delayFor first).sleepLength) count := by
  unfold startTimes
  rw [List.range_succ_eq_map, List.map_cons, List.map_map]
  unfold Duration.Bounded at hnow
  congr 1
  · rw [slept_zero, Nat.add_zero, Nat.min_eq_left hnow]
  · apply List.map_congr_left
    intro i _
    simp only [Function.comp_apply, Duration.saturatingAdd_nanos, slept_succ, Duration.mk.injEq]
    omega

/-- The loop from attempt `k + 1`, with fuel for more than `j` further attempts, when attempt
`k + j + 1` is the first from there that succeeds or the last the policy allows: it ends there
with that attempt's outcome, having started `j + 1` attempts. -/
theorem loop_eq {k j fuel : Nat} {now : Duration} (hnow : now.Bounded)
    (hlast : k + 1 + j ≤ p.attempts) (hfuel : j < fuel)
    (hfail : ∀ i < j, (outcome (k + i)).isOk = false)
    (hstop : (outcome (k + j)).isOk = true ∨ k + 1 + j = p.attempts) :
    p.loop outcome (k + 1) now fuel = (outcome (k + j), p.startTimes (k + 1) now (j + 1)) := by
  induction j generalizing k now fuel with
  | zero =>
    obtain ⟨fuel, rfl⟩ : ∃ f, fuel = f + 1 := ⟨fuel - 1, by omega⟩
    rw [startTimes_succ p _ hnow, show p.startTimes _ _ 0 = [] from rfl]
    cases hk : outcome k with
    | ok v => simp only [loop, Nat.add_sub_cancel, hk]
    | error e =>
      -- a failure that stops the loop is the last attempt allowed
      have hlastAttempt : ¬ k + 1 < p.attempts := by
        rcases hstop with h | h
        · simp [hk, Except.isOk, Except.toBool] at h
        · omega
      simp only [loop, Nat.add_sub_cancel, hk, hlastAttempt, if_false]
  | succ j ih =>
    obtain ⟨fuel, rfl⟩ : ∃ f, fuel = f + 1 := ⟨fuel - 1, by omega⟩
    -- attempt `k + 1` fails and is not the last: wait, then go on from attempt `k + 2`
    obtain ⟨e, hk⟩ : ∃ e, outcome k = .error e := by
      have h := hfail 0 (by omega)
      cases hk : outcome k with
      | ok v => simp [hk, Except.isOk, Except.toBool] at h
      | error e => exact ⟨e, rfl⟩
    have hmore : k + 1 < p.attempts := by omega
    have hwake : (now.saturatingAdd (p.delayFor (k + 1)).sleepLength).Bounded := by
      unfold Duration.Bounded
      rw [Duration.saturatingAdd_nanos]
      omega
    have hidx : k + 1 + j = k + (j + 1) := by omega
    have hrest : p.loop outcome (k + 1 + 1) (now.saturatingAdd (p.delayFor (k + 1)).sleepLength)
        fuel = (outcome (k + 1 + j), p.startTimes (k + 1 + 1)
          (now.saturatingAdd (p.delayFor (k + 1)).sleepLength) (j + 1)) :=
      ih hwake (by omega) (by omega)
      (fun i hi => by rw [show k + 1 + i = k + (i + 1) by omega]; exact hfail (i + 1) (by omega))
      (by rw [hidx]; exact hstop.imp_right fun h => by omega)
    rw [hidx] at hrest
    simp only [loop, Nat.add_sub_cancel, hk, hmore, if_true, hrest, startTimes_succ p _ hnow]

/-- Under a 32-bit attempt budget, the waits before any attempt add up to less than `max`. -/
theorem slept_bounded (hp : p.maxAttempts < 4294967296) {j : Nat} (hj : j < p.attempts) :
    p.slept 1 j ≤ Duration.max.nanos := by
  have hle := p.slept_le 1 j
  have hattempts : p.attempts < 4294967296 := by unfold attempts; omega
  rw [Duration.longestSleep_nanos] at hle
  rw [Duration.max_nanos]
  omega

/-- Under a 32-bit attempt budget, the start times are the plain sums of the waits. -/
theorem startTimes_one (hp : p.maxAttempts < 4294967296) {n : Nat} (hn : n ≤ p.attempts) :
    p.startTimes 1 Duration.zero n = (List.range n).map fun i => ⟨p.slept 1 i⟩ := by
  unfold startTimes
  apply List.map_congr_left
  intro i hi
  rw [List.mem_range] at hi
  simp only [Duration.zero, Nat.zero_add, Nat.min_eq_left (p.slept_bounded hp (by omega : i < _))]

/-- The waits before attempt `i + 1`, each the delay after its failed attempt cut at thirty
years. -/
theorem slept_one (i : Nat) :
    p.slept 1 i = ∑ m ∈ Finset.range i, min (p.delayFor (m + 1)).nanos Duration.longestSleep.nanos := by
  unfold slept
  simp only [Duration.sleepLength_nanos, Nat.add_comm 1]

/-- The retry loop over any script of outcomes, under a 32-bit attempt budget, allows
`N = max maxAttempts 1` attempts. When attempt `j + 1 ≤ N` is the first that succeeds, the loop
makes exactly `j + 1` attempts and returns that success; when none of the first `N` succeeds, it
makes exactly `N` and returns the failure of the last. Attempt `i + 1` begins once the waits
after attempts `1` to `i` have passed, each lasting the delay after its failed attempt but at
most thirty years. No wait follows the last attempt: the client's loop is the bare call from
there on. The attempt count stays below `2^32`. -/
theorem run_schedule (hp : p.maxAttempts < 4294967296) :
    p.attempts = max p.maxAttempts 1 ∧ p.attempts < 4294967296 ∧
    (∀ (op : Act (Except Failure α)) attempt fuel, p.attempts ≤ attempt →
      Client.retrying p op attempt fuel = op) ∧
    (∀ j v, j < p.attempts → outcome j = .ok v → (∀ i < j, (outcome i).isOk = false) →
      p.run outcome = (.ok v, (List.range (j + 1)).map fun i =>
        ⟨∑ m ∈ Finset.range i, min (p.delayFor (m + 1)).nanos Duration.longestSleep.nanos⟩)) ∧
    ((∀ i < p.attempts, (outcome i).isOk = false) →
      p.run outcome = (outcome (p.attempts - 1), (List.range p.attempts).map fun i =>
        ⟨∑ m ∈ Finset.range i, min (p.delayFor (m + 1)).nanos Duration.longestSleep.nanos⟩)) := by
  have hbudget : p.attempts < 4294967296 := by unfold attempts; omega
  have hpos : 0 < p.attempts := by unfold attempts; omega
  refine ⟨rfl, hbudget, fun op _ fuel h => Client.retrying_of_attempts_le p op h fuel, ?_, ?_⟩
  · -- the first success, within the budget, stops the loop
    intro j v hj hv hfail
    have hloop : p.loop outcome (0 + 1) Duration.zero p.attempts =
        (outcome (0 + j), p.startTimes (0 + 1) Duration.zero (j + 1)) :=
      p.loop_eq outcome (by decide) (by omega) hj (by simpa using hfail)
        (.inl (by simp [hv, Except.isOk, Except.toBool]))
    simp only [Nat.zero_add] at hloop
    rw [run, hloop, hv, p.startTimes_one hp (by omega)]
    simp only [slept_one]
  · -- no success within the budget: the last allowed attempt stops the loop
    intro hfail
    have hloop : p.loop outcome (0 + 1) Duration.zero p.attempts =
        (outcome (0 + (p.attempts - 1)),
          p.startTimes (0 + 1) Duration.zero (p.attempts - 1 + 1)) :=
      p.loop_eq outcome (by decide) (by omega) (by omega)
        (fun i hi => by simpa using hfail i (by omega)) (.inr (by omega))
    simp only [Nat.zero_add, Nat.sub_add_cancel hpos] at hloop
    rw [run, hloop, p.startTimes_one hp le_rfl]
    simp only [slept_one]

/-- The standard policy over a script whose second attempt succeeds. -/
theorem run_schedule_standard :
    standard.maxAttempts < 4294967296 ∧
    standard.attempts = max standard.maxAttempts 1 ∧ standard.attempts < 4294967296 ∧
    (∀ (op : Act (Except Failure Nat)) attempt fuel, standard.attempts ≤ attempt →
      Client.retrying standard op attempt fuel = op) ∧
    (∀ j v, j < standard.attempts →
      scripted [.error .transportClosed, .ok (7 : Nat)] j = .ok v →
      (∀ i < j, (scripted [.error .transportClosed, .ok (7 : Nat)] i).isOk = false) →
      standard.run (scripted [.error .transportClosed, .ok 7]) = (.ok v, (List.range (j + 1)).map
        fun i => ⟨∑ m ∈ Finset.range i,
          min (standard.delayFor (m + 1)).nanos Duration.longestSleep.nanos⟩)) ∧
    ((∀ i < standard.attempts, (scripted [.error .transportClosed, .ok (7 : Nat)] i).isOk = false) →
      standard.run (scripted [.error .transportClosed, .ok 7]) =
        (scripted [.error .transportClosed, .ok 7] (standard.attempts - 1),
          (List.range standard.attempts).map fun i => ⟨∑ m ∈ Finset.range i,
            min (standard.delayFor (m + 1)).nanos Duration.longestSleep.nanos⟩)) :=
  ⟨by decide, run_schedule standard _ (by decide)⟩

/-- A wait of a million million milliseconds, longer than thirty years, is cut short: the second
attempt begins after thirty years, at 946080000000 ms, and not after the delay. -/
theorem run_wait_capped :
    (⟨2, Duration.ofMillis 1000000000000, Duration.ofMillis 1000000000000⟩ : RetryPolicy).delayFor 1 =
      Duration.ofMillis 1000000000000 ∧
    ((⟨2, Duration.ofMillis 1000000000000, Duration.ofMillis 1000000000000⟩ : RetryPolicy).run
      (scripted [.error .transportClosed, .ok (1 : Nat)])).2 =
      [Duration.zero, Duration.ofMillis 946080000000] := by
  decide

end RetryPolicy

end AgentLink
