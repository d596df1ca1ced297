import Mathlib
import AgentLink.Retry

/-!
# The backoff delay in closed form

The wait after failed attempt `n` is `minDelay` doubled `min (n - 1) 16` times, clamped into
`[minDelay, max minDelay maxDelay]`. Read on nanoseconds, and for durations no longer than
`Duration.max`, it is exactly `min (max minDelay maxDelay) (minDelay * 2 ^ min (n - 1) 16)`
(`delayFor_closed_form`): the saturation of the product never shows, because the clamp's upper
bound is itself a duration. The clamp's bounds are always in order, so it never refuses them.

Multiplication saturates at `Duration.max`; computed on whole seconds and nanoseconds, with the
nanoseconds' carry added to the seconds and either part overflowing 64 bits, it gives the same
duration (`mulSecsNanos_eq_saturatingMul`).
-/

namespace AgentLink

namespace Duration

/-- The nanoseconds of the longest duration, as a numeral. -/
theorem max_nanos : max.nanos = 18446744073709551615999999999 := rfl

/-- A duration no longer than `Duration.max`, as every duration the bridge holds is. -/
def Bounded (d : Duration) : Prop := d.nanos ≤ max.nanos

instance : DecidablePred Bounded := fun d => inferInstanceAs (Decidable (d.nanos ≤ max.nanos))

/-- A result cut at `cap` is, on nanoseconds, the smaller of the two. -/
theorem nanos_cap (a : Nat) (cap : Duration) :
    (if a ≤ cap.nanos then (⟨a⟩ : Duration) else cap).nanos = min a cap.nanos := by
  split
  · exact (Nat.min_eq_left ‹_›).symm
  · exact (Nat.min_eq_right (by omega)).symm

@[simp] theorem saturatingMul_nanos (d : Duration) (k : Nat) :
    (d.saturatingMul k).nanos = min (d.nanos * k) max.nanos :=
  nanos_cap _ max

@[simp] theorem longer_nanos (a b : Duration) : (a.longer b).nanos = Max.max a.nanos b.nanos := by
  unfold longer
  split <;> omega

/-- Clamping reads, on nanoseconds, as a `max` after a `min` once the bounds are in order. -/
theorem clamp_nanos (d : Duration) {lo hi : Duration} (h : lo.nanos ≤ hi.nanos) :
    (d.clamp lo hi).nanos = Max.max lo.nanos (min d.nanos hi.nanos) := by
  unfold clamp
  split
  · omega
  · split <;> omega

/-- Multiplication as done on the two parts of a duration: the nanoseconds' product carries its
whole seconds into the seconds' product, and a result of `2^64` seconds or more is `max`. -/
def mulSecsNanos (d : Duration) (k : Nat) : Duration :=
  let total := d.subsecNanos * k
  let secs := d.secs * k + total / perSecond
  if d.secs * k < 18446744073709551616 ∧ secs < 18446744073709551616 then
    ⟨secs * perSecond + total % perSecond⟩
  else max

/-- The product on the parts is the whole product, saturating at `max`. -/
theorem mulSecsNanos_eq_saturatingMul (d : Duration) (k : Nat) :
    d.mulSecsNanos k = d.saturatingMul k := by
  -- the whole product, written through the parts
  have hsplit : d.nanos * k =
      (d.secs * k + d.subsecNanos * k / perSecond) * perSecond + d.subsecNanos * k % perSecond := by
    have h1 := Nat.div_add_mod d.nanos perSecond
    have h2 := Nat.div_add_mod (d.subsecNanos * k) perSecond
    simp only [secs, subsecNanos] at *
    rw [Nat.add_mul, Nat.mul_right_comm]
    conv_lhs => rw [← h1]
    rw [Nat.add_mul, Nat.mul_comm perSecond, Nat.add_assoc]
    congr 1
    rw [Nat.mul_comm (_ / perSecond) perSecond]
    omega
  have hrem : d.subsecNanos * k % perSecond < perSecond := Nat.mod_lt _ (by decide)
  -- the parts fit in 64 bits of seconds exactly when the whole product is at most `max`
  have hfit : (d.secs * k < 18446744073709551616 ∧
      d.secs * k + d.subsecNanos * k / perSecond < 18446744073709551616) ↔
      d.nanos * k ≤ max.nanos := by
    rw [hsplit, max_nanos]
    simp only [perSecond] at hrem ⊢
    omega
  unfold mulSecsNanos saturatingMul
  by_cases hwhole : d.nanos * k ≤ max.nanos
  · rw [if_pos (hfit.2 hwhole), if_pos hwhole, hsplit]
  · rw [if_neg (mt hfit.1 hwhole), if_neg hwhole]

end Duration

namespace RetryPolicy

variable (p : RetryPolicy)

/-- The doubling factor after failed attempt `attempt`: `2 ^ min (attempt - 1) 16`. -/
theorem pow_shift (attempt : Nat) :
    Nat.pow 2 (min (attempt - 1) 16) = 2 ^ min (attempt - 1) 16 := rfl

/-- The clamp's bounds are in order for every policy: the upper one is at least `minDelay`. -/
theorem minDelay_le_upper : p.minDelay.nanos ≤ (p.maxDelay.longer p.minDelay).nanos := by
  simp only [Duration.longer_nanos]
  omega

/-- The shift's factor is at most `2 ^ 16`, so it fits a 32-bit word. -/
theorem shift_factor_lt (attempt : Nat) : 2 ^ min (attempt - 1) 16 < 2 ^ 32 :=
  calc 2 ^ min (attempt - 1) 16 ≤ 2 ^ 16 := Nat.pow_le_pow_right (by decide) (by omega)
    _ < 2 ^ 32 := by decide

/-- The wait, on nanoseconds, for bounded `minDelay` and `maxDelay`. -/
theorem delayFor_nanos (hmin : p.minDelay.Bounded) (hmax : p.maxDelay.Bounded) (attempt : Nat) :
    (p.delayFor attempt).nanos =
      min (max p.minDelay.nanos p.maxDelay.nanos) (p.minDelay.nanos * 2 ^ min (attempt - 1) 16) := by
  unfold delayFor
  simp only [pow_shift]
  rw [Duration.clamp_nanos _ (p.minDelay_le_upper), Duration.saturatingMul_nanos,
    Duration.longer_nanos]
  -- the product is at least `minDelay`, and both delays are at most `max`
  have hle : p.minDelay.nanos ≤ p.minDelay.nanos * 2 ^ min (attempt - 1) 16 :=
    Nat.le_mul_of_pos_right _ (Nat.two_pow_pos _)
  unfold Duration.Bounded at hmin hmax
  generalize p.minDelay.nanos * 2 ^ min (attempt - 1) 16 = product at *
  omega

/-- The wait never falls below `minDelay` nor exceeds the longer of the two delays. -/
theorem delayFor_bounds (attempt : Nat) :
    p.minDelay.nanos ≤ (p.delayFor attempt).nanos ∧
      (p.delayFor attempt).nanos ≤ max p.minDelay.nanos p.maxDelay.nanos := by
  unfold delayFor
  rw [Duration.clamp_nanos _ (p.minDelay_le_upper), Duration.longer_nanos]
  omega

/-- A later failure never waits less. -/
theorem delayFor_mono {a b : Nat} (hab : a ≤ b) : (p.delayFor a).nanos ≤ (p.delayFor b).nanos := by
  have hpow : p.minDelay.nanos * 2 ^ min (a - 1) 16 ≤ p.minDelay.nanos * 2 ^ min (b - 1) 16 :=
    Nat.mul_le_mul_left _ (Nat.pow_le_pow_right (by decide) (by omega))
  unfold delayFor
  simp only [pow_shift]
  rw [Duration.clamp_nanos _ (p.minDelay_le_upper), Duration.clamp_nanos _ (p.minDelay_le_upper),
    Duration.saturatingMul_nanos, Duration.saturatingMul_nanos]
  generalize p.minDelay.nanos * 2 ^ min (a - 1) 16 = earlier at *
  generalize p.minDelay.nanos * 2 ^ min (b - 1) 16 = later at *
  omega

/-- From the seventeenth failure on, the doubling has stopped. -/
theorem delayFor_of_le {attempt : Nat} (h : 17 ≤ attempt) : p.delayFor attempt = p.delayFor 17 := by
  unfold delayFor
  rw [show min (attempt - 1) 16 = min (17 - 1) 16 by omega]

/-- The wait after a failed attempt in closed form, for every attempt and every pair of delays
that are durations: `min (max minDelay maxDelay) (minDelay * 2 ^ min (attempt - 1) 16)` on
nanoseconds. The clamp's bounds are in order and the doubling factor fits a 32-bit word, so
nothing refuses its arguments; the saturating product is the one computed on seconds and
nanoseconds. Hence the wait lies between `minDelay` and the longer delay, grows with the
attempt, and stays fixed from attempt 17 on. -/
theorem delayFor_closed_form (hmin : p.minDelay.Bounded) (hmax : p.maxDelay.Bounded) :
    p.minDelay.nanos ≤ (p.maxDelay.longer p.minDelay).nanos ∧
    (∀ attempt, 2 ^ min (attempt - 1) 16 < 2 ^ 32 ∧
      p.minDelay.mulSecsNanos (2 ^ min (attempt - 1) 16) =
        p.minDelay.saturatingMul (2 ^ min (attempt - 1) 16)) ∧
    (∀ attempt, (p.delayFor attempt).nanos =
      min (max p.minDelay.nanos p.maxDelay.nanos) (p.minDelay.nanos * 2 ^ min (attempt - 1) 16)) ∧
    (∀ attempt, p.minDelay.nanos ≤ (p.delayFor attempt).nanos ∧
      (p.delayFor attempt).nanos ≤ max p.minDelay.nanos p.maxDelay.nanos) ∧
    Monotone (fun attempt => (p.delayFor attempt).nanos) ∧
    ∀ attempt, 17 ≤ attempt → p.delayFor attempt = p.delayFor 17 :=
  ⟨p.minDelay_le_upper,
    fun attempt => ⟨shift_factor_lt attempt, Duration.mulSecsNanos_eq_saturatingMul _ _⟩,
    p.delayFor_nanos hmin hmax, p.delayFor_bounds, fun _ _ hab => p.delayFor_mono hab,
    fun _ h => p.delayFor_of_le h⟩

/-- The standard policy's delays, one and five seconds, are durations, and its waits follow the
closed form. -/
theorem delayFor_closed_form_standard :
    standard.minDelay.Bounded ∧ standard.maxDelay.Bounded ∧
    standard.minDelay.nanos ≤ (standard.maxDelay.longer standard.minDelay).nanos ∧
    (∀ attempt, 2 ^ min (attempt - 1) 16 < 2 ^ 32 ∧
      standard.minDelay.mulSecsNanos (2 ^ min (attempt - 1) 16) =
        standard.minDelay.saturatingMul (2 ^ min (attempt - 1) 16)) ∧
    (∀ attempt, (standard.delayFor attempt).nanos =
      min (max standard.minDelay.nanos standard.maxDelay.nanos)
        (standard.minDelay.nanos * 2 ^ min (attempt - 1) 16)) ∧
    (∀ attempt, standard.minDelay.nanos ≤ (standard.delayFor attempt).nanos ∧
      (standard.delayFor attempt).nanos ≤ max standard.minDelay.nanos standard.maxDelay.nanos) ∧
    Monotone (fun attempt => (standard.delayFor attempt).nanos) ∧
    ∀ attempt, 17 ≤ attempt → standard.delayFor attempt = standard.delayFor 17 :=
  ⟨by decide, by decide, delayFor_closed_form standard (by decide) (by decide)⟩

end RetryPolicy

end AgentLink
