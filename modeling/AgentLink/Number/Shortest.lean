import AgentLink.Number.Binary64

/-!
# The shortest decimal that reads back

A finite, non-zero binary64 `v = m · 2^q` owns the interval of reals that round to it: half
the gap to each neighbour on either side, the ends included exactly when `m` is even (a tie
reads back as the even significand). For 1, 2, … 17 digits, `Binary64.shortest` tests the two
neighbours of `v` on the grid `10^k` of that precision; the first precision with a hit wins,
and of two hits the nearer to `v`, an exact tie going to the even digit string. Everything is
exact `Nat` arithmetic on cross-multiplied fractions. If a point of a grid lies in the
interval, one of `v`'s two neighbours on that grid does, so no shorter decimal is missed.
-/

namespace AgentLink

/-- The decimal `digits · 10^exp`. -/
structure Decimal where
  digits : Nat
  exp : Int
  deriving DecidableEq, Inhabited

namespace Decimal

/-- Drop trailing zero digits into the exponent; `fuel` bounds the digits removed. -/
def normalize (d : Decimal) : Decimal :=
  go d.digits d.exp (Nat.toDigits 10 d.digits).length
where
  go (n : Nat) (e : Int) : Nat → Decimal
    | 0 => ⟨n, e⟩
    | fuel + 1 => if n ≠ 0 ∧ n % 10 = 0 then go (n / 10) (e + 1) fuel else ⟨n, e⟩

end Decimal

/-- Compare `a · 10^k` with `b · 2^j` exactly. -/
def compareScaled (a : Nat) (k : Int) (b : Nat) (j : Int) : Ordering :=
  let lhs := a * Nat.pow 10 k.toNat * Nat.pow 2 (-j).toNat
  let rhs := b * Nat.pow 2 j.toNat * Nat.pow 10 (-k).toNat
  compare lhs rhs

/-- The least `t ≥ 1` with `num · 10^t ≥ den`, searched up to `fuel`. -/
def decadesBelow (num den : Nat) : Nat → Nat → Nat
  | t, 0 => t
  | t, fuel + 1 => if den ≤ num * Nat.pow 10 t then t else decadesBelow num den (t + 1) fuel

/-- The floor `⌊log₁₀ (num / den)⌋`, for positive `num` and `den`. -/
def floorLog10 (num den : Nat) : Int :=
  if den ≤ num then ((Nat.toDigits 10 (num / den)).length : Int) - 1
  else -((decadesBelow num den 1 (Nat.toDigits 10 den).length : Nat) : Int)

namespace Binary64

/-- The rounding interval of a finite, non-zero value in units of `2^(q-2)`: the low end, the
value and the high end, and whether the ends belong to it. -/
def roundingInterval (x : Binary64) : Nat × Nat × Nat × Bool :=
  let m := x.significand
  let lowGap := if x.fraction = 0 ∧ 2 ≤ x.biased then 1 else 2
  (4 * m - lowGap, 4 * m, 4 * m + 2, m % 2 = 0)

/-- Whether `c · 10^k` reads back as `x`. -/
def readsBack (x : Binary64) (c : Nat) (k : Int) : Bool :=
  let (lo, _, hi, closed) := x.roundingInterval
  let j := x.exponent - 2
  let aboveLo := match compareScaled c k lo j with
    | .gt => true
    | .eq => closed
    | .lt => false
  let belowHi := match compareScaled c k hi j with
    | .lt => true
    | .eq => closed
    | .gt => false
  aboveLo && belowHi

/-- Of `c · 10^k` and `(c+1) · 10^k`, both reading back, the one nearer to `x`; a tie goes to
the even one. -/
def nearer (x : Binary64) (c : Nat) (k : Int) : Nat :=
  -- compare 2x with (2c + 1) · 10^k
  match compareScaled (2 * c + 1) k (2 * x.significand) x.exponent with
  | .gt => c
  | .lt => c + 1
  | .eq => if c % 2 = 0 then c else c + 1

/-- The shortest decimal reading back as a finite, non-zero `x`, magnitude only; among the
shortest, the nearest to `x`. -/
def shortest (x : Binary64) : Decimal :=
  let q := x.exponent
  let m := x.significand
  let e10 := floorLog10 (m * Nat.pow 2 q.toNat) (Nat.pow 2 (-q).toNat)
  let rec search : Nat → Nat → Decimal
    | _, 0 => ⟨m * Nat.pow 2 q.toNat, 0⟩
    | p, fuel + 1 =>
      let k : Int := e10 - p + 1
      let c := (m * Nat.pow 2 q.toNat * Nat.pow 10 (-k).toNat) /
        (Nat.pow 2 (-q).toNat * Nat.pow 10 k.toNat)
      match x.readsBack c k, x.readsBack (c + 1) k with
      | true, true => Decimal.normalize ⟨x.nearer c k, k⟩
      | true, false => Decimal.normalize ⟨c, k⟩
      | false, true => Decimal.normalize ⟨c + 1, k⟩
      | false, false => search (p + 1) fuel
  search 1 17

example : (div (ofNat 1) (ofNat 10)).shortest = ⟨1, -1⟩ := by decide +kernel
example : (ofNat (Nat.pow 10 16)).shortest = ⟨1, 16⟩ := by decide +kernel

end Binary64

end AgentLink
