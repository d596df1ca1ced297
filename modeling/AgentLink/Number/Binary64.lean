/-!
# IEEE 754 binary64 values by their bits

A `Binary64` is held by its 64-bit pattern, so equality is decidable and every function on
it is a function of the sign, exponent and fraction fields. A finite value is
`significand · 2^exponent`. `Binary64.nearest` rounds a non-negative rational to the nearest
value, a tie going to the even significand, with gradual underflow and overflow to infinity.
Multiplying or dividing two finite values, or adding two non-negative ones, is one such
rounding of the exact result, which is what the standard asks of those operations; so no step
here depends on a machine's floating-point unit, and all of them are exact `Nat` arithmetic.
-/

namespace AgentLink

/-- An IEEE 754 binary64 value, held by its bit pattern. -/
structure Binary64 where
  bits : UInt64
  deriving DecidableEq, Inhabited

namespace Binary64

/-- The sign bit. -/
def negative (x : Binary64) : Bool := x.bits >>> 63 == 1

/-- The biased exponent field, `0` to `2047`. -/
def biased (x : Binary64) : Nat := ((x.bits >>> 52) &&& 0x7ff).toNat

/-- The fraction field, the low 52 bits. -/
def fraction (x : Binary64) : Nat := (x.bits &&& 0xfffffffffffff).toNat

/-- Assemble a value from its sign, biased exponent and fraction fields. -/
def make (neg : Bool) (e f : Nat) : Binary64 :=
  ⟨UInt64.ofNat ((if neg then Nat.pow 2 63 else 0) + e * Nat.pow 2 52 + f)⟩

/-- Neither an infinity nor a NaN. -/
def isFinite (x : Binary64) : Bool := x.biased != 2047

/-- Positive or negative zero. -/
def isZero (x : Binary64) : Bool := x.biased == 0 && x.fraction == 0

/-- The integer significand of a finite value, the hidden bit included. -/
def significand (x : Binary64) : Nat :=
  if x.biased = 0 then x.fraction else Nat.pow 2 52 + x.fraction

/-- The power of two that scales `significand`. -/
def exponent (x : Binary64) : Int :=
  if x.biased = 0 then -1074 else (x.biased : Int) - 1075

/-- Infinity of the given sign. -/
def infinity (neg : Bool) : Binary64 := make neg 2047 0

/-- Zero of the given sign. -/
def zero (neg : Bool) : Binary64 := make neg 0 0

/-- The same magnitude with the other sign. -/
def negate (x : Binary64) : Binary64 := ⟨x.bits ^^^ 0x8000000000000000⟩

/-- The floor `⌊log₂ (num / den)⌋`, for positive `num` and `den`. -/
def floorLog2 (num den : Nat) : Int :=
  let e : Int := (num.log2 : Int) - den.log2
  if 0 ≤ e then
    if num < den * Nat.pow 2 e.toNat then e - 1 else e
  else
    if num * Nat.pow 2 (-e).toNat < den then e - 1 else e

/-- The value `num / den · 2^(-q)` as `m + r / d`: the integer part, the remainder and its
denominator. -/
def scaleSplit (num den : Nat) (q : Int) : Nat × Nat × Nat :=
  if q ≤ 0 then
    let n := num * Nat.pow 2 (-q).toNat
    (n / den, n % den, den)
  else
    let d := den * Nat.pow 2 q.toNat
    (num / d, num % d, d)

/-- The value `m + r / d` rounded to an integer, a tie going to the even one. -/
def roundHalfEven (m r d : Nat) : Nat :=
  if d < 2 * r then m + 1
  else if 2 * r = d ∧ m % 2 = 1 then m + 1
  else m

/-- The binary64 nearest to `num / den`, with sign `neg`: ties to an even significand,
values below the least subnormal's half to zero, values past the largest finite to infinity. -/
def nearest (neg : Bool) (num den : Nat) : Binary64 :=
  if num = 0 ∨ den = 0 then zero neg
  else
    let q0 := max (floorLog2 num den - 52) (-1074)
    let (m, r, d) := scaleSplit num den q0
    let m1 := roundHalfEven m r d
    let (m2, q) := if m1 = Nat.pow 2 53 then (Nat.pow 2 52, q0 + 1) else (m1, q0)
    if 971 < q then infinity neg
    else if m2 < Nat.pow 2 52 then make neg 0 m2
    else make neg (q + 1075).toNat (m2 - Nat.pow 2 52)

/-- The binary64 nearest to a natural number. -/
def ofNat (n : Nat) : Binary64 := nearest false n 1

/-- The product `x · y` for finite operands: the exact product, rounded once. -/
def mul (x y : Binary64) : Binary64 :=
  let neg := x.negative != y.negative
  let m := x.significand * y.significand
  let q := x.exponent + y.exponent
  if 0 ≤ q then nearest neg (m * Nat.pow 2 q.toNat) 1 else nearest neg m (Nat.pow 2 (-q).toNat)

/-- The quotient `x / y` for finite operands, `y` not zero: the exact quotient, rounded once. -/
def div (x y : Binary64) : Binary64 :=
  let neg := x.negative != y.negative
  let q := x.exponent - y.exponent
  if 0 ≤ q then nearest neg (x.significand * Nat.pow 2 q.toNat) y.significand
  else nearest neg x.significand (y.significand * Nat.pow 2 (-q).toNat)

/-- The sum `x + y` for finite non-negative operands: the exact sum, rounded once. -/
def addNonneg (x y : Binary64) : Binary64 :=
  let e := min x.exponent y.exponent
  let scaled (z : Binary64) : Nat := z.significand * Nat.pow 2 (z.exponent - e).toNat
  let m := scaled x + scaled y
  if 0 ≤ e then nearest false (m * Nat.pow 2 e.toNat) 1
  else nearest false m (Nat.pow 2 (-e).toNat)

/-- The order of finite non-negative values, which is the order of their bit patterns. -/
def ltNonneg (x y : Binary64) : Bool := x.bits < y.bits

/-- The binary64 nearest to `10^k`. -/
def pow10 (k : Nat) : Binary64 := ofNat (Nat.pow 10 k)

example : (ofNat 1).bits = 0x3ff0000000000000 := by decide
example : (div (ofNat 1) (ofNat 10)).bits = 0x3fb999999999999a := by decide
example : (mul (ofNat 3) (div (ofNat 1) (ofNat 2))).bits = 0x3ff8000000000000 := by decide
example : (addNonneg (div (ofNat 1) (ofNat 10)) (ofNat 2)).bits = 0x4000cccccccccccd := by decide

end Binary64

end AgentLink
