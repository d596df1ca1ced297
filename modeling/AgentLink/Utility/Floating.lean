import AgentLink.Number.Shortest
import AgentLink.Utility.Integer

/-!
# Floating-point numbers as text, the way C reads and writes them

`readFloat` reads a number as `strtod` does: blanks, a sign, then `inf`, `infinity` or `nan`
in any case, a hexadecimal number (`0x`, hexadecimal digits with an optional point, and an
optional binary exponent `p`), or a decimal number (digits with an optional point, at least
one digit, and an optional exponent `e`). The value is the binary64 nearest to what the text
says exactly; a result that overflows to infinity, or is below the normal range, is out of
range.

`fixedText`, `scientificText` and `generalText` write a finite value as `%f`, `%e` and `%g`
do: the exact value of the binary64 rounded to the digits asked for, an exact tie going to the
even digit.
-/

namespace AgentLink

/-- A number read as `strtod` reads it: its value, whether any number was read, the text after
it, and whether the value is out of range. -/
structure FloatRead where
  value : Binary64
  digits : Bool
  rest : List Char
  outOfRange : Bool

/-- The value of a hexadecimal digit. -/
def hexDigitValue (c : Char) : Option Nat :=
  if c.isDigit then some (c.toNat - 48)
  else if 'a' ≤ c && c ≤ 'f' then some (c.toNat - 87)
  else if 'A' ≤ c && c ≤ 'F' then some (c.toNat - 55)
  else none

/-- Whether text starts with a word, in any case. -/
def startsWithWord (cs : List Char) (word : String) : Bool :=
  (cs.take word.length).map Char.toLower == word.toList

/-- The binary64 nearest to `num / den · 2^shift`, and whether it is out of range. -/
def nearestScaled (neg : Bool) (num den : Nat) (shift : Int) : Binary64 × Bool :=
  let (num, den) := if shift ≥ 0 then (num * Nat.pow 2 shift.toNat, den)
    else (num, den * Nat.pow 2 (-shift).toNat)
  let x := Binary64.nearest neg num den
  (x, num ≠ 0 && (!x.isFinite || x.biased = 0))

/-- An optional exponent: a marker letter, an optional sign and at least one digit; zero and
the text unchanged when there is none. -/
def readExponent (markers : List Char) (cs : List Char) : Int × List Char :=
  match cs with
  | m :: more =>
    if markers.contains m then
      let (neg, ds) := match more with
        | '-' :: ds => (true, ds)
        | '+' :: ds => (false, ds)
        | ds => (false, ds)
      let digits := ds.takeWhile Char.isDigit
      if digits.isEmpty then (0, cs)
      else
        let v : Int := Int.ofNat (digits.foldl (fun n c => 10 * n + (c.toNat - 48)) 0)
        (if neg then -v else v, ds.drop digits.length)
    else (0, cs)
  | [] => (0, [])

/-- The number of decimal digits of `n`, at least one. -/
def decimalLength (n : Nat) : Nat := (Nat.toDigits 10 n).length

/-- Read a number as `strtod` does. -/
def readFloat (s : String) : FloatRead :=
  let cs := s.toList.dropWhile isCSpace
  let (neg, cs) : Bool × List Char := match cs with
    | '-' :: more => (true, more)
    | '+' :: more => (false, more)
    | _ => (false, cs)
  let none : FloatRead := ⟨Binary64.zero false, false, s.toList, false⟩
  if startsWithWord cs "infinity" then ⟨Binary64.infinity neg, true, cs.drop 8, false⟩
  else if startsWithWord cs "inf" then ⟨Binary64.infinity neg, true, cs.drop 3, false⟩
  else if startsWithWord cs "nan" then
    let after := cs.drop 3
    let after := match after with
      | '(' :: more =>
        let inside := more.takeWhile fun c => c.isAlphanum || c = '_'
        match more.drop inside.length with
        | ')' :: tail => tail
        | _ => after
      | _ => after
    ⟨Binary64.make neg 2047 (Nat.pow 2 51), true, after, false⟩
  else
    let hex := match cs with
      | '0' :: x :: more =>
        if x = 'x' || x = 'X' then
          let whole := more.takeWhile (hexDigitValue · |>.isSome)
          let after := more.drop whole.length
          let (frac, after) := match after with
            | '.' :: f =>
              let fd := f.takeWhile (hexDigitValue · |>.isSome)
              (fd, f.drop fd.length)
            | _ => ([], after)
          if whole.isEmpty && frac.isEmpty then Option.none
          else some (whole ++ frac, frac.length, after)
        else Option.none
      | _ => Option.none
    match hex with
    | some (digits, fracLength, after) =>
      let m := digits.foldl (fun n c => 16 * n + (hexDigitValue c).getD 0) 0
      let (p, rest) := readExponent ['p', 'P'] after
      let shift := p - 4 * fracLength
      if m = 0 then ⟨Binary64.zero neg, true, rest, false⟩
      else if shift + Int.ofNat m.log2 > 1100 then ⟨Binary64.infinity neg, true, rest, true⟩
      else if shift + Int.ofNat m.log2 < -1200 then ⟨Binary64.zero neg, true, rest, true⟩
      else
        let (x, range) := nearestScaled neg m 1 shift
        ⟨x, true, rest, range⟩
    | Option.none =>
      let whole := cs.takeWhile Char.isDigit
      let after := cs.drop whole.length
      let (frac, after) := match after with
        | '.' :: f => (f.takeWhile Char.isDigit, f.dropWhile Char.isDigit)
        | _ => ([], after)
      if whole.isEmpty && frac.isEmpty then none
      else
        let m := (whole ++ frac).foldl (fun n c => 10 * n + (c.toNat - 48)) 0
        let (e, rest) := readExponent ['e', 'E'] after
        let e := e - frac.length
        if m = 0 then ⟨Binary64.zero neg, true, rest, false⟩
        else if e + decimalLength m > 311 then ⟨Binary64.infinity neg, true, rest, true⟩
        else if e + decimalLength m < -330 then ⟨Binary64.zero neg, true, rest, true⟩
        else
          let (num, den) := if e ≥ 0 then (m * Nat.pow 10 e.toNat, 1)
            else (m, Nat.pow 10 (-e).toNat)
          let (x, range) := nearestScaled neg num den 0
          ⟨x, true, rest, range⟩

/-- The exact value of a finite binary64's magnitude as a fraction. -/
def Binary64.magnitude (x : Binary64) : Nat × Nat :=
  if x.exponent ≥ 0 then (x.significand * Nat.pow 2 x.exponent.toNat, 1)
  else (x.significand, Nat.pow 2 (-x.exponent).toNat)

/-- The fraction `num / den` rounded to an integer, an exact tie going to the even one. -/
def roundFraction (num den : Nat) : Nat := Binary64.roundHalfEven (num / den) (num % den) den

/-- The fraction `num / den` times `10^k`, rounded to an integer. -/
def roundScaled (num den : Nat) (k : Int) : Nat :=
  if k ≥ 0 then roundFraction (num * Nat.pow 10 k.toNat) den
  else roundFraction num (den * Nat.pow 10 (-k).toNat)

/-- `n` written with at least `width` digits. -/
def padDigits (width n : Nat) : String :=
  let ds := Nat.toDigits 10 n
  String.ofList (List.replicate (width - ds.length) '0' ++ ds)

/-- A finite magnitude as `%f` writes it with `precision` digits after the point; `point`
keeps the point when there are none. -/
def fixedText (num den precision : Nat) (point : Bool) : String :=
  let n := roundScaled num den precision
  let whole := n / Nat.pow 10 precision
  let frac := n % Nat.pow 10 precision
  toString whole ++
    (if precision > 0 then "." ++ padDigits precision frac else if point then "." else "")

/-- The digits of a finite magnitude rounded to `precision + 1` significant digits, and the
power of ten of the first. -/
def scientificDigits (num den precision : Nat) : Nat × Int :=
  if num = 0 then (0, 0)
  else
    let x := floorLog10 num den
    let n := roundScaled num den ((precision : Int) - x)
    if n ≥ Nat.pow 10 (precision + 1) then (n / 10, x + 1) else (n, x)

/-- A finite magnitude as `%e` writes it: one digit, the point and `precision` digits, and the
exponent with a sign and at least two digits; `upper` for `%E`. -/
def scientificText (num den precision : Nat) (point upper : Bool) : String :=
  let (n, x) := scientificDigits num den precision
  let lead := n / Nat.pow 10 precision
  let frac := n % Nat.pow 10 precision
  let mantissa := toString lead ++
    (if precision > 0 then "." ++ padDigits precision frac else if point then "." else "")
  let exp := (if x < 0 then "-" else "+") ++ padDigits 2 x.natAbs
  mantissa ++ (if upper then "E" else "e") ++ exp

/-- Text without the zeros that end its fraction, and without a point left bare. -/
def trimFraction (s : String) : String :=
  if s.contains '.' then
    let cs := (s.toList.reverse.dropWhile (· = '0')).reverse
    String.ofList (match cs.reverse with
      | '.' :: more => more.reverse
      | _ => cs)
  else s

/-- A finite magnitude as `%g` writes it: `precision` significant digits (one when zero) in
the fixed form when the exponent lies from -4 to below the precision, else in the scientific
form; without `point` (the `#` flag), trailing zeros of the fraction go. -/
def generalText (num den precision : Nat) (point upper : Bool) : String :=
  let p := if precision = 0 then 1 else precision
  let (_, x) := scientificDigits num den (p - 1)
  if x < (p : Int) && x ≥ -4 then
    let text := fixedText num den ((p : Int) - 1 - x).toNat point
    if point then text else trimFraction text
  else
    let text := scientificText num den (p - 1) point upper
    if point then text
    else
      match text.splitOn (if upper then "E" else "e") with
      | [m, e] => trimFraction m ++ (if upper then "E" else "e") ++ e
      | _ => text

/-- `n` as `count` hexadecimal digits. -/
def paddedHex (count n : Nat) (upper : Bool) : String :=
  let ds := (Nat.toDigits 16 n).map fun d => if upper then d.toUpper else d
  String.ofList (List.replicate (count - ds.length) '0' ++ ds)

/-- A finite binary64's magnitude as `%a` writes it: `0x`, the leading digit (`1`, or `0` for
zero and subnormal values), the thirteen hexadecimal digits of the fraction (without their
trailing zeros, or rounded or padded to `precision`), and the power of two. -/
def hexFloatText (x : Binary64) (precision : Option Nat) (point upper : Bool) : String :=
  let lead := if x.biased = 0 then 0 else 1
  let exp : Int := if x.biased = 0 then (if x.fraction = 0 then 0 else -1022)
    else (x.biased : Int) - 1023
  let (lead, digits) := match precision with
    | none =>
      let all := paddedHex 13 x.fraction upper
      (lead, String.ofList ((all.toList.reverse.dropWhile (· = '0')).reverse))
    | some p =>
      if p ≥ 13 then
        (lead, paddedHex 13 x.fraction upper ++ String.ofList (List.replicate (p - 13) '0'))
      else
        let unit := Nat.pow 2 (4 * (13 - p))
        let kept := Binary64.roundHalfEven (x.fraction / unit) (x.fraction % unit) unit
        if kept = Nat.pow 16 p then (lead + 1, paddedHex p 0 upper)
        else (lead, paddedHex p kept upper)
  (if upper then "0X" else "0x") ++ toString lead ++
    (if digits.isEmpty && !point then "" else ".") ++ digits ++ (if upper then "P" else "p") ++
    (if exp < 0 then "-" else "+") ++ toString exp.natAbs

example : fixedText 314159 100000 2 false = "3.14" := by decide
example : fixedText 5 2 0 false = "2" ∧ fixedText 3 2 0 false = "2" := by decide
example : scientificText 12345 1 2 false false = "1.23e+04" := by decide

end AgentLink
