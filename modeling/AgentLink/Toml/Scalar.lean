import AgentLink.Toml.Lexical
import AgentLink.Number.Binary64

/-!
# Reading TOML numbers and date-times

A value that starts with a sign or a digit is tried as a date-time, then as a float, then as
an integer, the cursor going back to the start between tries.

* A date is `YYYY-MM-DD`, the day checked against the month (February has 29 days in leap
  years); a time is `HH:MM:SS` with an optional fraction (nanoseconds, further digits
  dropped), the second up to 60. A date may be followed by `T`, `t` or a space and a time,
  and then by `Z` or an offset `±HH:MM`; a time may stand alone. A date-time is kept as its
  canonical text: `T` between date and time, the fraction without trailing zeros, `Z`, and
  offsets as `+HH:MM`.
* A float is a decimal integer part followed by an exponent, or by a fraction and an optional
  exponent, `_` allowed between digits; it is rounded to the nearest binary64, and positive
  infinity from rounding is refused. `inf` and `nan` take an optional sign.
* An integer is decimal (no leading zeros), or `0x`, `0o`, `0b` with digits; it must fit in
  64 signed bits.
-/

namespace AgentLink.Toml

open Parse

/-- A calendar date. -/
structure Date where
  year : Nat
  month : Nat
  day : Nat
  deriving DecidableEq, Inhabited

/-- A time of day. -/
structure Time where
  hour : Nat
  minute : Nat
  second : Nat
  nanos : Nat
  deriving DecidableEq, Inhabited

/-- A time offset: `Z`, or minutes east of it. -/
inductive Offset where
  | utc
  | minutes (m : Int)
  deriving DecidableEq, Inhabited

/-- A date, a time, or both, with an optional offset. -/
structure Datetime where
  date : Option Date
  time : Option Time
  offset : Option Offset
  deriving DecidableEq, Inhabited

/-- The number `n` written with at least `width` digits. -/
def padded (width n : Nat) : String :=
  let s := toString n
  String.ofList (List.replicate (width - s.length) '0') ++ s

/-- Drop trailing zeros. -/
def dropTrailingZeros (s : String) : String :=
  String.ofList (s.toList.reverse.dropWhile (· = '0')).reverse

/-- The canonical text of a date. -/
def Date.text (d : Date) : String :=
  padded 4 d.year ++ "-" ++ padded 2 d.month ++ "-" ++ padded 2 d.day

/-- The canonical text of a time. -/
def Time.text (t : Time) : String :=
  padded 2 t.hour ++ ":" ++ padded 2 t.minute ++ ":" ++ padded 2 t.second ++
    (if t.nanos = 0 then "" else "." ++ dropTrailingZeros (padded 9 t.nanos))

/-- The canonical text of an offset. -/
def Offset.text : Offset → String
  | .utc => "Z"
  | .minutes m =>
    let sign := if m < 0 then "-" else "+"
    sign ++ padded 2 (m.natAbs / 60) ++ ":" ++ padded 2 (m.natAbs % 60)

/-- The canonical text of a date-time. -/
def Datetime.text (d : Datetime) : String :=
  (d.date.map Date.text).getD "" ++
    (match d.time with
      | some t => (if d.date.isSome then "T" else "") ++ t.text
      | none => "") ++
    (d.offset.map Offset.text).getD ""

/-- The days in a month. -/
def daysInMonth (year month : Nat) : Nat :=
  let leap := year % 4 = 0 && (year % 100 ≠ 0 || year % 400 = 0)
  if month = 2 then (if leap then 29 else 28)
  else if month = 4 || month = 6 || month = 9 || month = 11 then 30
  else 31

/-- Exactly `n` digits, consumed, or nothing consumed. -/
def digits? (n : Nat) : Parse (Option Nat) := do
  let start ← get
  let ds ← takeUpTo n isDigit
  if ds.length = n then return some (digitsValue 10 ds)
  else
    set start
    return none

/-- A two-digit field of a committed date-time: its value, checked against `hi` (and `lo`). -/
def field (label : String) (lo hi : Nat) : Parse Nat := do
  let i ← index
  match ← digits? 2 with
  | none => failHere (describe (some label) [] none)
  | some v =>
    if lo ≤ v && v ≤ hi then return v
    else failAt (describe (some label) [] (some outOfRange)) i

/-- Consume `c` or fail with `label`. -/
def expectChar (c : Char) (label : String) : Parse Unit := do
  if (← peek) = some c then advance else failHere (describe (some label) [] none)

/-- A date, if a four-digit year and a dash start here; committed after the dash. -/
def fullDate? : Parse (Option Date) := do
  let start ← get
  match ← digits? 4 with
  | none => return none
  | some year =>
    if (← peek) ≠ some '-' then
      set start
      return none
    advance
    let month ← field "date-time" 1 12
    expectChar '-' "date-time"
    let dayAt ← index
    let day ← field "date-time" 1 31
    if daysInMonth year month < day then
      failAt (describe (some "date-time") [] (some outOfRange)) dayAt
    return some ⟨year, month, day⟩

/-- The fraction of a second after a point: nanoseconds, digits past the ninth dropped. -/
def secondFraction? : Parse (Option Nat) := do
  let start ← get
  if (← peek) = some '.' then
    advance
    let ds ← takeWhile isDigit
    if ds.isEmpty then
      set start
      return none
    let kept := ds.take 9
    return some (digitsValue 10 kept * Nat.pow 10 (9 - kept.length))
  else return none

/-- A time, if an hour and a colon start here; committed after the colon. -/
def partialTime? (label : String) : Parse (Option Time) := do
  let start ← get
  match ← digits? 2 with
  | some hour =>
    if hour ≤ 23 && (← peek) = some ':' then
      advance
      let minute ← field label 0 59
      expectChar ':' label
      let second ← field label 0 60
      let nanos := (← secondFraction?).getD 0
      return some ⟨hour, minute, second, nanos⟩
    else
      set start
      return none
  | none => return none

/-- An offset, if `Z`, `z` or a sign starts here; committed after the sign. -/
def timeOffset? : Parse (Option Offset) := do
  match ← peek with
  | some 'Z' | some 'z' => advance; return some .utc
  | some '+' | some '-' =>
    let negative := (← peek) = some '-'
    advance
    let h ← field "time offset" 0 23
    expectChar ':' "time offset"
    let m ← field "time offset" 0 59
    let total : Int := h * 60 + m
    return some (.minutes (if negative then -total else total))
  | _ => return none

/-- A date-time, if one starts here. -/
def datetime? : Parse (Option Datetime) := do
  let start ← get
  match ← fullDate? with
  | some d =>
    let beforeTime ← get
    match ← peek with
    | some 'T' | some 't' | some ' ' =>
      advance
      match ← partialTime? "date-time" with
      | some t => return some ⟨some d, some t, ← timeOffset?⟩
      | none =>
        set beforeTime
        return some ⟨some d, none, none⟩
    | _ => return some ⟨some d, none, none⟩
  | none =>
    set start
    match ← partialTime? "time" with
    | some t => return some ⟨none, some t, none⟩
    | none =>
      set start
      return none

/-! ## Numbers -/

/-- Digits accepted by `isD`, single `_` allowed between them; the first digit is consumed
already. A `_` not followed by a digit fails with `label`. -/
def digitRun (isD : Char → Bool) (label : Option String) : Nat → Parse Unit
  | 0 => pure ()
  | n + 1 => do
    match ← rest with
    | c :: more =>
      if isD c then advance; digitRun isD label n
      else if c = '_' then
        advance
        match more with
        | d :: _ =>
          if isD d then digitRun isD label n
          else failHere (describe label ["digit"] none)
        | [] => failHere (describe label ["digit"] none)
      else pure ()
    | [] => pure ()

/-- A decimal integer's text, sign included: one digit `0`, or a digit from 1 to 9 and more
digits. Declines, after any sign, when no digit follows. -/
def decInt? : Parse Bool := do
  match ← peek with
  | some '+' | some '-' => advance
  | _ => pure ()
  match ← peek with
  | some '0' => advance; return true
  | some c =>
    if isDigit c then
      advance
      digitRun isDigit (some "integer") (← fuel)
      return true
    else return false
  | none => return false

/-- Digits that may start with zero, `_` allowed between them; declines when no digit is
here. `extra` is added to what a misplaced `_` reports as expected. -/
def zeroPrefixable (extra : List String) (label : String) : Parse Unit := do
  match ← peek with
  | some c =>
    if isDigit c then
      advance
      let inner : Parse Unit := digitRun isDigit none (← fuel)
      tryCatch inner fun p =>
        throw (Problem.mk (describe (some label) (["digit"] ++ extra) none) p.span)
    else failHere (describe (some label) extra none)
  | none => failHere (describe (some label) extra none)

/-- The rational value of a float's text: sign, digits as an integer, and a power of ten. -/
def floatParts (cs : List Char) : Bool × Nat × Int :=
  let neg := cs.head? = some '-'
  let body := (cs.filter (· ≠ '_')).dropWhile fun c => c = '+' || c = '-'
  let mant := body.takeWhile fun c => c ≠ 'e' && c ≠ 'E'
  let expPart := (body.dropWhile fun c => c ≠ 'e' && c ≠ 'E').drop 1
  let intDigits := mant.takeWhile (· ≠ '.')
  let fracDigits := (mant.dropWhile (· ≠ '.')).drop 1
  let m := digitsValue 10 (intDigits ++ fracDigits)
  let e : Int := match expPart with
    | '-' :: ds => -(digitsValue 10 ds : Int)
    | '+' :: ds => digitsValue 10 ds
    | ds => digitsValue 10 ds
  (neg, m, e - fracDigits.length)

/-- The binary64 nearest to `±m · 10^e`. -/
def decimalToBinary64 (neg : Bool) (m : Nat) (e : Int) : Binary64 :=
  if m = 0 then Binary64.zero neg
  else
    let width : Int := (toString m).length
    if 310 < width + e then Binary64.infinity neg
    else if width + e < -330 then Binary64.zero neg
    else if 0 ≤ e then Binary64.nearest neg (m * Nat.pow 10 e.toNat) 1
    else Binary64.nearest neg m (Nat.pow 10 (-e).toNat)

/-- The text for a float the reader cannot take. -/
def floatLabel : String := "floating-point number"

/-- A float with a decimal point or exponent, if one is here. -/
def decimalFloat? : Parse (Option Binary64) := do
  let start ← get
  unless ← decInt? do
    set start
    return none
  match ← peek with
  | some 'e' | some 'E' =>
    advance
    match ← peek with
    | some '+' | some '-' => advance
    | _ => pure ()
    zeroPrefixable [] floatLabel
  | some '.' =>
    advance
    zeroPrefixable ["digit"] floatLabel
    match ← peek with
    | some 'e' | some 'E' =>
      advance
      match ← peek with
      | some '+' | some '-' => advance
      | _ => pure ()
      zeroPrefixable [] floatLabel
    | _ => pure ()
  | _ =>
    set start
    return none
  let text ← takenSince start
  let (neg, m, e) := floatParts text
  let x := decimalToBinary64 neg m e
  if !x.isFinite && !neg then
    set start
    failAt (describe (some floatLabel) [] none) start.pos
  return some x

/-- The quiet NaN. -/
def quietNaN : Binary64 := ⟨0x7ff8000000000000⟩

/-- Read `inf` or `nan` with an optional sign, if here. -/
def specialFloat? : Parse (Option Binary64) := do
  let start ← get
  let neg ← match ← peek with
    | some '+' => do advance; pure false
    | some '-' => do advance; pure true
    | _ => pure false
  if ← startsWith "inf" then
    advanceBy 3
    return some (Binary64.infinity neg)
  else if ← startsWith "nan" then
    advanceBy 3
    return some (if neg then quietNaN.negate else quietNaN)
  else
    set start
    return none

/-- A float, if one is here. -/
def float? : Parse (Option Binary64) := do
  match ← decimalFloat? with
  | some x => return some x
  | none => specialFloat?

/-- The largest 64-bit signed integer. -/
def i64Max : Nat := Nat.pow 2 63 - 1

/-- An integer in a base with a prefix: the prefix is next. -/
def prefixedInt (base : Nat) (isD : Char → Bool) (label : String) : Parse Int := do
  let start ← index
  advanceBy 2
  let first ← peek
  match first with
  | some c =>
    if isD c then
      let from_ ← get
      advance
      digitRun isD (some label) (← fuel)
      let v := digitsValue base (← takenSince from_)
      if i64Max < v then failAt "number too large to fit in target type" start
      return v
    else failHere (describe (some label) [] none)
  | none => failHere (describe (some label) [] none)

/-- An integer, or a declined problem after its sign. -/
def integer? : Parse (Except Problem Int) := do
  let start ← get
  if ← startsWith "0x" then return .ok (← prefixedInt 16 isHexDigit "hexadecimal integer")
  if ← startsWith "0o" then
    return .ok (← prefixedInt 8 (fun c => '0' ≤ c && c ≤ '7') "octal integer")
  if ← startsWith "0b" then
    return .ok (← prefixedInt 2 (fun c => c = '0' || c = '1') "binary integer")
  if ← decInt? then
    let text ← takenSince start
    let neg := text.head? = some '-'
    let v := digitsValue 10 (text.filter isDigit)
    if neg then
      if Nat.pow 2 63 < v then failAt "number too small to fit in target type" start.pos
      return .ok (-(v : Int))
    else
      if i64Max < v then failAt "number too large to fit in target type" start.pos
      return .ok v
  else return .error (← declineHere (describe (some "integer") [] none))

end AgentLink.Toml
