/-!
# Reading integers from command arguments

Commands read integer arguments the way the C library's `strtoimax` does: leading white space,
an optional sign, then digits. In base 10 only decimal digits count; with the base chosen by
the text, `0x` or `0X` before a hexadecimal digit starts a hexadecimal number and a leading
`0` an octal one. A value beyond the 64-bit signed range is an overflow and reads as the
nearest end of the range. `IntegerRead` says how far the digits went.

`readDecimal?` is the strict reading of a count or status: white space may surround the
number, but nothing else may follow it, and the value must not overflow.
-/

namespace AgentLink

/-- The largest 64-bit signed integer. -/
def intMax : Int := 9223372036854775807

/-- The smallest 64-bit signed integer. -/
def intMin : Int := -9223372036854775808

/-- The result of reading an integer from the start of a text. -/
structure IntegerRead where
  /-- The value, clamped to the 64-bit signed range. -/
  value : Int
  /-- Whether any digit was read. -/
  digits : Bool
  /-- The characters after the digits. -/
  rest : List Char
  /-- Whether the value was beyond the range. -/
  overflow : Bool

/-- Whether a character is white space for the C library: blank, tab, line end, vertical tab,
form feed or carriage return. -/
def isCSpace (c : Char) : Bool :=
  c = ' ' || c = '\t' || c = '\n' || c = '\x0B' || c = '\x0C' || c = '\r'

/-- The value of a digit in `base`, if it is one. -/
def digitValue (base : Nat) (c : Char) : Option Nat :=
  let v :=
    if c.isDigit then some (c.toNat - 48)
    else if 'a' ≤ c && c ≤ 'z' then some (c.toNat - 87)
    else if 'A' ≤ c && c ≤ 'Z' then some (c.toNat - 55)
    else none
  v.bind fun d => if d < base then some d else none

/-- The digits of `base` at the start of the characters, as a number, and the rest. -/
def takeDigits (base : Nat) : List Char → Nat → Bool → Nat × Bool × List Char
  | [], n, any => (n, any, [])
  | c :: rest, n, any =>
    match digitValue base c with
    | some d => takeDigits base rest (n * base + d) true
    | none => (n, any, c :: rest)

/-- Read an integer from the start of `s` in base 10, or in the base the text chooses when
`anyBase`. -/
def readInteger (s : String) (anyBase : Bool) : IntegerRead :=
  let cs := s.toList.dropWhile isCSpace
  let (negative, cs) := match cs with
    | '-' :: rest => (true, rest)
    | '+' :: rest => (false, rest)
    | _ => (false, cs)
  let (base, body) : Nat × List Char :=
    if !anyBase then (10, cs)
    else match cs with
      | '0' :: x :: d :: rest =>
        if (x = 'x' || x = 'X') && (digitValue 16 d).isSome then (16, d :: rest) else (8, cs)
      | '0' :: _ => (8, cs)
      | _ => (10, cs)
  let (n, any, rest) := takeDigits base body 0 false
  let v : Int := if negative then -(n : Int) else n
  if !any then ⟨0, false, s.toList, false⟩
  else if v > intMax then ⟨intMax, true, rest, true⟩
  else if v < intMin then ⟨intMin, true, rest, true⟩
  else ⟨v, true, rest, false⟩

/-- A decimal integer that fills the text but for surrounding white space and does not
overflow. -/
def readDecimal? (s : String) : Option Int :=
  let r := readInteger s false
  if r.digits && !r.overflow && r.rest.all isCSpace then some r.value else none

example : readDecimal? " -12 " = some (-12) := by decide
example : readDecimal? "1000000000000000000000" = none := by decide
example : (readInteger "0x1fz" true).value = 31 := by decide

end AgentLink
