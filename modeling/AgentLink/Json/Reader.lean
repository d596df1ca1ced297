import AgentLink.Json.Value
import AgentLink.Json.Fault

/-!
# Reading JSON text

The reader walks the text as a `List Char` and keeps the byte index of the next character
beside it. It steps over structural characters one byte at a time; those are ASCII, and where
it steps over some other character it stops with a fault right after, one byte further on, so
the index it reports is the byte column a byte-level reader reports. A fault is placed at the
index of the next character (`failHere`) or one byte past it (`failNext`), as each case
demands.

`Scan` is `ExceptT Fault (StateM Cursor)`: the cursor outlives a fault, which a typed read
needs when it places a late fault after looking at the closing bracket. Every loop takes fuel;
the text's length in characters bounds the work, so the fuel passed in never runs out.

Numbers follow the exact rules of the wire: an integer that fits in 64 bits stays an integer,
a negative one down to `-2^63`; a longer integer, a fraction or an exponent gives a float,
computed as the significand (at most 20 digits, further digits only scale) converted to
binary64 and then multiplied or divided once by a binary64 power of ten, with the exponent
beyond 308 first divided out by `1e308`. A result past the largest finite value is a fault.
-/

namespace AgentLink.Json

/-- The reader's place: the characters left and the byte index of the first of them, with the
number of characters of the whole text, which bounds every loop. -/
structure Cursor where
  rest : List Char
  pos : Nat
  size : Nat
  deriving Inhabited

/-- A reading step that may fault; the cursor is kept even when it does. -/
abbrev Scan := ExceptT Fault (StateM Cursor)

/-- The cursor at the start of a text. -/
def Cursor.start (text : String) : Cursor := ⟨text.toList, 0, text.length⟩

/-- Run a step on a text: its result and the cursor it stopped at. -/
def Scan.runOn {α : Type} (s : Scan α) (text : String) : Except Fault α × Cursor :=
  (s.run).run (Cursor.start text)

namespace Scan

/-- The next character, not consumed. -/
def peek : Scan (Option Char) := do return (← get).rest.head?

/-- The byte index of the next character. -/
def index : Scan Nat := do return (← get).pos

/-- Step over one byte: the next character, which is ASCII or about to be reported. -/
def eat : Scan Unit :=
  modify fun c => match c.rest with
    | [] => c
    | _ :: rest => { c with rest := rest, pos := c.pos + 1 }

/-- Consume and return the next character, one byte. -/
def next : Scan (Option Char) := do
  let c ← peek
  eat
  return c

/-- Fault at byte index `i`. -/
def failAt {α : Type} (r : Reason) (i : Nat) : Scan α := throw ⟨r, some i⟩

/-- Fault at the index of the next character. -/
def failHere {α : Type} (r : Reason) : Scan α := do failAt r (← index)

/-- Fault one byte past the next character, or at the end of the text. -/
def failNext {α : Type} (r : Reason) : Scan α := do
  let c ← get
  failAt r (if c.rest.isEmpty then c.pos else c.pos + 1)

/-- Place an unplaced fault at the cursor. -/
def placeHere {α : Type} (s : Scan α) : Scan α :=
  tryCatch s fun f => do throw (f.atIfUnplaced (← index))

/-- Drop blanks (space, tab, newline, carriage return) from a character list, counting them. -/
def dropSpace : List Char → List Char × Nat
  | c :: cs =>
    if c = ' ' ∨ c = '\n' ∨ c = '\t' ∨ c = '\r' then
      let (r, n) := dropSpace cs
      (r, n + 1)
    else (c :: cs, 0)
  | [] => ([], 0)

/-- Skip blanks and look at the next character. -/
def skipSpace : Scan (Option Char) := do
  let c ← get
  let (rest, n) := dropSpace c.rest
  set { c with rest := rest, pos := c.pos + n }
  return rest.head?

/-- Read the rest of a keyword, one byte at a time. -/
def ident : List Char → Scan Unit
  | [] => pure ()
  | e :: es => do
    match ← next with
    | none => failHere .eofValue
    | some c => if c = e then ident es else failHere .expectedIdent

/-! ## Numbers -/

/-- The largest 64-bit unsigned integer. -/
def u64Max : Nat := Nat.pow 2 64 - 1

/-- The largest 32-bit signed integer. -/
def i32Max : Nat := Nat.pow 2 31 - 1

/-- Clamp to the 32-bit signed range, as saturating exponent arithmetic does. -/
def clampI32 (x : Int) : Int := max (-(Nat.pow 2 31 : Int)) (min ((Nat.pow 2 31 : Int) - 1) x)

/-- The value of an ASCII digit. -/
def digitVal (c : Char) : Option Nat := if c.isDigit then some (c.toNat - 48) else none

/-- Accumulate leading digits while `sig * 10 + d` stays within `limit`: the value, the digits
taken, and whether a digit was left because it would pass the limit. -/
def accumulate (limit : Nat) : Nat → Nat → List Char → Nat × Nat × Bool
  | sig, n, c :: cs =>
    match digitVal c with
    | some d =>
      if limit < sig * 10 + d then (sig, n, true)
      else accumulate limit (sig * 10 + d) (n + 1) cs
    | none => (sig, n, false)
  | sig, n, [] => (sig, n, false)

/-- The number of leading digits. -/
def countDigits : List Char → Nat
  | c :: cs => if c.isDigit then countDigits cs + 1 else 0
  | [] => 0

/-- Step over `n` ASCII characters. -/
def skip (n : Nat) : Scan Unit := modify fun c => { c with rest := c.rest.drop n, pos := c.pos + n }

/-- Scale a float by `10^exp`: one multiplication or division by a power of ten up to 308,
beyond that dividing by `1e308` first. `none` when the result is past the largest finite value
or a positive exponent beyond 308 meets a non-zero value. -/
def scaleByTen (f : Binary64) (exp : Int) : Nat → Option Binary64
  | 0 => some f
  | fuel + 1 =>
    if exp.natAbs ≤ 308 then
      if 0 ≤ exp then
        let g := f.mul (Binary64.pow10 exp.toNat)
        if g.isFinite then some g else none
      else some (f.div (Binary64.pow10 exp.natAbs))
    else if f.isZero then some f
    else if 0 ≤ exp then none
    else scaleByTen (f.div (Binary64.pow10 308)) (exp + 308) fuel

/-- The float `±significand · 10^exp`, or a range fault at the cursor. -/
def fromParts (positive : Bool) (sig : Nat) (exp : Int) : Scan Binary64 :=
  match scaleByTen (Binary64.ofNat sig) exp 8 with
  | some f => pure (if positive then f else f.negate)
  | none => failHere .numberOutOfRange

/-- The exponent part, the cursor on `e` or `E`. -/
def exponent (positive : Bool) (sig : Nat) (start : Int) : Scan Binary64 := do
  eat
  let positiveExp ← do
    match ← peek with
    | some '+' => eat; pure true
    | some '-' => eat; pure false
    | _ => pure true
  match ← next with
  | none => failHere .eofValue
  | some c =>
    match digitVal c with
    | none => failHere .invalidNumber
    | some d =>
      let (exp, n, overflowed) := accumulate i32Max d 0 (← get).rest
      if overflowed then
        -- the digit that passes the limit is consumed before the check
        skip (n + 1)
        if sig ≠ 0 ∧ positiveExp then failHere .numberOutOfRange
        else
          skip (countDigits (← get).rest)
          pure (if positive then Binary64.zero false else Binary64.zero true)
      else
        skip n
        let final := if positiveExp then clampI32 (start + exp) else clampI32 (start - exp)
        fromParts positive sig final

/-- The fraction digits after an overflowing significand: all ignored. -/
def fractionOverflow (positive : Bool) (sig : Nat) (exp : Int) : Scan Binary64 := do
  skip (countDigits (← get).rest)
  match ← peek with
  | some 'e' | some 'E' => exponent positive sig exp
  | _ => fromParts positive sig exp

/-- The fraction part, the cursor on `.`. -/
def fraction (positive : Bool) (sig : Nat) (start : Int) : Scan Binary64 := do
  eat
  let (sig', n, overflowed) := accumulate u64Max sig 0 (← get).rest
  skip n
  if overflowed then fractionOverflow positive sig' (start - n)
  else if n = 0 then
    match ← peek with
    | some _ => failNext .invalidNumber
    | none => failNext .eofValue
  else
    match ← peek with
    | some 'e' | some 'E' => exponent positive sig' (start - n)
    | _ => fromParts positive sig' (start - n)

/-- An integer too long for 64 bits: its further digits only scale it. -/
def longInteger (positive : Bool) (sig : Nat) : Scan Binary64 := do
  let n := countDigits (← get).rest
  skip n
  match ← peek with
  | some '.' => fraction positive sig n
  | some 'e' | some 'E' => exponent positive sig n
  | _ => fromParts positive sig n

/-- What follows the integer digits: a fraction, an exponent, or the end of the number. -/
def afterInteger (positive : Bool) (sig : Nat) : Scan Number := do
  match ← peek with
  | some '.' => return .float (← fraction positive sig 0)
  | some 'e' | some 'E' => return .float (← exponent positive sig 0)
  | _ =>
    if positive then return .nat sig
    else if 1 ≤ sig ∧ sig ≤ Nat.pow 2 63 then return .neg (-(sig : Int))
    else return .float (Binary64.ofNat sig).negate

/-- A number after its sign: an integer part, then a fraction or exponent. -/
def number (positive : Bool) : Scan Number := do
  match ← next with
  | none => failHere .eofValue
  | some '0' =>
    match ← peek with
    | some c => if c.isDigit then failNext .invalidNumber else afterInteger positive 0
    | none => afterInteger positive 0
  | some c =>
    match digitVal c with
    | none => failHere .invalidNumber
    | some d =>
      let (sig, n, overflowed) := accumulate u64Max d 0 (← get).rest
      skip n
      if overflowed then return .float (← longInteger positive sig)
      else afterInteger positive sig

/-! ## Strings -/

/-- The value of a hexadecimal digit. -/
def hexVal (c : Char) : Option Nat :=
  if c.isDigit then some (c.toNat - 48)
  else if 'a' ≤ c ∧ c ≤ 'f' then some (c.toNat - 87)
  else if 'A' ≤ c ∧ c ≤ 'F' then some (c.toNat - 55)
  else none

/-- The UTF-8 length of a character list. -/
def byteLen : List Char → Nat
  | [] => 0
  | c :: cs => c.utf8Size + byteLen cs

/-- Four hexadecimal digits: four bytes are taken whatever they are; too few bytes left is
the end of the text. -/
def hex4 : Scan Nat := do
  let c ← get
  match c.rest with
  | a :: b :: d :: e :: rest =>
    match hexVal a, hexVal b, hexVal d, hexVal e with
    | some w, some x, some y, some z =>
      set { c with rest := rest, pos := c.pos + 4 }
      pure (w * 4096 + x * 256 + y * 16 + z)
    | _, _, _, _ => failAt .invalidEscape (c.pos + 4)
  | rest =>
    if 4 ≤ byteLen rest then failAt .invalidEscape (c.pos + 4)
    else failAt .eofString (c.pos + byteLen rest)

/-- A `\u` escape, the cursor after the `u`; a surrogate pair gives one character. -/
def unicodeEscape : Scan Char := do
  let n ← hex4
  if 0xDC00 ≤ n ∧ n ≤ 0xDFFF then failHere .loneLeadingSurrogate
  else if n < 0xD800 ∨ 0xDBFF < n then pure (Char.ofNat n)
  else
    match ← peek with
    | none => failHere .eofString
    | some '\\' => eat
    | some _ => eat; failHere .unexpectedEndOfHexEscape
    match ← peek with
    | none => failHere .eofString
    | some 'u' => eat
    | some _ => eat; failHere .unexpectedEndOfHexEscape
    let n2 ← hex4
    if n2 < 0xDC00 ∨ 0xDFFF < n2 then failHere .loneLeadingSurrogate
    else pure (Char.ofNat ((((n - 0xD800) <<< 10) ||| (n2 - 0xDC00)) + 0x10000))

/-- An escape, the cursor after the backslash. -/
def escape : Scan Char := do
  match ← next with
  | none => failHere .eofString
  | some '"' => pure '"'
  | some '\\' => pure '\\'
  | some '/' => pure '/'
  | some 'b' => pure '\x08'
  | some 'f' => pure '\x0c'
  | some 'n' => pure '\n'
  | some 'r' => pure '\r'
  | some 't' => pure '\t'
  | some 'u' => unicodeEscape
  | some _ => failHere .invalidEscape

/-- The body of a string, the cursor after the opening quote; `acc` holds the characters read,
last first. -/
def stringBody : Nat → List Char → Scan String
  | 0, _ => failHere .eofString
  | fuel + 1, acc => do
    let c ← get
    match c.rest with
    | [] => failHere .eofString
    | '"' :: rest =>
      set { c with rest := rest, pos := c.pos + 1 }
      pure (String.ofList acc.reverse)
    | '\\' :: rest =>
      set { c with rest := rest, pos := c.pos + 1 }
      let e ← escape
      stringBody fuel (e :: acc)
    | ch :: rest =>
      if ch.toNat < 0x20 then failAt .controlCharacter (c.pos + 1)
      else
        set { c with rest := rest, pos := c.pos + ch.utf8Size }
        stringBody fuel (ch :: acc)

/-- A string, the cursor after the opening quote. -/
def string : Scan String := do
  stringBody ((← get).size + 1) []

/-- Skip an escape without checking what it denotes, the cursor after the backslash. -/
def skipEscape : Scan Unit := do
  match ← next with
  | none => failHere .eofString
  | some c =>
    if c = '"' ∨ c = '\\' ∨ c = '/' ∨ c = 'b' ∨ c = 'f' ∨ c = 'n' ∨ c = 'r' ∨
        c = 't' then
      pure ()
    else if c = 'u' then do let _ ← hex4
    else failHere .invalidEscape

/-- Skip a string body, the cursor after the opening quote; a control character is placed at
itself. -/
def skipStringBody : Nat → Scan Unit
  | 0 => failHere .eofString
  | fuel + 1 => do
    let c ← get
    match c.rest with
    | [] => failHere .eofString
    | '"' :: rest => set { c with rest := rest, pos := c.pos + 1 }
    | '\\' :: rest =>
      set { c with rest := rest, pos := c.pos + 1 }
      skipEscape
      skipStringBody fuel
    | ch :: rest =>
      if ch.toNat < 0x20 then failHere .controlCharacter
      else
        set { c with rest := rest, pos := c.pos + ch.utf8Size }
        skipStringBody fuel

/-- Skip a string, the cursor after the opening quote. -/
def skipString : Scan Unit := do
  skipStringBody ((← get).size + 1)

/-! ## Values -/

/-- The closing of an array whose items were read. -/
def endArray : Scan Unit := do
  match ← skipSpace with
  | some ']' => eat
  | some ',' =>
    eat
    match ← skipSpace with
    | some ']' => failNext .trailingComma
    | _ => failNext .trailingCharacters
  | some _ => failNext .trailingCharacters
  | none => failNext .eofList

/-- The closing of an object whose members were read. -/
def endObject : Scan Unit := do
  match ← skipSpace with
  | some '}' => eat
  | some ',' => failNext .trailingComma
  | some _ => failNext .trailingCharacters
  | none => failNext .eofObject

/-- The colon between a key and its value. -/
def colon : Scan Unit := do
  match ← skipSpace with
  | some ':' => eat
  | some _ => failNext .expectedColon
  | none => failNext .eofObject

/-- Where an array's next item starts: `none` at the closing bracket, else the character the
item starts with, after the comma when it is not the first. -/
def nextItem (first : Bool) : Scan (Option Char) := do
  let p ← match ← skipSpace with
    | some ']' => return none
    | some ',' => if first then pure (some ',') else do eat; skipSpace
    | some b => if first then pure (some b) else failNext .expectedListCommaOrEnd
    | none => failNext .eofList
  match p with
  | some ']' => failNext .trailingComma
  | some b => return some b
  | none => failNext .eofValue

/-- Where an object's next key starts: `false` at the closing brace, `true` on the key's
opening quote. -/
def nextKey (first : Bool) : Scan Bool := do
  let p ← match ← skipSpace with
    | some '}' => return false
    | some ',' => if first then pure (some ',') else do eat; skipSpace
    | some b => if first then pure (some b) else failNext .expectedObjectCommaOrEnd
    | none => failNext .eofObject
  match p with
  | some '"' => return true
  | some '}' => failNext .trailingComma
  | some _ => failNext .keyMustBeString
  | none => failNext .eofValue

/-- Enter one nesting level: a fault at the bracket when `depth` levels are used up. -/
def nest (depth : Nat) : Scan Unit := do
  if depth ≤ 1 then failNext .recursionLimit else eat

mutual
/-- A value, with `depth` nesting levels left. -/
def value : Nat → Nat → Scan Value
  | 0, _ => failHere .eofValue
  | fuel + 1, depth => placeHere do
    match ← skipSpace with
    | none => failNext .eofValue
    | some 'n' => eat; ident ['u', 'l', 'l']; pure .null
    | some 't' => eat; ident ['r', 'u', 'e']; pure (.bool true)
    | some 'f' => eat; ident ['a', 'l', 's', 'e']; pure (.bool false)
    | some '-' => eat; return .number (← number false)
    | some '"' => eat; return .string (← string)
    | some '[' =>
      nest depth
      let xs ← items fuel (depth - 1) true []
      endArray
      pure (.array xs)
    | some '{' =>
      nest depth
      let kvs ← members fuel (depth - 1) true []
      endObject
      pure (.object (Value.sortFields kvs.reverse))
    | some c =>
      if c.isDigit then return .number (← number true) else failNext .expectedValue
/-- Array items, `acc` holding those read, last first. -/
def items : Nat → Nat → Bool → List Value → Scan (List Value)
  | 0, _, _, _ => failHere .eofValue
  | fuel + 1, depth, first, acc => do
    match ← nextItem first with
    | none => pure acc.reverse
    | some _ =>
      let v ← value fuel depth
      items fuel depth false (v :: acc)
/-- Object members as read, `acc` holding those read, last first. -/
def members : Nat → Nat → Bool → List (String × Value) → Scan (List (String × Value))
  | 0, _, _, _ => failHere .eofValue
  | fuel + 1, depth, first, acc => do
    if ← nextKey first then
      eat
      let k ← string
      colon
      let v ← value fuel depth
      members fuel depth false ((k, v) :: acc)
    else pure acc
end

/-- Enough fuel to read any value in the rest of the text. -/
def fuelFor : Scan Nat := do return 2 * (← get).size + 2

/-- A value with the full nesting budget of 128 levels. -/
def anyValue : Scan Value := do value (← fuelFor) 128

/-- After a document: only blanks may follow. -/
def finish : Scan Unit := do
  match ← skipSpace with
  | some _ => failNext .trailingCharacters
  | none => pure ()

/-! ## Skipping values -/

/-- Skip an integer, fraction and exponent, checking only their shape. -/
def skipNumber : Scan Unit := do
  match ← next with
  | some '0' =>
    match ← peek with
    | some c => if c.isDigit then failNext .invalidNumber else pure ()
    | none => pure ()
  | some c =>
    if c.isDigit ∧ c ≠ '0' then skip (countDigits (← get).rest)
    else failHere .invalidNumber
  | none => failHere .invalidNumber
  let skipExp : Scan Unit := do
    eat
    match ← peek with
    | some '+' | some '-' => eat
    | _ => pure ()
    match ← next with
    | some c => if c.isDigit then skip (countDigits (← get).rest) else failHere .invalidNumber
    | none => failHere .invalidNumber
  match ← peek with
  | some '.' =>
    eat
    let n := countDigits (← get).rest
    skip n
    if n = 0 then failNext .invalidNumber
    match ← peek with
    | some 'e' | some 'E' => skipExp
    | _ => pure ()
  | some 'e' | some 'E' => skipExp
  | _ => pure ()

/-- After a skipped scalar or a closing bracket: close the enclosing arrays and objects whose
end follows; `true` when the whole value is done. `accept` says whether a comma may follow. -/
def closeFrames : Nat → List Char → Bool → Scan (Bool × List Char)
  | 0, frames, _ => pure (true, frames)
  | fuel + 1, frames, accept =>
    match frames with
    | [] => pure (true, [])
    | frame :: outer => do
      match ← skipSpace with
      | some ',' =>
        if accept then do eat; pure (false, frames)
        else pure (false, frames)
      | some ']' =>
        if frame = '[' then do eat; closeFrames fuel outer true
        else if accept then failNext .expectedObjectCommaOrEnd else pure (false, frames)
      | some '}' =>
        if frame = '{' then do eat; closeFrames fuel outer true
        else if accept then failNext .expectedListCommaOrEnd else pure (false, frames)
      | some _ =>
        if accept then
          failNext (if frame = '[' then .expectedListCommaOrEnd else .expectedObjectCommaOrEnd)
        else pure (false, frames)
      | none => failNext (if frame = '[' then .eofList else .eofObject)

/-- Before the next member of an innermost object: its key and colon. -/
def skipKey (frames : List Char) : Scan Unit := do
  match frames with
  | '{' :: _ =>
    match ← skipSpace with
    | some '"' => eat
    | some _ => failNext .keyMustBeString
    | none => failNext .eofObject
    skipString
    match ← skipSpace with
    | some ':' => eat
    | some _ => failNext .expectedColon
    | none => failNext .eofObject
  | _ => pure ()

/-- Skip a value of any depth without building it; `frames` holds the open brackets,
innermost first. -/
def skipFrames : Nat → List Char → Scan Unit
  | 0, _ => pure ()
  | fuel + 1, frames => do
    let opened ← do
      match ← skipSpace with
      | none => failNext .eofValue
      | some 'n' => eat; ident ['u', 'l', 'l']; pure none
      | some 't' => eat; ident ['r', 'u', 'e']; pure none
      | some 'f' => eat; ident ['a', 'l', 's', 'e']; pure none
      | some '-' => eat; skipNumber; pure none
      | some '"' => eat; skipString; pure none
      | some '[' => eat; pure (some '[')
      | some '{' => eat; pure (some '{')
      | some c => if c.isDigit then do skipNumber; pure none else failNext .expectedValue
    match opened with
    | some frame =>
      let (done, frames') ← closeFrames (fuel + 1) (frame :: frames) false
      if done then pure () else do skipKey frames'; skipFrames fuel frames'
    | none =>
      let (done, frames') ← closeFrames (fuel + 1) frames true
      if done then pure () else do skipKey frames'; skipFrames fuel frames'

/-- Skip one value of any depth; no nesting limit applies and numbers are not range-checked. -/
def skipValue : Scan Unit := do skipFrames (← fuelFor) []

end Scan

/-- Read a whole text as one JSON value. -/
def readValue (text : String) : Except Fault Value :=
  (do let v ← Scan.anyValue; Scan.finish; pure v).runOn text |>.1

example : (readValue "[1, -2, 0.5, \"a\\u00e9\"]").toOption =
    some (.array [.number (.nat 1), .number (.neg (-2)), .number (.float ⟨0x3fe0000000000000⟩),
      .string "aé"]) := by decide +kernel
example : (match readValue "[1,]" with | .error f => some f | .ok _ => none) =
    some ⟨.trailingComma, some 4⟩ := by decide +kernel
example : (match readValue "this" with | .error f => some f | .ok _ => none) =
    some ⟨.expectedIdent, some 2⟩ := by decide +kernel

end AgentLink.Json
