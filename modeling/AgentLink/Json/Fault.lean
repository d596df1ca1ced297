/-!
# Why JSON text was refused, and where

A `Fault` is a reason and, when it is known, the byte index at which reading stopped. The
reader reports syntax faults with an index; a fault raised while shaping a value into a type
(`invalid type`, `missing field`) starts without one and takes the index at which the
innermost typed read returned (`Fault.atIfUnplaced`). A fault renders as its reason, followed
by `at line L column C` when it is placed: `L` counts the newlines before the index plus one,
and `C` is the number of bytes between the start of that line and the index.
-/

namespace AgentLink.Json

/-- The reasons a JSON reader gives. -/
inductive Reason where
  | eofList
  | eofObject
  | eofString
  | eofValue
  | expectedColon
  | expectedListCommaOrEnd
  | expectedObjectCommaOrEnd
  | expectedIdent
  | expectedValue
  | invalidEscape
  | invalidNumber
  | numberOutOfRange
  | invalidCodePoint
  | controlCharacter
  | keyMustBeString
  | loneLeadingSurrogate
  | trailingComma
  | trailingCharacters
  | unexpectedEndOfHexEscape
  | recursionLimit
  /-- A fault raised while shaping a value into a type, with its text. -/
  | shape (text : String)
  deriving DecidableEq, Inhabited

/-- The text of a reason. -/
def Reason.text : Reason → String
  | .eofList => "EOF while parsing a list"
  | .eofObject => "EOF while parsing an object"
  | .eofString => "EOF while parsing a string"
  | .eofValue => "EOF while parsing a value"
  | .expectedColon => "expected `:`"
  | .expectedListCommaOrEnd => "expected `,` or `]`"
  | .expectedObjectCommaOrEnd => "expected `,` or `\x7d`"
  | .expectedIdent => "expected ident"
  | .expectedValue => "expected value"
  | .invalidEscape => "invalid escape"
  | .invalidNumber => "invalid number"
  | .numberOutOfRange => "number out of range"
  | .invalidCodePoint => "invalid unicode code point"
  | .controlCharacter => "control character (\\u0000-\\u001F) found while parsing a string"
  | .keyMustBeString => "key must be a string"
  | .loneLeadingSurrogate => "lone leading surrogate in hex escape"
  | .trailingComma => "trailing comma"
  | .trailingCharacters => "trailing characters"
  | .unexpectedEndOfHexEscape => "unexpected end of hex escape"
  | .recursionLimit => "recursion limit exceeded"
  | .shape text => text

/-- A refusal: the reason and, once known, the byte index where reading stopped. -/
structure Fault where
  reason : Reason
  index : Option Nat
  deriving DecidableEq, Inhabited

namespace Fault

/-- A shaping fault with its text and no place yet. -/
def shape (text : String) : Fault := ⟨.shape text, none⟩

/-- Place an unplaced fault at `i`; a placed one keeps its place. -/
def atIfUnplaced (f : Fault) (i : Nat) : Fault :=
  match f.index with
  | some _ => f
  | none => { f with index := some i }

/-- Line and column of byte index `i` in a character list whose first byte is at `offset`:
`line` counts the newlines seen, `start` is the byte index after the last of them. -/
def lineAndStart (i : Nat) : List Char → Nat → Nat → Nat → Nat × Nat
  | [], _, line, start => (line, start)
  | c :: cs, offset, line, start =>
    if offset < i then
      if c = '\n' then lineAndStart i cs (offset + 1) (line + 1) (offset + 1)
      else lineAndStart i cs (offset + c.utf8Size) line start
    else (line, start)

/-- The line (from 1) and column (bytes from the line's start) of byte index `i` in `text`. -/
def position (text : String) (i : Nat) : Nat × Nat :=
  let (line, start) := lineAndStart i text.toList 0 1 0
  (line, i - start)

/-- The fault as text, placed in `text` when it has an index. -/
def render (f : Fault) (text : String) : String :=
  match f.index with
  | none => f.reason.text
  | some i =>
    let (line, col) := position text i
    f.reason.text ++ " at line " ++ toString line ++ " column " ++ toString col

/-- The fault's text without a place. -/
def message (f : Fault) : String := f.reason.text

example : (Fault.mk .expectedIdent (some 2)).render "this is not json" =
    "expected ident at line 1 column 2" := by decide
example : (Fault.mk .eofValue (some 3)).render "[\n1" =
    "EOF while parsing a value at line 2 column 1" := by
  decide

end Fault

end AgentLink.Json
