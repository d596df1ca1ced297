import AgentLink.Toml.Syntax
import AgentLink.Text.Utf8

/-!
# Reading TOML tokens

The reader walks the text as a `List Char`, keeping the byte offset of the next character and
the number of characters consumed. A parse step has three outcomes. It succeeds; it throws a
`Problem`, which ends the parse (the grammar has committed to a reading); or, for steps whose
name ends in `?`, it declines with `none` or a declined `Problem` and the caller tries
something else. A step that declines may have consumed characters; callers that try an
alternative restore the cursor themselves, so the place a declined step stopped at is the
place reported if nothing else applies.

A problem's text has up to three lines: `invalid <what>`, `expected <a>, <b>` and a cause.
This module reads whitespace, comments, line ends, the four kinds of strings, integers,
floats and date-times. Every loop takes the text's length in characters as fuel.
-/

namespace AgentLink.Toml

/-- The reader's place: the characters left, the byte offset of the first of them, how many
characters are behind it, and the length of the whole text in characters. -/
structure Cursor where
  rest : List Char
  pos : Nat
  taken : Nat
  size : Nat
  deriving Inhabited

/-- A reading step; a thrown problem ends the parse. -/
abbrev Parse := ExceptT Problem (StateM Cursor)

/-- The text of a problem: what was being read, what was expected, and the cause. -/
def describe (label : Option String) (expected : List String) (cause : Option String) : String :=
  let lines := (label.map ("invalid " ++ ·)).toList ++
    (if expected.isEmpty then [] else ["expected " ++ ", ".intercalate expected]) ++ cause.toList
  "\n".intercalate lines

/-- The text for a string-like value that is neither kind of string. -/
def notAStringText : String := describe (some "string") ["`\"`", "`'`"] none

/-- The cause for a date, time or code point outside its range. -/
def outOfRange : String := "value is out of range"

namespace Parse

/-- The characters left. -/
def rest : Parse (List Char) := do return (← get).rest

/-- The next character, not consumed. -/
def peek : Parse (Option Char) := do return (← get).rest.head?

/-- The byte offset of the next character. -/
def index : Parse Nat := do return (← get).pos

/-- The fuel for a loop over the text. -/
def fuel : Parse Nat := do return (← get).size + 1

/-- Consume one character. -/
def advance : Parse Unit :=
  modify fun c => match c.rest with
    | [] => c
    | ch :: more => { c with rest := more, pos := c.pos + ch.utf8Size, taken := c.taken + 1 }

/-- Consume `n` characters. -/
def advanceBy : Nat → Parse Unit
  | 0 => pure ()
  | n + 1 => do advance; advanceBy n

/-- Throw a problem at a byte offset. -/
def failAt {α : Type} (message : String) (offset : Nat) : Parse α :=
  throw ⟨message, some ⟨offset, offset + 1⟩⟩

/-- Throw a problem at the next character. -/
def failHere {α : Type} (message : String) : Parse α := do failAt message (← index)

/-- A declined problem at the next character. -/
def declineHere (message : String) : Parse Problem := do
  let i ← index
  return ⟨message, some ⟨i, i + 1⟩⟩

/-- The characters consumed since the cursor `c`. -/
def takenSince (c : Cursor) : Parse (List Char) := do
  return c.rest.take ((← get).taken - c.taken)

/-- Split off the leading characters that satisfy `p`, at most `limit` of them, with their
byte length. -/
def spanWhile (p : Char → Bool) :
    Nat → List Char → List Char → Nat → List Char × List Char × Nat
  | 0, acc, cs, n => (acc.reverse, cs, n)
  | limit + 1, acc, c :: cs, n =>
    if p c then spanWhile p limit (c :: acc) cs (n + c.utf8Size) else (acc.reverse, c :: cs, n)
  | _, acc, [], n => (acc.reverse, [], n)

/-- Consume at most `limit` leading characters that satisfy `p`. -/
def takeUpTo (limit : Nat) (p : Char → Bool) : Parse (List Char) := do
  let c ← get
  let (taken, more, n) := spanWhile p limit [] c.rest 0
  set { c with rest := more, pos := c.pos + n, taken := c.taken + taken.length }
  return taken

/-- Consume the leading characters that satisfy `p`. -/
def takeWhile (p : Char → Bool) : Parse (List Char) := do takeUpTo ((← get).size) p

/-- Whether the characters left start with `s`. -/
def startsWith (s : String) : Parse Bool := do return s.toList.isPrefixOf (← rest)

end Parse

open Parse

/-! ## Character classes -/

/-- Space or tab. -/
def isSpaceOrTab (c : Char) : Bool := c = ' ' || c = '\t'

/-- A character allowed in a comment. -/
def isCommentChar (c : Char) : Bool :=
  c = '\t' || (0x20 ≤ c.toNat && c.toNat ≤ 0x7E) || 0x80 ≤ c.toNat

/-- A character that stands for itself in a basic string. -/
def isBasicChar (c : Char) : Bool :=
  isSpaceOrTab c || c.toNat = 0x21 || (0x23 ≤ c.toNat && c.toNat ≤ 0x5B) ||
    (0x5D ≤ c.toNat && c.toNat ≤ 0x7E) || 0x80 ≤ c.toNat

/-- A character allowed in a literal string. -/
def isLiteralChar (c : Char) : Bool :=
  c = '\t' || (0x20 ≤ c.toNat && c.toNat ≤ 0x26) || (0x28 ≤ c.toNat && c.toNat ≤ 0x7E) ||
    0x80 ≤ c.toNat

/-- A character of a bare key. -/
def isBareKeyChar (c : Char) : Bool :=
  ('A' ≤ c && c ≤ 'Z') || ('a' ≤ c && c ≤ 'z') || ('0' ≤ c && c ≤ '9') || c = '-' ||
    c = '_'

/-- An ASCII digit. -/
def isDigit (c : Char) : Bool := '0' ≤ c && c ≤ '9'

/-- An ASCII hexadecimal digit. -/
def isHexDigit (c : Char) : Bool :=
  isDigit c || ('a' ≤ c && c ≤ 'f') || ('A' ≤ c && c ≤ 'F')

/-- The value of a hexadecimal digit. -/
def hexValue (c : Char) : Nat :=
  if isDigit c then c.toNat - 48
  else if 'a' ≤ c && c ≤ 'f' then c.toNat - 87
  else c.toNat - 55

/-- The number written by digits in a base, ignoring `_`. -/
def digitsValue (base : Nat) (cs : List Char) : Nat :=
  cs.foldl (fun acc c => if c = '_' then acc else acc * base + hexValue c) 0

/-! ## Whitespace, comments and line ends -/

/-- Skip spaces and tabs. -/
def ws : Parse Unit := do let _ ← takeWhile isSpaceOrTab

/-- Read a comment, if one starts here. -/
def comment? : Parse Bool := do
  if (← peek) = some '#' then
    advance
    let _ ← takeWhile isCommentChar
    return true
  else return false

/-- Read a line feed or a carriage return and line feed, if one is here. -/
def newline? : Parse Bool := do
  match ← rest with
  | '\n' :: _ => advance; return true
  | '\r' :: '\n' :: _ => advanceBy 2; return true
  | _ => return false

/-- Read a line end: a newline, or nothing at the end of the text. -/
def lineEnding? : Parse Bool := do
  if ← newline? then return true
  return (← rest).isEmpty

/-- The rest of a line after a value or header: blanks, a comment, and the line end; `message`
is the problem when something else follows. -/
def lineTrailing (message : String) : Parse Unit := do
  ws
  let _ ← comment?
  unless ← lineEnding? do failHere message

/-- Read a line feed or a carriage return and line feed; otherwise decline, with the cursor
after the carriage return if one is here. -/
def newline : Parse (Except Problem Unit) := do
  match ← rest with
  | '\n' :: _ => advance; return .ok ()
  | '\r' :: '\n' :: _ => advanceBy 2; return .ok ()
  | '\r' :: _ => advance; return .error (← declineHere "")
  | _ => return .error (← declineHere "")

/-- Skip blanks, newlines and comments, as between the items of an array. A comment or a
carriage return that no line end follows declines, with the cursor where the line end was
looked for. -/
def wsCommentNewline : Nat → Parse (Except Problem Unit)
  | 0 => pure (.ok ())
  | n + 1 => do
    ws
    match ← peek with
    | some '#' =>
      let _ ← comment?
      match ← newline with
      | .ok () => wsCommentNewline n
      | .error p => return .error p
    | some '\n' | some '\r' =>
      match ← newline with
      | .ok () => wsCommentNewline n
      | .error p => return .error p
    | _ => return .ok ()

/-! ## Strings -/

/-- The problem text for an unknown escape. -/
def badEscapeText : String :=
  describe (some "escape sequence")
    ["`b`", "`f`", "`n`", "`r`", "`t`", "`u`", "`U`", "`\\`", "`\"`"] none

/-- Read the `n` hex digits of a `\u` or `\U` escape, the letter already consumed. -/
def hexEscape (n : Nat) (label : String) : Parse Char := do
  let start ← get
  let ds ← takeUpTo n isHexDigit
  if ds.length ≠ n then
    set start
    failAt (describe (some label) [] none) start.pos
  let v := digitsValue 16 ds
  if v < 0xD800 || (0xDFFF < v && v ≤ 0x10FFFF) then return Char.ofNat v
  else
    set start
    failAt (describe (some label) [] (some outOfRange)) start.pos

/-- Read an escape; the backslash is consumed and a character follows it. -/
def escape : Parse Char := do
  let i ← index
  let c ← peek
  advance
  match c with
  | some 'b' => return '\x08'
  | some 'f' => return '\x0c'
  | some 'n' => return '\n'
  | some 'r' => return '\r'
  | some 't' => return '\t'
  | some '\\' => return '\\'
  | some '"' => return '"'
  | some 'u' => hexEscape 4 "unicode 4-digit hex code"
  | some 'U' => hexEscape 8 "unicode 8-digit hex code"
  | _ => failAt badEscapeText (i + 1)

/-- The characters of a basic string up to where it stops, in reverse. -/
def basicChars : Nat → List Char → Parse (List Char)
  | 0, acc => pure acc
  | n + 1, acc => do
    match ← rest with
    | '\\' :: _ :: _ =>
      advance
      let e ← escape
      basicChars n (e :: acc)
    | c :: _ =>
      if isBasicChar c then
        let run ← takeWhile isBasicChar
        basicChars n (run.reverse ++ acc)
      else pure acc
    | [] => pure acc

/-- Read a basic string; the next character is its opening quote. -/
def basicString : Parse String := do
  advance
  let cs ← basicChars (← fuel) []
  if (← peek) = some '"' then
    advance
    return String.ofList cs.reverse
  else failHere (describe (some "basic string") [] none)

/-- Read a literal string; the next character is its opening apostrophe. -/
def literalString : Parse String := do
  advance
  let cs ← takeWhile isLiteralChar
  if (← peek) = some '\'' then
    advance
    return String.ofList cs
  else failHere (describe (some "literal string") [] none)

/-- Read a line-ending backslash and the blanks and newlines after it, once or more. -/
def escapedNewlines : Nat → Bool → Parse Bool
  | 0, any => pure any
  | n + 1, any => do
    let start ← get
    match ← rest with
    | '\\' :: _ =>
      advance
      ws
      if ← newline? then
        let _ ← blankLines n
        escapedNewlines n true
      else
        set start
        return any
    | _ => return any
where
  /-- Blanks and newlines after a newline. -/
  blankLines : Nat → Parse Unit
    | 0 => pure ()
    | k + 1 => do
      if ← newline? then blankLines k
      else if (← takeWhile isSpaceOrTab).isEmpty then pure ()
      else blankLines k

/-- One piece of a multi-line basic string's content, if one starts here: a run of plain
characters, line-ending backslashes (which stand for nothing), an escape, or a newline. -/
def mlBasicContent? : Parse (Option (List Char)) := do
  match ← rest with
  | c :: more =>
    if isBasicChar c then return some (← takeWhile isBasicChar)
    else if c = '\\' then
      if ← escapedNewlines (← fuel) false then return some []
      else if more.isEmpty then return none
      else
        advance
        return some [← escape]
    else if ← newline? then return some ['\n']
    else return none
  | [] => return none

/-- Content pieces, as many as follow, in reverse onto `acc`. -/
def mlBasicContents : Nat → List Char → Parse (List Char)
  | 0, acc => pure acc
  | n + 1, acc => do
    match ← mlBasicContent? with
    | some cs => mlBasicContents n (cs.reverse ++ acc)
    | none => pure acc

/-- One or two quotes followed by something `term` accepts, consumed. -/
def quotesBefore (q : Char) (term : List Char → Bool) : Parse (Option (List Char)) := do
  match ← rest with
  | a :: b :: more =>
    if a = q && b = q && term more then advanceBy 2; return some [q, q]
    else if a = q && term (b :: more) then advance; return some [q]
    else return none
  | [a] => if a = q && term [] then advance; return some [q] else return none
  | [] => return none

/-- Whether a character follows and is not `q`. -/
def otherThan (q : Char) : List Char → Bool
  | c :: _ => c ≠ q
  | [] => false

/-- Whether three `q` follow. -/
def tripleAhead (q : Char) (cs : List Char) : Bool := [q, q, q].isPrefixOf cs

/-- The body of a multi-line basic string after its first content, in reverse onto `acc`:
runs of one or two quotes each followed by content. Quotes that no content follows end the
body, consumed. -/
def mlBasicQuoted : Nat → List Char → Parse (List Char)
  | 0, acc => pure acc
  | n + 1, acc => do
    match ← quotesBefore '"' (otherThan '"') with
    | some qs =>
      match ← mlBasicContent? with
      | some cs =>
        let acc ← mlBasicContents n (cs.reverse ++ qs ++ acc)
        mlBasicQuoted n acc
      | none => pure acc
    | none => pure acc

/-- Read a multi-line basic string; the next characters are its three opening quotes. -/
def mlBasicString : Parse String := do
  advanceBy 3
  let _ ← newline?
  let f ← fuel
  let acc ← mlBasicContents f []
  let acc ← mlBasicQuoted f acc
  let acc := match ← quotesBefore '"' (tripleAhead '"') with
    | some qs => qs ++ acc
    | none => acc
  if ← startsWith "\"\"\"" then
    advanceBy 3
    return String.ofList acc.reverse
  else failHere (describe (some "multiline basic string") [] none)

/-- One character of a multi-line literal string, if one is here; a newline reads as `\n`. -/
def mlLiteralContent? : Parse (Option Char) := do
  match ← rest with
  | c :: _ =>
    if isLiteralChar c then advance; return some c
    else if ← newline? then return some '\n'
    else return none
  | [] => return none

/-- Characters of a multi-line literal string, as many as follow, in reverse onto `acc`. -/
def mlLiteralContents : Nat → List Char → Parse (List Char)
  | 0, acc => pure acc
  | n + 1, acc => do
    match ← mlLiteralContent? with
    | some c => mlLiteralContents n (c :: acc)
    | none => pure acc

/-- Runs of one or two apostrophes each followed by content, in reverse onto `acc`;
apostrophes that no content follows are left for the closing delimiter. -/
def mlLiteralQuoted : Nat → List Char → Parse (List Char)
  | 0, acc => pure acc
  | n + 1, acc => do
    let start ← get
    match ← quotesBefore '\'' (otherThan '\'') with
    | some qs =>
      match ← mlLiteralContent? with
      | some c =>
        let acc ← mlLiteralContents n (c :: qs ++ acc)
        mlLiteralQuoted n acc
      | none => set start; pure acc
    | none => pure acc

/-- Read a multi-line literal string; the next characters are its three opening apostrophes. -/
def mlLiteralString : Parse String := do
  advanceBy 3
  let _ ← newline?
  let f ← fuel
  let acc ← mlLiteralContents f []
  let acc ← mlLiteralQuoted f acc
  let acc := match ← quotesBefore '\'' (tripleAhead '\'') with
    | some qs => qs ++ acc
    | none => acc
  if ← startsWith "'''" then
    advanceBy 3
    return String.ofList acc.reverse
  else failHere (describe (some "multiline literal string") [] none)

/-- Read a string value of any of the four kinds; the next character is a quote or an
apostrophe. -/
def stringValue : Parse String := do
  if ← startsWith "\"\"\"" then mlBasicString
  else if ← startsWith "\"" then basicString
  else if ← startsWith "'''" then mlLiteralString
  else literalString

end AgentLink.Toml
