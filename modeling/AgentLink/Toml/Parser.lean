import AgentLink.Toml.Scalar
import AgentLink.Toml.Build

/-!
# Reading a TOML document

A document is lines of key/value pairs, headers, comments and blank lines, after an optional
byte order mark. A value is a string, a number or date-time, a boolean, `inf`/`nan`, an array
or an inline table; arrays and inline tables nest at most 80 deep (`value` counts the room
left). An array's items may be separated by newlines and comments and may end with a comma;
an inline table is one line of comma-separated pairs with no trailing comma.

Keys are dotted paths of bare or quoted simple keys, with blanks around each. A failed item
after a comma (or a failed key part after a dot) is not consumed: the separator is left for
what follows, which then reports it.
-/

namespace AgentLink.Toml

open Parse

/-- The deepest nesting of arrays and inline tables, and the longest dotted key. -/
def nestingLimit : Nat := 80

/-- A simple key, if one starts here: bare, in double quotes, or in single quotes. -/
def simpleKey? : Parse (Option Key) := do
  let start ← get
  let quoted (read : Parse String) : Parse (Option Key) := do
    let name ← read
    return some ⟨name, String.ofList (← takenSince start), ⟨start.pos, ← index⟩⟩
  match ← peek with
  | some '"' => quoted basicString
  | some '\'' => quoted literalString
  | _ =>
    let run ← takeWhile isBareKeyChar
    if run.isEmpty then return none
    let name := String.ofList run
    return some ⟨name, name, ⟨start.pos, ← index⟩⟩

/-- Further dotted parts of a key, after the first, in reverse onto `acc`. -/
def dottedParts : Nat → List Key → Parse (List Key)
  | 0, acc => pure acc
  | n + 1, acc => do
    if (← peek) = some '.' then
      let save ← get
      advance
      ws
      match ← simpleKey? with
      | some k =>
        ws
        dottedParts n (k :: acc)
      | none =>
        set save
        pure acc
    else pure acc

/-- A dotted key, or a declined problem. -/
def keyPath? : Parse (Except Problem (List Key)) := do
  let start ← index
  ws
  match ← simpleKey? with
  | none => return .error (← declineHere (describe (some "key") [] none))
  | some k =>
    ws
    let keys := (← dottedParts (← fuel) [k]).reverse
    if nestingLimit ≤ keys.length then
      return .error ⟨"recursion limit exceeded", some ⟨start, start + 1⟩⟩
    return .ok keys

/-- An array item with the blanks, newlines and comments around it, if one is here; the
cursor is left where a declined item stopped. -/
def arrayItem (elem : Parse (Except Problem Item)) : Parse (Option Item) := do
  let .ok () ← wsCommentNewline (← fuel) | return none
  let .ok it ← elem | return none
  let .ok () ← wsCommentNewline (← fuel) | return none
  return some it

/-- Array items after the first, each after a comma, in reverse onto `acc`. -/
def arrayItems (elem : Parse (Except Problem Item)) : Nat → List Item → Parse (List Item)
  | 0, acc => pure acc
  | n + 1, acc => do
    if (← peek) = some ',' then
      let save ← get
      advance
      match ← arrayItem elem with
      | some it => arrayItems elem n (it :: acc)
      | none =>
        set save
        pure acc
    else pure acc

/-- Read an array whose items are read by `elem`; the next character is `[`. When no first
item reads, the blanks after the bracket are read again, and a comment or carriage return
there that no line end follows ends the parse, with no text. -/
def arrayWith (elem : Parse (Except Problem Item)) : Parse Item := do
  let start ← index
  advance
  let save ← get
  let items ← match ← arrayItem elem with
    | some first => do
      let items := (← arrayItems elem (← fuel) [first]).reverse
      if (← peek) = some ',' then advance
      pure items
    | none => do
      set save
      pure []
  if let .error p ← wsCommentNewline (← fuel) then throw p
  if (← peek) = some ']' then
    advance
    return .array items false (some ⟨start, ← index⟩)
  else failHere (describe (some "array") ["`]`"] none)

/-- A pair of an inline table, if a key is here: its dotted prefix, last key and value. -/
def inlinePair (elem : Parse (Except Problem Item)) : Parse (Option (List Key × Key × Item)) := do
  let save ← get
  match ← keyPath? with
  | .error _ =>
    set save
    return none
  | .ok keys =>
    if (← peek) ≠ some '=' then failHere (describe none ["`.`", "`=`"] none)
    advance
    ws
    match ← elem with
    | .error p => throw p
    | .ok v =>
      ws
      return some (keys.dropLast, keys.getLast?.getD default, v)

/-- Pairs after the first, each after a comma, in reverse onto `acc`. -/
def inlinePairs (elem : Parse (Except Problem Item)) :
    Nat → List (List Key × Key × Item) → Parse (List (List Key × Key × Item))
  | 0, acc => pure acc
  | n + 1, acc => do
    if (← peek) = some ',' then
      let save ← get
      advance
      match ← inlinePair elem with
      | some p => inlinePairs elem n (p :: acc)
      | none =>
        set save
        pure acc
    else pure acc

/-- Read an inline table whose values are read by `elem`; the next character is `{`. -/
def inlineWith (elem : Parse (Except Problem Item)) : Parse Item := do
  let start ← index
  advance
  let bodyAt ← index
  let pairs ← match ← inlinePair elem with
    | some p => do pure (← inlinePairs elem (← fuel) [p]).reverse
    | none => pure []
  ws
  let built := pairs.foldlM (fun t (p : List Key × Key × Item) => addInlinePair t p.1 p.2.1 p.2.2)
    (⟨.inline, [], none⟩ : Table)
  match built with
  | .error m => failAt m bodyAt
  | .ok t =>
    if (← peek) = some '}' then
      advance
      return .table .inline t.entries (some ⟨start, ← index⟩)
    else failHere (describe (some "inline table") ["`\x7d`"] none)

/-- A value starting with a sign or a digit: a date-time, a float or an integer. -/
def numberValue : Parse (Except Problem Item) := do
  let start ← get
  let done (mk : Span → Item) : Parse (Except Problem Item) := do
    return .ok (mk ⟨start.pos, ← index⟩)
  match ← datetime? with
  | some d => done (.datetime d.text)
  | none =>
    match ← float? with
    | some x => done (.float x)
    | none =>
      match ← integer? with
      | .ok i => done (.integer i)
      | .error p => return .error p

/-- A value, or a declined problem; `nested` reads the items of arrays and inline tables, or
is absent when they may not nest deeper. -/
def valueWith (nested : Option (Parse (Except Problem Item))) : Parse (Except Problem Item) := do
  let start ← get
  let done (mk : Span → Item) : Parse (Except Problem Item) := do
    return .ok (mk ⟨start.pos, ← index⟩)
  let word (w : String) (x : Span → Item) (committed : Bool) : Parse (Except Problem Item) := do
    if ← startsWith w then
      advanceBy w.length
      done x
    else if committed then failHere notAStringText
    else return .error (← declineHere notAStringText)
  match start.rest with
  | [] => return .error (← declineHere "")
  | c :: _ =>
    if c = '"' || c = '\'' then
      let s ← stringValue
      done (.string s)
    else if c = '[' || c = '{' then
      match nested with
      | none => failHere "recursion limit exceeded"
      | some elem => return .ok (← if c = '[' then arrayWith elem else inlineWith elem)
    else if c = '+' || c = '-' || isDigit c then numberValue
    else if c = '_' then
      return .error (← declineHere (describe (some "integer") ["leading digit"] none))
    else if c = '.' then
      return .error (← declineHere (describe (some floatLabel) ["leading digit"] none))
    else if c = 't' then word "true" (.boolean true) true
    else if c = 'f' then word "false" (.boolean false) true
    else if c = 'i' then word "inf" (.float (Binary64.infinity false)) false
    else if c = 'n' then word "nan" (.float quietNaN) false
    else return .error (← declineHere notAStringText)

/-- A value with `room` levels of arrays and inline tables left. -/
def value : Nat → Parse (Except Problem Item)
  | 0 => valueWith none
  | r + 1 => valueWith (some (value r))

/-- Read a `key = value` line and add it to the document. -/
def keyvalLine (b : Builder) : Parse Builder := do
  let start ← index
  let keys ← match ← keyPath? with
    | .ok ks => pure ks
    | .error p => throw p
  if (← peek) ≠ some '=' then failHere (describe none ["`.`", "`=`"] none)
  advance
  ws
  let v ← match ← value (nestingLimit - 1) with
    | .ok v => pure v
    | .error p => throw p
  lineTrailing (describe none ["newline", "`#`"] none)
  match b.keyval keys.dropLast (keys.getLast?.getD default) v with
  | .ok b => pure b
  | .error m => failAt m start

/-- Read a `[table]` or `[[array]]` header line and open its table. -/
def headerLine (b : Builder) : Parse Builder := do
  let start ← index
  let isArray ← startsWith "[["
  let label := some "table header"
  advanceBy (if isArray then 2 else 1)
  let keys ← match ← keyPath? with
    | .ok ks => pure ks
    | .error p =>
      if p.message = describe (some "key") [] none then throw p
      else throw { p with message := describe label [] (some p.message) }
  let close := if isArray then "]]" else "]"
  if ← startsWith close then advanceBy close.length
  else failHere (describe label ["`.`", "`" ++ close ++ "`"] none)
  let span : Span := ⟨start, ← index⟩
  lineTrailing (describe label ["newline", "`#`"] none)
  match (if isArray then b.openArrayTable keys span else b.openTable keys span) with
  | .ok b => pure b
  | .error m => failAt (describe label [] (some m)) start

/-- Read the lines of a document. -/
def lines : Nat → Builder → Parse Builder
  | 0, b => pure b
  | n + 1, b => do
    let next (b : Builder) : Parse Builder := do
      ws
      lines n b
    match ← rest with
    | [] => pure b
    | '#' :: _ =>
      let _ ← comment?
      unless ← lineEnding? do failHere ""
      next b
    | '[' :: _ => next (← headerLine b)
    | '\n' :: _ =>
      advance
      next b
    | '\r' :: '\n' :: _ =>
      advanceBy 2
      next b
    | '\r' :: _ => failHere ""
    | _ => next (← keyvalLine b)

/-- The range of the whole character whose bytes include offset `i`, or the empty range at
the end of the text. -/
def charSpan (bytes : List UInt8) (i : Nat) : Span :=
  let boundary (b : UInt8) : Bool := b < 0x80 || 0xC0 ≤ b
  if bytes.length ≤ i then ⟨i, i⟩
  else
    let before := (bytes.take (i + 1)).reverse
    let start := i - (before.findIdx? boundary).getD i
    let stop := match ((bytes.drop (i + 1)).findIdx? boundary) with
      | some k => i + 1 + k
      | none => bytes.length
    ⟨start, stop⟩

/-- Read a TOML document: its root table, or the problem that stopped the reading. The reader
places a problem at a byte; it is shown over the whole character there. -/
def parseDocument (text : String) : Except Problem Item :=
  let run : Parse Item := do
    if (← peek) = some '\uFEFF' then advance
    ws
    let b ← lines (← fuel) Builder.start
    match b.document with
    | .ok d => pure d
    | .error m => throw ⟨m, none⟩
  match (run.run.run ⟨text.toList, 0, 0, text.length⟩).1 with
  | .ok d => .ok d
  | .error p => .error { p with span := p.span.map fun s => charSpan (utf8Encode text) s.start }

end AgentLink.Toml
