import AgentLink.Shell.Syntax

/-!
# Shell tokens

`tokenize` cuts command text into tokens, each with the line it ends on: words, operators
(`;`, `&`, `|`, `&&`, `||`, `;;`, `(`, `)`), redirection operators with an optional stream
number, line ends, and the end of the text. Blanks separate tokens, and `#` at the start of a
word begins a comment that runs to the end of the line.

Within a word, single quotes keep everything up to the next single quote, and a backslash
keeps the next character (a backslash before a line end joins the lines). Double quotes group
text in which `$` and backquotes still expand and a backslash escapes only `$`, a backquote,
`"`, `\` and a line end. `$` introduces a parameter (`$name`, `$1`, `$?`, `$$`, `$#`, `$@`,
`$*`, `$-`, `$!`, `${...}`), a command substitution `$(...)` or an arithmetic expansion
`$((...))`; before anything else it is itself.

A here-document's body is read from the line after its operator, up to a line that is its
delimiter (tabs first removed from each line for `<<-`); it is expanded like double-quoted
text unless a part of the delimiter was quoted. Text that ends inside quotes or a
substitution gives a token that reports the fault where the parser reaches it.
-/

namespace AgentLink.Shell

/-- A token of command text. -/
inductive Token where
  /-- A word; `plain` is its text when it is unquoted literal text, which may be a reserved
  word. -/
  | word (w : Word) (plain : Option String)
  /-- An operator. -/
  | op (s : String)
  /-- A redirection operator, with the stream number written before it. -/
  | redirect (fd : Option Nat) (s : String)
  | newline
  | eof
  /-- Text that cannot be read on: the parser reports `message`. -/
  | fault (message : String)
  deriving Inhabited

/-- Whether a character ends an unquoted word. -/
def isMeta (c : Char) : Bool :=
  c = ' ' || c = '\t' || c = '\n' || c = ';' || c = '&' || c = '|' || c = '(' || c = ')' ||
    c = '<' || c = '>'

/-- Whether a character may start a variable name. -/
def isNameStart (c : Char) : Bool := c.isAlpha || c = '_'

/-- Whether a character may stand in a variable name. -/
def isNameChar (c : Char) : Bool := c.isAlphanum || c = '_'

/-- Whether a text is a variable name. -/
def isName (s : String) : Bool :=
  match s.toList with
  | c :: rest => isNameStart c && rest.all isNameChar
  | [] => false

/-- A fault of a word: the message the parser reports. -/
abbrev Fault := String

/-- The text up to the parenthesis that closes one already open, and the characters after it;
quotes and escapes inside are skipped over. -/
def untilClose : Nat → Nat → List Char → List Char → Except Fault (List Char × List Char)
  | 0, _, _, _ => .error "end of file unexpected (expecting \")\")"
  | _ + 1, _, [], _ => .error "end of file unexpected (expecting \")\")"
  | fuel + 1, depth, c :: rest, acc =>
    match c, rest with
    | ')', _ =>
      if depth = 0 then .ok (acc.reverse, rest) else untilClose fuel (depth - 1) rest (c :: acc)
    | '(', _ => untilClose fuel (depth + 1) rest (c :: acc)
    | '\\', d :: more => untilClose fuel depth more (d :: c :: acc)
    | '\'', _ =>
      let body := rest.takeWhile (· ≠ '\'')
      let after := rest.dropWhile (· ≠ '\'')
      if after.isEmpty then .error "Unterminated quoted string"
      else untilClose fuel depth (after.drop 1) ('\'' :: body.reverse ++ c :: acc)
    | '"', _ =>
      match quotedSpan fuel rest [] with
      | some (body, after) => untilClose fuel depth after ('"' :: body.reverse ++ c :: acc)
      | none => .error "Unterminated quoted string"
    | _, _ => untilClose fuel depth rest (c :: acc)
where
  /-- The text of a double-quoted span up to its closing quote, and what follows. -/
  quotedSpan : Nat → List Char → List Char → Option (List Char × List Char)
    | 0, _, _ => none
    | _, [], _ => none
    | n + 1, c :: rest, acc =>
      match c, rest with
      | '"', _ => some (acc.reverse, rest)
      | '\\', d :: more => quotedSpan n more (d :: c :: acc)
      | _, _ => quotedSpan n rest (c :: acc)

/-- The text of an arithmetic expansion up to its closing `))`, and what follows. -/
def untilArithClose : Nat → Nat → List Char → List Char → Option (List Char × List Char)
  | 0, _, _, _ => none
  | _, _, [], _ => none
  | fuel + 1, depth, c :: rest, acc =>
    match c, rest with
    | ')', ')' :: more => if depth = 0 then some (acc.reverse, more)
      else untilArithClose fuel (depth - 1) (')' :: more) (c :: acc)
    | ')', _ => untilArithClose fuel (depth - 1) rest (c :: acc)
    | '(', _ => untilArithClose fuel (depth + 1) rest (c :: acc)
    | _, _ => untilArithClose fuel depth rest (c :: acc)

/-- The text between backquotes, with the backslashes that escape `$`, a backquote or `\`
removed, and what follows the closing backquote. -/
def untilBackquote : Nat → List Char → List Char → Option (List Char × List Char)
  | 0, _, _ => none
  | _, [], _ => none
  | fuel + 1, c :: rest, acc =>
    match c, rest with
    | '`', _ => some (acc.reverse, rest)
    | '\\', d :: more =>
      if d = '$' || d = '`' || d = '\\' then untilBackquote fuel more (d :: acc)
      else untilBackquote fuel more (d :: c :: acc)
    | _, _ => untilBackquote fuel rest (c :: acc)

/-- The special parameter a character names after `$`. -/
def specialParam (c : Char) : Option Param :=
  match c with
  | '?' => some .status
  | '$' => some .pid
  | '#' => some .count
  | '@' => some .all
  | '*' => some .joined
  | '-' => some .flags
  | '!' => some .lastJob
  | _ => if c.isDigit then some (.position (c.toNat - 48)) else none

/-- Where a run of parts ends: `plain` outside quotes (at a blank or operator), `quoted`
inside double quotes (at `"`), `brace` inside `${...}` (at `}`), `here` in a here-document
body (at the end of the text). -/
inductive Context where
  | plain
  | quoted
  | brace
  | here
  deriving DecidableEq

/-- Append a character to the parts, joining it to literal text of the same kind. -/
def pushChar (quoted : Bool) (c : Char) : List Part → List Part
  | .lit s :: rest =>
    if quoted then .quoted c.toString :: .lit s :: rest else .lit (s.push c) :: rest
  | .quoted s :: rest =>
    if quoted then .quoted (s.push c) :: rest else .lit c.toString :: .quoted s :: rest
  | parts => (if quoted then Part.quoted c.toString else Part.lit c.toString) :: parts

mutual

/-- The parts of text in context `ctx`, in reverse onto `acc`, and the characters from the one
that ends them (for `quoted`, after the closing quote). -/
def lexParts (ctx : Context) : Nat → List Char → List Part →
    Except Fault (List Part × List Char)
  | 0, _, _ => .error "end of file unexpected"
  | _ + 1, [], acc =>
    match ctx with
    | .quoted => .error "Unterminated quoted string"
    | .brace => .error "Missing '\x7d'"
    | _ => .ok (acc, [])
  | fuel + 1, c :: rest, acc =>
    let inText := ctx = .quoted || ctx = .here
    if ctx = .quoted && c = '"' then .ok (acc, rest)
    else if ctx = .brace && c = '}' then .ok (acc, c :: rest)
    else if ctx = .plain && isMeta c then .ok (acc, c :: rest)
    else match c, rest with
      | '\\', [] => .ok (pushChar inText '\\' acc, [])
      | '\\', '\n' :: more => lexParts ctx fuel more acc
      | '\\', d :: more =>
        if inText then
          if d = '$' || d = '`' || d = '\\' || (d = '"' && ctx = .quoted) then
            lexParts ctx fuel more (pushChar true d acc)
          else lexParts ctx fuel (d :: more) (pushChar true '\\' acc)
        else lexParts ctx fuel more (pushChar true d acc)
      | '\'', _ =>
        if inText then lexParts ctx fuel rest (pushChar true '\'' acc)
        else
          let body := rest.takeWhile (· ≠ '\'')
          let after := rest.dropWhile (· ≠ '\'')
          if after.isEmpty then .error "Unterminated quoted string"
          else lexParts ctx fuel (after.drop 1) (.quoted (String.ofList body) :: acc)
      | '"', _ =>
        if ctx = .here then lexParts ctx fuel rest (pushChar true '"' acc)
        else do
          let (inner, after) ← lexParts .quoted fuel rest []
          lexParts ctx fuel after (.group inner.reverse :: acc)
      | '`', _ =>
        match untilBackquote (rest.length + 1) rest [] with
        | some (body, after) => lexParts ctx fuel after (.command (String.ofList body) :: acc)
        | none => .error "EOF in backquote substitution"
      | '$', _ => do
        let (part, after) ← lexDollar fuel rest
        match part with
        | some p => lexParts ctx fuel after (p :: acc)
        | none => lexParts ctx fuel rest (pushChar inText '$' acc)
      | _, _ => lexParts ctx fuel rest (pushChar inText c acc)

/-- The expansion after a `$`, and the characters after it; none when the `$` is itself. -/
def lexDollar : Nat → List Char → Except Fault (Option Part × List Char)
  | 0, cs => .ok (none, cs)
  | fuel + 1, cs =>
    match cs with
    | '(' :: '(' :: rest =>
      match untilArithClose (rest.length + 1) 0 rest [] with
      | some (body, after) => .ok (some (.arith (String.ofList body)), after)
      | none => do
        let (body, after) ← untilClose (rest.length + 2) 0 ('(' :: rest) []
        .ok (some (.command (String.ofList body)), after)
    | '(' :: rest => do
      let (body, after) ← untilClose (rest.length + 1) 0 rest []
      .ok (some (.command (String.ofList body)), after)
    | '{' :: rest => lexBrace fuel rest
    | c :: rest =>
      if isNameStart c then
        let name := (c :: rest).takeWhile isNameChar
        .ok (some (.param (.name (String.ofList name)) .plain), (c :: rest).dropWhile isNameChar)
      else match specialParam c with
        | some p => .ok (some (.param p .plain), rest)
        | none => .ok (none, c :: rest)
    | [] => .ok (none, [])

/-- The expansion `${...}` after its opening brace, and the characters after the closing
brace. A malformed one still runs to its closing brace, and fails only when expanded. -/
def lexBrace : Nat → List Char → Except Fault (Option Part × List Char)
  | 0, _ => .error "Missing '\x7d'"
  | fuel + 1, cs =>
    let malformed (cs : List Char) : Except Fault (Option Part × List Char) :=
      if cs.isEmpty then .error "Missing '\x7d'"
      else do
        let (_, after) ← lexParts .brace fuel cs []
        match after with
        | '}' :: more => .ok (some .bad, more)
        | _ => .error "Missing '\x7d'"
    let (isLength, cs) := match cs with
      | '#' :: c :: more => if c = '}' then (false, cs) else (true, c :: more)
      | _ => (false, cs)
    let (param, rest) : Option Param × List Char := match cs with
      | c :: more =>
        if isNameStart c then
          (some (.name (String.ofList ((c :: more).takeWhile isNameChar))),
            (c :: more).dropWhile isNameChar)
        else if c.isDigit then
          (some (.position (decimal ((c :: more).takeWhile Char.isDigit))),
            (c :: more).dropWhile Char.isDigit)
        else ((specialParam c), more)
      | [] => (none, [])
    match param with
    | none => malformed cs
    | some p =>
      if isLength then
        match rest with
        | '}' :: after => .ok (some (.param p .length), after)
        | _ => malformed rest
      else
        let withWord (mk : List Part → ParamOp (List Part)) (cs : List Char) := do
          let (w, after) ← lexParts .brace fuel cs []
          match after with
          | '}' :: more => .ok (some (Part.param p (mk w.reverse)), more)
          | _ => .error "Missing '\x7d'"
        match rest with
        | '}' :: after => .ok (some (.param p .plain), after)
        | ':' :: '-' :: more => withWord (.orElse true) more
        | ':' :: '=' :: more => withWord (.assign true) more
        | ':' :: '?' :: more => withWord (.require true) more
        | ':' :: '+' :: more => withWord (.ifSet true) more
        | ':' :: '}' :: more => malformed more
        | '-' :: more => withWord (.orElse false) more
        | '=' :: more => withWord (.assign false) more
        | '?' :: more => withWord (.require false) more
        | '+' :: more => withWord (.ifSet false) more
        | '%' :: '%' :: more => withWord (.dropSuffix true) more
        | '%' :: more => withWord (.dropSuffix false) more
        | '#' :: '#' :: more => withWord (.dropPrefix true) more
        | '#' :: more => withWord (.dropPrefix false) more
        | _ => malformed rest
where
  decimal (ds : List Char) : Nat := ds.foldl (fun n d => 10 * n + (d.toNat - 48)) 0

end

/-- The text of a word when it is unquoted literal text. -/
def plainText : Word → Option String
  | [.lit s] => some s
  | _ => none

/-- The text a here-document's delimiter stands for, and whether its body expands: it does
not when a part of the delimiter is quoted. -/
def delimiterText (w : Word) : String × Bool :=
  let rec text : List Part → String
    | [] => ""
    | .lit s :: rest => s ++ text rest
    | .quoted s :: rest => s ++ text rest
    | .group ps :: rest => text ps ++ text rest
    | _ :: rest => text rest
  (text w, w.all fun | .lit _ => true | _ => false)

/-- The body of a here-document: the lines before the one equal to `delim` (each without its
leading tabs when `strip`), and the characters after that line. -/
def hereBody (delim : String) (strip : Bool) :
    Nat → List Char → List Char → List Char × List Char
  | 0, cs, acc => (acc.reverse, cs)
  | _, [], acc => (acc.reverse, [])
  | fuel + 1, cs, acc =>
    let line := cs.takeWhile (· ≠ '\n')
    let after := (cs.dropWhile (· ≠ '\n')).drop 1
    let line := if strip then line.dropWhile (· = '\t') else line
    if String.ofList line = delim then (acc.reverse, after)
    else hereBody delim strip fuel after ('\n' :: line.reverse ++ acc)

/-- A here-document waiting for its body: its delimiter, whether leading tabs go, and whether
the body expands. -/
structure PendingHere where
  delim : String
  strip : Bool
  expand : Bool

/-- Read the bodies of the pending here-documents from the text after a line end, in order;
the bodies and the text after them. -/
def readBodies : List PendingHere → List Char → List Word × List Char
  | [], cs => ([], cs)
  | h :: rest, cs =>
    let (body, after) := hereBody h.delim h.strip (cs.length + 1) cs []
    let word : Word :=
      if h.expand then
        match lexParts .here (body.length + 1) body [] with
        | .ok (parts, _) => parts.reverse
        | .error _ => [.quoted (String.ofList body)]
      else [.quoted (String.ofList body)]
    let (words, after) := readBodies rest after
    (word :: words, after)

/-- The redirection operator at the start of the characters, and the characters after it. -/
def redirectOp : List Char → Option (String × List Char)
  | '<' :: '<' :: '-' :: rest => some ("<<-", rest)
  | '<' :: '<' :: rest => some ("<<", rest)
  | '<' :: '&' :: rest => some ("<&", rest)
  | '<' :: '>' :: rest => some ("<>", rest)
  | '<' :: rest => some ("<", rest)
  | '>' :: '>' :: rest => some (">>", rest)
  | '>' :: '&' :: rest => some (">&", rest)
  | '>' :: '|' :: rest => some (">|", rest)
  | '>' :: rest => some (">", rest)
  | _ => none

/-- What the tokenizer has read: tokens with their lines (in reverse), the current line, the
here-documents waiting for the next line end, the bodies read, and whether the next word is a
here-document's delimiter (and for which operator). -/
structure Lexed where
  tokens : List (Token × Nat)
  line : Nat
  pending : List PendingHere
  bodies : List Word
  delimiterFor : Option String

/-- The number of line ends among characters. -/
def lineEnds (cs : List Char) : Nat := cs.countP (· = '\n')

/-- Cut characters into tokens onto `st`; the tokens (in order), each with the line it ends on,
and the here-document bodies in order of their operators. -/
def tokenizeFrom : Nat → List Char → Lexed → List (Token × Nat) × List Word
  | 0, _, st => ((st.tokens.reverse ++ [(.eof, st.line)]), st.bodies)
  | fuel + 1, cs, st =>
    let emit (t : Token) (st : Lexed) : Lexed := { st with tokens := (t, st.line) :: st.tokens }
    match cs with
    | [] => ((emit .eof st).tokens.reverse, st.bodies)
    | ' ' :: rest | '\t' :: rest => tokenizeFrom fuel rest st
    | '\\' :: '\n' :: rest => tokenizeFrom fuel rest { st with line := st.line + 1 }
    | '#' :: rest => tokenizeFrom fuel (rest.dropWhile (· ≠ '\n')) st
    | '\n' :: rest =>
      let (bodies, after) := readBodies st.pending.reverse rest
      let st := emit .newline st
      let line := st.line + 1 + lineEnds (rest.take (rest.length - after.length))
      tokenizeFrom fuel after { st with line, pending := [], bodies := st.bodies ++ bodies }
    | '&' :: '&' :: rest => tokenizeFrom fuel rest (emit (.op "&&") st)
    | '|' :: '|' :: rest => tokenizeFrom fuel rest (emit (.op "||") st)
    | ';' :: ';' :: rest => tokenizeFrom fuel rest (emit (.op ";;") st)
    | ';' :: rest => tokenizeFrom fuel rest (emit (.op ";") st)
    | '&' :: rest => tokenizeFrom fuel rest (emit (.op "&") st)
    | '|' :: rest => tokenizeFrom fuel rest (emit (.op "|") st)
    | '(' :: rest => tokenizeFrom fuel rest (emit (.op "(") st)
    | ')' :: rest => tokenizeFrom fuel rest (emit (.op ")") st)
    | c :: rest =>
      match redirectOp (c :: rest) with
      | some (op, after) =>
        let delim := if op = "<<" || op = "<<-" then some op else none
        tokenizeFrom fuel after { emit (.redirect none op) st with delimiterFor := delim }
      | none =>
        let digits := (c :: rest).takeWhile Char.isDigit
        let afterDigits := (c :: rest).dropWhile Char.isDigit
        match (if digits.isEmpty then none else redirectOp afterDigits) with
        | some (op, after) =>
          let fd := digits.foldl (fun n d => 10 * n + (d.toNat - 48)) 0
          let delim := if op = "<<" || op = "<<-" then some op else none
          tokenizeFrom fuel after { emit (.redirect (some fd) op) st with delimiterFor := delim }
        | none =>
          match lexParts .plain (rest.length + 2) (c :: rest) [] with
          | .error message => ((emit (.fault message) st).tokens.reverse, st.bodies)
          | .ok (parts, after) =>
            let w := parts.reverse
            let consumed := (c :: rest).length - after.length
            let st := { st with line := st.line + lineEnds ((c :: rest).take consumed) }
            let st := match st.delimiterFor with
              | some op =>
                let (text, expand) := delimiterText w
                { st with pending := ⟨text, op = "<<-", expand⟩ :: st.pending }
              | none => st
            tokenizeFrom fuel after { emit (.word w (plainText w)) st with delimiterFor := none }

/-- The tokens of a text, each with the line it ends on (from 1), ending with `eof` or a
fault, and the here-document bodies in order. -/
def tokenize (text : String) : List (Token × Nat) × List Word :=
  tokenizeFrom (text.length + 1) text.toList ⟨[], 1, [], [], none⟩

end AgentLink.Shell
