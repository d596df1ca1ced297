import AgentLink.Utility.Regex

/-!
# Reading patterns

A pattern is written in one of two syntaxes. In the basic syntax `\(`, `\)`, `\{`, `\}`, `\|`,
`\+` and `\?` are the operators, and the same characters without a backslash stand for
themselves; in the extended syntax it is the other way round. Both have `.`, bracket
expressions, `*`, the anchors `^` and `$`, the word operators `\<`, `\>`, `\b` and `\B`, the
classes `\w`, `\W`, `\s` and `\S`, and the back-references `\1` to `\9`; any other escaped
character stands for itself.

Where a repetition has nothing before it (at the start, after `(` or `|`, anchors aside), the
basic syntax reads `*` as itself, and the extended syntax repeats the empty string and warns.
In the basic syntax `^` is an anchor only at the start of the pattern, of a group or of an
alternative, and `$` only at the end of one; in the extended syntax both are anchors anywhere.
An interval `{m,n}` that is not well formed is, in the extended syntax, read as its characters.

The C library reads a repetition with nothing to repeat in its own way: it skips it in the
extended syntax (an interval only by its brace) and takes it as its characters in the basic
one, also just after an anchor, which it never repeats. Lines are selected by the first reading
and matches found within them by the second, so a pattern read gives both.

Errors carry the texts of the C library. A bracket expression such as `[:space:]`, well formed
but surely meant as a class, is noted apart: it is an error only once the whole pattern is
known to have no other.
-/

namespace AgentLink

/-- The two syntaxes of patterns. -/
inductive PatternSyntax where
  | basic
  | extended
  deriving DecidableEq

/-- A token of a pattern. -/
inductive PatternToken where
  /-- Something that matches by itself: a byte, a set, an anchor, a back-reference. -/
  | atom (r : Regex)
  | star
  | plus
  | question
  | interval (least : Nat) (most : Option Nat)
  | openGroup (index : Nat)
  | closeGroup
  | bar

/-- What reading a pattern notes beside its tokens: a warning, or a failure that only the
matcher sees (a bracket expression that looks like a misplaced class, or an interval the C
library skipped), which ends the program once the patterns are known to read. -/
inductive PatternNote where
  | warning (text : String)
  | failure (text : String)
  deriving DecidableEq

/-! ## Error texts -/

/-- The text of a bracket expression without its end. -/
def unmatchedBracketText : String := "Unmatched [, [^, [:, [., or [="

/-- The text of a range whose end comes before its start, or is a class. -/
def invalidRangeEndText : String := "Invalid range end"

/-- The text of a collating element of more than one character. -/
def invalidCollationText : String := "Invalid collation character"

/-- The text of an unknown class name. -/
def invalidClassNameText : String := "Invalid character class name"

/-- The text of a malformed interval. -/
def invalidIntervalText : String := "Invalid content of \\\x7b\\\x7d"

/-- The text of a misplaced class, `[:space:]` for `[[:space:]]`. -/
def confusingBracketText : String := "character class syntax is [[:space:]], not [:space:]"

/-! ## Bracket expressions -/

/-- A token inside a bracket expression. -/
inductive BracketToken where
  | close
  | hyphen
  | finish
  /-- `[.`, `[=` or `[:`, by the byte after the bracket. -/
  | opening (kind : UInt8)
  | plain (b : UInt8)
  deriving DecidableEq

/-- The next token inside a bracket expression, and the input after it. -/
def peekBracket : List UInt8 → BracketToken × List UInt8
  | [] => (.finish, [])
  | b :: rest =>
    if b = 91 then
      match rest with
      | k :: more => if k = 46 || k = 61 || k = 58 then (.opening k, more) else (.plain b, rest)
      | [] => (.plain b, rest)
    else if b = 93 then (.close, rest)
    else if b = 45 then (.hyphen, rest)
    else (.plain b, rest)

/-- An element of a bracket expression. -/
inductive BracketElement where
  | byte (b : UInt8)
  /-- `[.x.]` -/
  | symbol (name : List UInt8)
  /-- `[=x=]` -/
  | equivalent (name : List UInt8)
  /-- `[:name:]` -/
  | named (name : List UInt8)

/-- Read the name of a `[.`, `[=` or `[:` element up to `delim` and `]`: the name and the input
after it. Names are at most 32 bytes long. -/
def readBracketName (delim : UInt8) : Nat → List UInt8 → Except String (List UInt8 × List UInt8)
  | _, [] => .error unmatchedBracketText
  | i, ch :: rest =>
    if i ≥ 32 then .error unmatchedBracketText
    else
      match rest with
      | [] => .error unmatchedBracketText
      | next :: more =>
        if ch = delim && next = 93 then .ok ([], more)
        else (readBracketName delim (i + 1) rest).map fun (n, r) => (ch :: n, r)

/-- Read one element from its token: the element and the input after it. A `-` that is not
the first element stands for itself only just before the `]`. -/
def readBracketElement (tok : BracketToken) (rest : List UInt8) (acceptHyphen : Bool) :
    Except String (BracketElement × List UInt8) :=
  match tok with
  | .opening k => do
    let (name, more) ← readBracketName k 0 rest
    pure (if k = 46 then .symbol name else if k = 61 then .equivalent name else .named name, more)
  | .hyphen =>
    if !acceptHyphen && (peekBracket rest).1 != .close then .error invalidRangeEndText
    else .ok (.byte 45, rest)
  | .plain b => .ok (.byte b, rest)
  | .close => .ok (.byte 93, rest)
  | .finish => .error unmatchedBracketText

/-- Whether an element is a class or an equivalence class, which cannot end a range. -/
def BracketElement.isClassLike : BracketElement → Bool
  | .named _ | .equivalent _ => true
  | _ => false

/-- The ranges an element stands for alone. -/
def BracketElement.ranges : BracketElement → Except String (List (UInt8 × UInt8))
  | .byte b => .ok [(b, b)]
  | .symbol [c] | .equivalent [c] => .ok [(c, c)]
  | .symbol _ | .equivalent _ => .error invalidCollationText
  | .named name =>
    let n := String.ofList (name.map fun b => Char.ofNat b.toNat)
    if classNames.contains n then .ok (rangesOf (classBytes n)) else .error invalidClassNameText

/-- The byte an element stands for as the end of a range. -/
def BracketElement.endpoint : BracketElement → Except String UInt8
  | .byte b => .ok b
  | .symbol [c] => .ok c
  | .symbol _ => .error invalidCollationText
  | _ => .error invalidRangeEndText

/-- The range between two elements. -/
def bracketRange (a b : BracketElement) : Except String (UInt8 × UInt8) :=
  if a.isClassLike || b.isClassLike then .error invalidRangeEndText
  else do
    let lo ← a.endpoint
    let hi ← b.endpoint
    if lo > hi then .error invalidRangeEndText else pure (lo, hi)

/-- What shows a bracket expression like `[:space:]`: it starts and ends with `:`, holds some
other byte, and has no range and no class. -/
structure ColonWatch where
  startsColon : Bool
  endsColon : Bool
  hasOther : Bool
  hasConstruct : Bool

/-- The watch after an element written alone. -/
def ColonWatch.see (w : ColonWatch) : BracketElement → ColonWatch
  | .byte b => if b = 58 then { w with endsColon := true } else { w with hasOther := true }
  | _ => { w with hasConstruct := true }

/-- Whether the bracket expression looks like a misplaced class. -/
def ColonWatch.confusing (w : ColonWatch) : Bool :=
  w.startsColon && w.endsColon && w.hasOther && !w.hasConstruct

/-- Read the elements of a bracket expression from token `tok` on: its ranges, the input after
its `]`, and the watch. -/
def readBracketItems : Nat → Bool → BracketToken → List UInt8 → List (UInt8 × UInt8) →
    ColonWatch → Except String (List (UInt8 × UInt8) × List UInt8 × ColonWatch)
  | 0, _, _, _, _, _ => .error unmatchedBracketText
  | fuel + 1, first, tok, rest, acc, watch => do
    let watch := { watch with endsColon := false }
    let next (tok : BracketToken) (rest : List UInt8) (acc : List (UInt8 × UInt8))
        (watch : ColonWatch) :
        Except String (List (UInt8 × UInt8) × List UInt8 × ColonWatch) :=
      if tok = .finish then .error unmatchedBracketText
      else if tok = .close then .ok (acc, rest, watch)
      else readBracketItems fuel false tok rest acc watch
    let (start, r1) ← readBracketElement tok rest first
    let (tok2, r2) := peekBracket r1
    if start.isClassLike then
      let add ← start.ranges
      next tok2 r2 (acc ++ add) (watch.see start)
    else if tok2 = .finish then .error unmatchedBracketText
    else if tok2 = .hyphen then
      let (tok3, r3) := peekBracket r2
      if tok3 = .finish then .error unmatchedBracketText
      else if tok3 = .close then
        let add ← start.ranges
        readBracketItems fuel false (.plain 45) r2 (acc ++ add) (watch.see start)
      else
        let (fin, r4) ← readBracketElement tok3 r3 true
        let range ← bracketRange start fin
        let (tok5, r5) := peekBracket r4
        next tok5 r5 (acc ++ [range]) { watch with hasConstruct := true }
    else
      let add ← start.ranges
      next tok2 r2 (acc ++ add) (watch.see start)

/-- Read a bracket expression, given the input after its `[`: the set, the input after its
`]`, and whether it looks like a misplaced class. A complemented set never holds a newline. -/
def readBracket (rest : List UInt8) : Except String (ByteSet × List UInt8 × Bool) := do
  let invalid := "Invalid regular expression"
  let (tok, r) := peekBracket rest
  if tok = .finish then throw invalid
  let (negated, tok, r) ← if tok = .plain 94 then
      let (t2, r2) := peekBracket r
      if t2 = .finish then throw invalid else pure (true, t2, r2)
    else pure (false, tok, r)
  let body := if negated then rest.drop 1 else rest
  let watch : ColonWatch := ⟨body.head? = some 58, false, false, false⟩
  let tok := if tok = .close then .plain 93 else tok
  let (ranges, more, watch) ← readBracketItems (rest.length + 1) true tok r [] watch
  let set : ByteSet := if negated then ⟨(10, 10) :: ranges, true⟩ else ⟨ranges, false⟩
  pure (set, more, watch.confusing)

/-! ## Intervals -/

/-- A token inside an interval. -/
inductive IntervalToken where
  | close
  | comma
  | finish
  | digit (d : Nat)
  | other
  deriving DecidableEq

/-- The next token inside an interval, and the input after it. -/
def nextIntervalToken (basic : Bool) : List UInt8 → IntervalToken × List UInt8
  | [] => (.finish, [])
  | b :: rest =>
    if b = 92 then
      match rest with
      | [] => (.other, [])
      | c :: more => (if basic && c = 125 then .close else if c = 44 then .comma else .other, more)
    else if !basic && b = 125 then (.close, rest)
    else if b = 44 then (.comma, rest)
    else if 48 ≤ b && b ≤ 57 then (.digit (b.toNat - 48), rest)
    else (.other, rest)

/-- A number of an interval: none written, something other than digits, or a value (capped
just above the largest count). -/
inductive IntervalNumber where
  | absent
  | bad
  | value (n : Nat)
  deriving DecidableEq

/-- The largest count of an interval. -/
def largestRepeat : Nat := 32767

/-- Read a number of an interval up to a `,` or the closing brace: the number, what stopped it
and the input after that. -/
def fetchIntervalNumber (basic : Bool) : Nat → IntervalNumber → List UInt8 →
    IntervalNumber × IntervalToken × List UInt8
  | 0, _, rest => (.bad, .finish, rest)
  | fuel + 1, n, rest =>
    let (tok, more) := nextIntervalToken basic rest
    match tok with
    | .finish => (.bad, .finish, more)
    | .close | .comma => (n, tok, more)
    | .digit d =>
      let n' : IntervalNumber := match n with
        | .absent => .value d
        | .value v => .value (min (largestRepeat + 1) (10 * v + d))
        | .bad => .bad
      fetchIntervalNumber basic fuel n' more
    | .other => fetchIntervalNumber basic fuel .bad more

/-- How an interval reads: its bounds and the input after it, bounds past the largest count,
its characters as themselves, or an error. -/
inductive IntervalRead where
  | valid (least : Nat) (most : Option Nat) (rest : List UInt8)
  | tooBig (least : Nat) (most : Option Nat) (rest : List UInt8)
  | literal
  | error (text : String)

/-- Read an interval, given the input after its opening brace. `{n}` is `{n,n}`, `{,m}` is
`{0,m}` and `{n,}` has no upper bound. -/
def readInterval (basic : Bool) (input : List UInt8) : IntervalRead :=
  let fuel := input.length + 1
  let invalid (stop : IntervalToken) : IntervalRead :=
    if !basic then .literal
    else if stop = .finish then .error "Unmatched \\\x7b"
    else .error invalidIntervalText
  let check (lo : Nat) (hi : Option Nat) (stop : IntervalToken) (rest : List UInt8) :
      IntervalRead :=
    if stop != .close || (hi.map fun h => decide (lo > h)).getD false then
      .error invalidIntervalText
    else if hi.getD lo > largestRepeat then .tooBig lo hi rest
    else .valid lo hi rest
  let (first, stop1, r1) := fetchIntervalNumber basic fuel .absent input
  let afterComma (lo : Nat) : IntervalRead :=
    let (second, stop2, r2) := fetchIntervalNumber basic fuel .absent r1
    match second with
    | .bad => invalid stop2
    | .absent => check lo none stop2 r2
    | .value hi => check lo (some hi) stop2 r2
  match first, stop1 with
  | .absent, .comma => afterComma 0
  | .absent, _ => .error invalidIntervalText
  | .bad, _ => invalid stop1
  | .value v, .close => check v (some v) .close r1
  | .value v, .comma => afterComma v
  | .value _, _ => invalid stop1

/-! ## Tokens -/

/-- The state of reading a pattern. -/
structure LexState where
  /-- Only anchors and repetitions since the start, a `(` or a `|`. -/
  atStart : Bool
  /-- A repetition here would begin an expression of its own. -/
  freshExpr : Bool
  /-- The last token is the start, a `(` or a `|`. -/
  afterOpen : Bool
  /-- The groups open, innermost first. -/
  opened : List Nat
  /-- How many groups have been opened. -/
  groups : Nat
  /-- The groups closed. -/
  closed : List Nat
  /-- The tokens read, last first. -/
  tokens : List PatternToken
  /-- The tokens as the C library reads them, last first: they differ where a repetition has
  nothing to repeat. -/
  libTokens : List PatternToken
  /-- The notes, last first. -/
  notes : List PatternNote

/-- The state at the start of a pattern. -/
def LexState.initial : LexState := ⟨true, true, true, [], 0, [], [], [], []⟩

/-- The state with one more token. -/
def LexState.push (st : LexState) (t : PatternToken) : LexState :=
  { st with tokens := t :: st.tokens, libTokens := t :: st.libTokens }

/-- The state with one more note. -/
def LexState.note (st : LexState) (n : PatternNote) : LexState :=
  { st with notes := n :: st.notes }

/-- The state after something that matches by itself. -/
def LexState.atom (st : LexState) (r : Regex) : LexState :=
  { st.push (.atom r) with atStart := false, freshExpr := false, afterOpen := false }

/-- The state after a byte that stands for itself. -/
def LexState.literal (st : LexState) (b : UInt8) : LexState := st.atom (.bytes (.single b))

/-- The state after an anchor. -/
def LexState.anchor (st : LexState) (a : Anchor) : LexState :=
  { st.push (.atom (.anchor a)) with freshExpr := true, afterOpen := false }

/-- The state after a repetition written `text`, with `warning` noted when it has nothing to
repeat. Where it would begin an expression, the C library skips it in the extended syntax and
reads it as its characters in the basic one; an interval of the extended syntax is skipped only
by its brace, the rest being read as characters. -/
def LexState.repetition (st : LexState) (extended : Bool) (t : PatternToken) (warning : String)
    (text : List UInt8) : LexState :=
  let st := if st.atStart then st.note (.warning warning) else st
  let asText := text.map fun b => PatternToken.atom (.bytes (.single b))
  let (lib, fresh) :=
    if !st.freshExpr then (t :: st.libTokens, false)
    else if extended then
      match text with
      | 123 :: body => ((body.map fun b => PatternToken.atom (.bytes (.single b))).reverse ++
          st.libTokens, body.isEmpty)
      | _ => (st.libTokens, true)
    else (asText.reverse ++ st.libTokens, false)
  { st with
    tokens := t :: st.tokens, libTokens := lib, freshExpr := fresh, afterOpen := false }

/-- The state after an opening parenthesis. -/
def LexState.openGroup (st : LexState) : LexState :=
  let k := st.groups + 1
  { st.push (.openGroup k) with
    atStart := true, freshExpr := true, afterOpen := true, opened := k :: st.opened,
    groups := k }

/-- The state after a closing parenthesis. -/
def LexState.closeGroup (st : LexState) : LexState :=
  match st.opened with
  | k :: more =>
    { st.push .closeGroup with
      atStart := false, freshExpr := false, afterOpen := false, opened := more,
      closed := k :: st.closed }
  | [] => st

/-- The state after an alternation. -/
def LexState.bar (st : LexState) : LexState :=
  { st.push .bar with atStart := true, freshExpr := true, afterOpen := true }

/-- The state after a `{` that stands for itself; where it would begin an expression of the
extended syntax, the C library skips it instead. -/
def LexState.brace (st : LexState) (extended : Bool) : LexState :=
  if extended && st.freshExpr then
    { st with
      tokens := .atom (.bytes (.single 123)) :: st.tokens, atStart := false, afterOpen := false }
  else st.literal 123

/-- Read an interval, given the input after its opening brace. Where it would begin an
expression the C library does not read it as an interval, and the matcher alone refuses a
malformed one (in the basic syntax) or one past the largest count. -/
def lexInterval (syn : PatternSyntax) (st : LexState) (rest : List UInt8) :
    Except String (LexState × List UInt8) :=
  let basic := syn = .basic
  let warning := "\x7b...\x7d at start of expression"
  let interval (lo : Nat) (hi : Option Nat) (more : List UInt8) : LexState × List UInt8 :=
    let written := (rest.take (rest.length - more.length)).filter (· != 92)
    ({ st.repetition (!basic) (.interval lo hi) warning (123 :: written) with atStart := false },
      more)
  if basic && st.atStart then .ok (st.literal 123, rest)
  else
    match readInterval basic rest with
    | .valid lo hi more => .ok (interval lo hi more)
    | .tooBig lo hi more =>
      if !st.freshExpr then .error "Regular expression too big"
      else if hi.isNone then .ok (interval lo hi more)
      else
        let st := if st.atStart && !basic then st.note (.warning warning) else st
        .ok ((st.note (.failure "regular expression too big")).brace (!basic), rest)
    | .literal => .ok (st.brace (!basic), rest)
    | .error e =>
      if !st.freshExpr then .error e
      else if basic then
        .ok ((st.note (.failure "invalid content of \\\x7b\\\x7d")).literal 123, rest)
      else .ok (st.brace true, rest)

/-- Whether a `$` of the basic syntax ends the pattern, a group or an alternative. -/
def dollarEnds (rest : List UInt8) : Bool :=
  rest.isEmpty || rest.take 2 == [92, 41] || rest.take 2 == [92, 124]

/-- Read a byte written without a backslash, given the input after it. -/
def lexPlain (syn : PatternSyntax) (st : LexState) (b : UInt8) (rest : List UInt8) :
    Except String (LexState × List UInt8) :=
  let ext := syn = .extended
  if b = 91 then do
    let (set, more, confusing) ← readBracket rest
    let st := if confusing then st.note (.failure confusingBracketText) else st
    pure (st.atom (.bytes set), more)
  else if b = 46 then .ok (st.atom (.bytes ⟨[], true⟩), rest)
  else if b = 42 then
    if st.atStart && !ext then .ok (st.literal b, rest)
    else .ok (st.repetition ext .star "* at start of expression" [b], rest)
  else if ext && b = 43 then .ok (st.repetition ext .plus "+ at start of expression" [b], rest)
  else if ext && b = 63 then
    .ok (st.repetition ext .question "? at start of expression" [b], rest)
  else if ext && b = 123 then lexInterval syn st rest
  else if ext && b = 124 then .ok (st.bar, rest)
  else if ext && b = 40 then .ok (st.openGroup, rest)
  else if ext && b = 41 && !st.opened.isEmpty then .ok (st.closeGroup, rest)
  else if b = 94 && (ext || st.afterOpen) then .ok (st.anchor .lineStart, rest)
  else if b = 36 && (ext || dollarEnds rest) then .ok (st.anchor .lineEnd, rest)
  else .ok (st.literal b, rest)

/-- Read the byte `c` after a backslash, given the input after it. -/
def lexEscaped (syn : PatternSyntax) (st : LexState) (c : UInt8) (more : List UInt8) :
    Except String (LexState × List UInt8) :=
  let basic := syn = .basic
  if c = 40 then .ok (if basic then st.openGroup else st.literal c, more)
  else if c = 41 then
    if !basic then .ok (st.literal c, more)
    else if st.opened.isEmpty then .error "Unmatched ) or \\)"
    else .ok (st.closeGroup, more)
  else if c = 124 then .ok (if basic then st.bar else st.literal c, more)
  else if c = 123 then if basic then lexInterval syn st more else .ok (st.literal c, more)
  else if basic && (c = 43 || c = 63) then
    if st.atStart then .ok (st.literal c, more)
    else .ok (st.repetition false (if c = 43 then .plus else .question) "" [c], more)
  else if 49 ≤ c && c ≤ 57 then
    let k := c.toNat - 48
    if st.closed.contains k then .ok (st.atom (.backref k), more)
    else .error "Invalid back reference"
  else if c = 119 then .ok (st.atom (.bytes wordBytes), more)
  else if c = 87 then .ok (st.atom (.bytes wordBytes.complement), more)
  else if c = 115 then .ok (st.atom (.bytes (.ofClass "space")), more)
  else if c = 83 then .ok (st.atom (.bytes (ByteSet.ofClass "space").complement), more)
  else if c = 98 then .ok (st.anchor .wordEdge, more)
  else if c = 66 then .ok (st.anchor .notWordEdge, more)
  else if c = 60 then .ok (st.anchor .wordStart, more)
  else if c = 62 then .ok (st.anchor .wordEnd, more)
  else if c = 96 then .ok (st.anchor .lineStart, more)
  else if c = 39 then .ok (st.anchor .lineEnd, more)
  else .ok (st.literal c, more)

/-- Read the tokens of a pattern; each step reads at least one byte, so `fuel` above the
length suffices. -/
def lexPattern (syn : PatternSyntax) : Nat → List UInt8 → LexState → Except String LexState
  | 0, _, st => .ok st
  | _, [], st => .ok st
  | fuel + 1, b :: rest, st => do
    let (st, more) ← if b = 92 then
        match rest with
        | [] => throw "Trailing backslash"
        | c :: more => lexEscaped syn st c more
      else lexPlain syn st b rest
    lexPattern syn fuel more st

/-! ## Expressions from tokens -/

/-- A group being read: its index (zero for the whole pattern), its finished alternatives and
the pieces of the current one, each last first. -/
structure GroupFrame where
  index : Nat
  branches : List Regex
  pieces : List Regex

/-- The expression of a finished group. -/
def GroupFrame.result (f : GroupFrame) : Regex :=
  altOf (seqOf f.pieces.reverse :: f.branches).reverse

/-- The frame with one more piece. -/
def GroupFrame.add (f : GroupFrame) (r : Regex) : GroupFrame := { f with pieces := r :: f.pieces }

/-- The frame with its last piece repeated; with no piece, the empty string is repeated. -/
def GroupFrame.repeatLast (f : GroupFrame) (wrap : Regex → Regex) : GroupFrame :=
  match f.pieces with
  | p :: ps => { f with pieces := wrap p :: ps }
  | [] => { f with pieces := [wrap .empty] }

/-- The frames, innermost first, after one more token. -/
def buildStep (stack : List GroupFrame) (t : PatternToken) : List GroupFrame :=
  match stack with
  | [] => []
  | f :: outer =>
    match t with
    | .atom r => f.add r :: outer
    | .star => f.repeatLast (fun r => .counted r 0 none) :: outer
    | .plus => f.repeatLast (fun r => .counted r 1 none) :: outer
    | .question => f.repeatLast (fun r => .counted r 0 (some 1)) :: outer
    | .interval lo hi => f.repeatLast (fun r => .counted r lo hi) :: outer
    | .openGroup k => ⟨k, [], []⟩ :: f :: outer
    | .closeGroup =>
      match outer with
      | g :: rest => g.add (.group f.index f.result) :: rest
      | [] => stack
    | .bar => { f with branches := seqOf f.pieces.reverse :: f.branches, pieces := [] } :: outer

/-- The expression the tokens of a whole pattern build. -/
def buildRegex (tokens : List PatternToken) : Regex :=
  match tokens.foldl buildStep [⟨0, [], []⟩] with
  | f :: _ => f.result
  | [] => .empty

/-- A pattern read: the expression that selects lines, the one that finds where a line
matches (as the C library reads the pattern), and the notes. -/
structure PatternReading where
  selecting : Regex
  finding : Regex
  notes : List PatternNote

/-- Read a pattern, or give the error that stops it. -/
def readPattern (syn : PatternSyntax) (pattern : List UInt8) : Except String PatternReading := do
  let st ← lexPattern syn (pattern.length + 1) pattern LexState.initial
  if !st.opened.isEmpty then throw "Unmatched ( or \\("
  pure ⟨buildRegex st.tokens.reverse, buildRegex st.libTokens.reverse, st.notes.reverse⟩

end AgentLink
