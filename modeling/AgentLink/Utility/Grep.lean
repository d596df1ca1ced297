import AgentLink.Utility.RegexSyntax
import AgentLink.Utility.BaseName

/-!
# Searching lines for patterns

`grep PATTERNS [FILE]...` writes the lines of its files (the input without any) that match one
of its patterns. The patterns are the lines of `PATTERNS`, or of each `-e` argument and `-f`
file; they are read in the basic syntax, in the extended one with `-E`, or as fixed strings with
`-F`. Every pattern is checked before anything is read, and each error is reported; then the
warnings of the patterns come in order, up to a misplaced class, which stops the program.

A line is selected when some pattern matches in it (with `-i` ignoring case, with `-w` only as
a whole word, with `-x` only as the whole line), or with `-v` when none does. Selected lines are
written with the file name before them when there is more than one file (`-H`, `-h`), then the
line number (`-n`) and the byte offset (`-b`), each followed by `:`; with `-o` only the matching
parts are written, one a line. `-A`, `-B` and `-C` add lines of context, marked with `-`, and a
`--` line between groups that do not touch. `-m` stops a file after that many selected lines,
its trailing context still written. `-c` writes a count for each file instead, `-l` and `-L`
the names of the files with and without a selected line, and `-q` nothing, ending at the first
selected line.

A file holding a zero byte is binary: its lines are not written, and a selected line is
reported once on the diagnostics instead. The status is 0 when a line was selected, 1 when none
was, and 2 after an error, unless `-q` found a line.
-/

namespace AgentLink

/-- How patterns are read: in one of the two syntaxes, or as fixed strings. -/
inductive PatternKind where
  | basic
  | extended
  | fixed
  deriving DecidableEq

/-- What is done with a binary file: its matches reported, its lines read as text, or nothing
in it matched. -/
inductive BinaryFiles where
  | report
  | text
  | withoutMatch
  deriving DecidableEq

/-- A pattern, with the file and line it was read from when it came from a file. -/
structure PatternLine where
  text : List UInt8
  origin : Option (String × Nat)

/-- The settings of a search, as its options leave them. -/
structure GrepSettings where
  matcher : Option String := none
  patterns : List PatternLine := []
  patternsGiven : Bool := false
  ignoreCase : Bool := false
  invert : Bool := false
  words : Bool := false
  wholeLines : Bool := false
  count : Bool := false
  onlyMatching : Bool := false
  quiet : Bool := false
  silent : Bool := false
  lineNumbers : Bool := false
  byteOffsets : Bool := false
  nullAfterName : Bool := false
  nullData : Bool := false
  /-- `some true` for `-l`, `some false` for `-L`. -/
  listFiles : Option Bool := none
  withNames : Option Bool := none
  /-- No limit for `none`. -/
  maxCount : Option Nat := none
  before : Option Nat := none
  after : Option Nat := none
  context : Option Nat := none
  binary : BinaryFiles := .report
  label : String := "(standard input)"
  groupSeparator : Option String := some "--"
  skipDirectories : Bool := false

/-- The options of `grep`, the long ones in the order the option reader lists them. -/
def grepOptions : List ProgramOption :=
  [⟨some 'G', some "basic-regexp", .nothing, "G"⟩,
    ⟨some 'E', some "extended-regexp", .nothing, "E"⟩,
    ⟨none, some "fixed-regexp", .nothing, "F"⟩,
    ⟨some 'F', some "fixed-strings", .nothing, "F"⟩,
    ⟨some 'P', some "perl-regexp", .nothing, "P"⟩,
    ⟨some 'A', some "after-context", .argument, "A"⟩,
    ⟨some 'B', some "before-context", .argument, "B"⟩,
    ⟨none, some "binary-files", .argument, "binary-files"⟩,
    ⟨some 'b', some "byte-offset", .nothing, "b"⟩,
    ⟨some 'C', some "context", .argument, "C"⟩,
    ⟨none, some "color", .optional, "color"⟩,
    ⟨none, some "colour", .optional, "color"⟩,
    ⟨some 'c', some "count", .nothing, "c"⟩,
    ⟨some 'D', some "devices", .argument, "D"⟩,
    ⟨some 'd', some "directories", .argument, "d"⟩,
    ⟨none, some "dereference-recursive", .nothing, "R"⟩,
    ⟨none, some "exclude", .argument, "exclude"⟩,
    ⟨none, some "exclude-from", .argument, "exclude-from"⟩,
    ⟨none, some "exclude-dir", .argument, "exclude-dir"⟩,
    ⟨some 'f', some "file", .argument, "f"⟩,
    ⟨some 'l', some "files-with-matches", .nothing, "l"⟩,
    ⟨some 'L', some "files-without-match", .nothing, "L"⟩,
    ⟨none, some "group-separator", .argument, "group-separator"⟩,
    ⟨none, some "help", .nothing, "help"⟩,
    ⟨none, some "include", .argument, "include"⟩,
    ⟨some 'i', some "ignore-case", .nothing, "i"⟩,
    ⟨none, some "no-ignore-case", .nothing, "no-ignore-case"⟩,
    ⟨some 'T', some "initial-tab", .nothing, "T"⟩,
    ⟨none, some "label", .argument, "label"⟩,
    ⟨none, some "line-buffered", .nothing, "line-buffered"⟩,
    ⟨some 'n', some "line-number", .nothing, "n"⟩,
    ⟨some 'x', some "line-regexp", .nothing, "x"⟩,
    ⟨some 'm', some "max-count", .argument, "m"⟩,
    ⟨some 'h', some "no-filename", .nothing, "h"⟩,
    ⟨none, some "no-group-separator", .nothing, "no-group-separator"⟩,
    ⟨some 's', some "no-messages", .nothing, "s"⟩,
    ⟨some 'Z', some "null", .nothing, "Z"⟩,
    ⟨some 'z', some "null-data", .nothing, "z"⟩,
    ⟨some 'o', some "only-matching", .nothing, "o"⟩,
    ⟨some 'q', some "quiet", .nothing, "q"⟩,
    ⟨some 'r', some "recursive", .nothing, "r"⟩,
    ⟨some 'R', some "dereference-recursive", .nothing, "R"⟩,
    ⟨some 'e', some "regexp", .argument, "e"⟩,
    ⟨some 'v', some "invert-match", .nothing, "v"⟩,
    ⟨none, some "silent", .nothing, "q"⟩,
    ⟨some 'a', some "text", .nothing, "a"⟩,
    ⟨some 'U', some "binary", .nothing, "U"⟩,
    ⟨some 'u', some "unix-byte-offsets", .nothing, "u"⟩,
    ⟨some 'V', some "version", .nothing, "V"⟩,
    ⟨some 'H', some "with-filename", .nothing, "H"⟩,
    ⟨some 'w', some "word-regexp", .nothing, "w"⟩,
    ⟨some 'y', none, .nothing, "i"⟩,
    ⟨some 'I', none, .nothing, "I"⟩,
    ⟨some 'X', none, .argument, "X"⟩] ++
  ("0123456789".toList.map fun d => ⟨some d, none, .nothing, d.toString⟩)

/-- Read the words of `grep`'s arguments: the options of each option word, in order, and the
operands; reading stops at a word that is not a valid option, with the reason. -/
def readGrepWords : Nat → List String →
    List (List (String × String)) × List String × Option String
  | 0, _ => ([], [], none)
  | _, [] => ([], [], none)
  | _, "--" :: rest => ([], rest, none)
  | fuel + 1, a :: rest =>
    if a.startsWith "-" && a.length > 1 then
      match readOptionWord grepOptions a rest with
      | .error e => ([], [], some e)
      | .ok (given, rest') =>
        let (groups, operands, err) := readGrepWords fuel rest'
        (given :: groups, operands, err)
    else
      let (groups, operands, err) := readGrepWords fuel rest
      (groups, a :: operands, err)

/-- A whole argument read as a decimal integer, as the C library reads one: blanks, a sign and
digits, with nothing after them. -/
def readWholeInteger (s : String) : Option Int :=
  let cs := s.toList.dropWhile isCSpace
  let (neg, cs) := match cs with
    | '-' :: more => (true, more)
    | '+' :: more => (false, more)
    | _ => (false, cs)
  if cs.isEmpty || !cs.all Char.isDigit then none
  else
    let n : Nat := cs.foldl (fun n c => 10 * n + (c.toNat - 48)) 0
    some (if neg then -(n : Int) else n)

/-- A number of context lines. -/
def readContextLength (s : String) : Except String Nat :=
  match readWholeInteger s with
  | some v => if v ≥ 0 then .ok v.toNat else .error (s ++ ": invalid context length argument\n")
  | none => .error (s ++ ": invalid context length argument\n")

/-- Bytes cut at each `sep`, which is dropped: one piece more than there are separators. -/
def splitBytesAt (sep : UInt8) (bs : List UInt8) : List (List UInt8) :=
  let (done, cur) := bs.foldl (fun (done, cur) b =>
    if b = sep then (cur.reverse :: done, []) else (done, b :: cur)) ([], [])
  (cur.reverse :: done).reverse

/-- The value of an option that takes one of some words, any unambiguous prefix of one
accepted; or the message, with the usage lines after it. -/
def chooseArgument (option : String) (choices : List String) (usage value : String) :
    Except String String :=
  let listing := "Valid arguments are:" ++
    String.join (choices.map fun c => "\n  - '" ++ c ++ "'") ++ "\n" ++ usage
  if choices.contains value then .ok value
  else
    match choices.filter (·.startsWith value) with
    | [c] => .ok c
    | [] =>
      .error ("invalid argument " ++ quoteName value ++ " for '" ++ option ++ "'\n" ++ listing)
    | _ =>
      .error ("ambiguous argument " ++ quoteName value ++ " for '" ++ option ++ "'\n" ++ listing)

/-- The matchers `-X` knows. -/
def matcherNames : List String := ["grep", "egrep", "fgrep", "awk", "gawk", "posixawk", "perl"]

/-- Why the program stops before it searches: the message after its name, and the status. -/
structure GrepStop where
  text : String
  status : Nat

/-- The settings with matcher `m` chosen; another one chosen before is a conflict. -/
def GrepSettings.choose (s : GrepSettings) (m : String) : Except GrepStop GrepSettings :=
  if !matcherNames.contains m then .error ⟨"invalid matcher " ++ m ++ "\n", 2⟩
  else
    match s.matcher with
    | some old => if old = m then .ok s else .error ⟨"conflicting matchers specified\n", 2⟩
    | none => .ok { s with matcher := some m }

/-- The settings after one option; or the message that stops the program. -/
def GrepSettings.apply (s : GrepSettings) (source : String → Except IoError (List UInt8))
    (usage : String) (key value : String) : Except GrepStop GrepSettings :=
  match key with
  | "G" => s.choose "grep"
  | "E" => s.choose "egrep"
  | "F" => s.choose "fgrep"
  | "P" => s.choose "perl"
  | "X" => s.choose value
  | "A" => ((readContextLength value).mapError fun e => ⟨e, 2⟩).map fun n =>
    { s with after := some n }
  | "B" => ((readContextLength value).mapError fun e => ⟨e, 2⟩).map fun n =>
    { s with before := some n }
  | "C" => ((readContextLength value).mapError fun e => ⟨e, 2⟩).map fun n =>
    { s with context := some n }
  | "binary-files" =>
    if value = "binary" then .ok { s with binary := .report }
    else if value = "text" then .ok { s with binary := .text }
    else if value = "without-match" then .ok { s with binary := .withoutMatch }
    else .error ⟨"unknown binary-files type\n", 2⟩
  | "D" =>
    if value = "read" || value = "skip" then .ok s else .error ⟨"unknown devices method\n", 2⟩
  | "d" =>
    ((chooseArgument "--directories" ["read", "recurse", "skip"] usage value).mapError
      fun e => ⟨e, 1⟩).map fun c => { s with skipDirectories := c = "skip" }
  | "e" =>
    let lines := (splitBytesAt 10 (utf8Encode value)).map fun t => (⟨t, none⟩ : PatternLine)
    .ok { s with patterns := s.patterns ++ lines, patternsGiven := true }
  | "f" =>
    match source value with
    | .ok bs =>
      let lines := (textLines bs).zipIdx.map fun (t, i) => (⟨t, some (value, i + 1)⟩ : PatternLine)
      .ok { s with patterns := s.patterns ++ lines, patternsGiven := true }
    | .error e => .error ⟨value ++ ": " ++ e.reason ++ "\n", 2⟩
  | "b" => .ok { s with byteOffsets := true }
  | "c" => .ok { s with count := true }
  | "l" => .ok { s with listFiles := some true }
  | "L" => .ok { s with listFiles := some false }
  | "group-separator" => .ok { s with groupSeparator := some value }
  | "no-group-separator" => .ok { s with groupSeparator := none }
  | "i" => .ok { s with ignoreCase := true }
  | "no-ignore-case" => .ok { s with ignoreCase := false }
  | "label" => .ok { s with label := value }
  | "n" => .ok { s with lineNumbers := true }
  | "x" => .ok { s with wholeLines := true }
  | "m" =>
    match readWholeInteger value with
    | some v => .ok { s with maxCount := if v < 0 then none else some v.toNat }
    | none => .error ⟨"invalid max count\n", 2⟩
  | "h" => .ok { s with withNames := some false }
  | "H" => .ok { s with withNames := some true }
  | "s" => .ok { s with silent := true }
  | "Z" => .ok { s with nullAfterName := true }
  | "z" => .ok { s with nullData := true }
  | "o" => .ok { s with onlyMatching := true }
  | "q" => .ok { s with quiet := true }
  | "v" => .ok { s with invert := true }
  | "a" => .ok { s with binary := .text }
  | "I" => .ok { s with binary := .withoutMatch }
  | "w" => .ok { s with words := true }
  | _ => .ok s

/-- The settings after the options of one word. Digits in a row within one word make one
number of context lines. -/
def GrepSettings.applyWord (s : GrepSettings) (source : String → Except IoError (List UInt8))
    (usage : String) (given : List (String × String)) : Except GrepStop GrepSettings := do
  let digit (k : String) : Option Nat := match k.toList with
    | [c] => if c.isDigit then some (c.toNat - 48) else none
    | _ => none
  let withContext (s : GrepSettings) (n : Option Nat) : GrepSettings :=
    match n with
    | some n => { s with context := some n }
    | none => s
  let (s, number) ← given.foldlM (fun ((s, number) : GrepSettings × Option Nat) (k, v) =>
    match digit k with
    | some d => pure (s, some (10 * number.getD 0 + d))
    | none => do
      let s ← (withContext s number).apply source usage k v
      pure (s, none)) (s, none)
  pure (withContext s number)

/-! ## Matching lines -/

/-- A compiled search: the expressions that select lines and that find matches in them,
whether case is ignored, and whether a match must be a whole word or the whole line. -/
structure LineSearch where
  selecting : Regex
  finding : Regex
  fold : Bool
  words : Bool
  wholeLines : Bool

/-- Whether a match from `s` to `e` stands as a word: no word byte just before or just after. -/
def MatchInput.standsAlone (input : MatchInput) (s e : Nat) : Bool :=
  !input.wordBefore s && !input.wordAt e

/-- Whether a line has a match: one anywhere, one standing as a word, or one spanning it. -/
def LineSearch.matches (sr : LineSearch) (line : List UInt8) : Bool :=
  let r := if sr.finding.hasBackref then sr.finding else sr.selecting
  let input := r.subject line sr.fold
  let len := line.length
  if sr.wholeLines then (r.matchEnds input 0).contains len
  else
    (List.range (len + 1)).any fun s =>
      let ends := r.matchEnds input s
      if sr.words then ends.any fun e => input.standsAlone s e else !ends.isEmpty

/-- The first match in a line that starts at or after `start`: its start and end, the longest
at the leftmost start. For a word, the longest match at a start is tried first, then the
shorter nonempty ones, then the next start. -/
def LineSearch.find (sr : LineSearch) (line : List UInt8) (start : Nat) : Option (Nat × Nat) :=
  let r := sr.finding
  let input := r.subject line sr.fold
  let len := line.length
  if sr.wholeLines then
    if start = 0 && (r.matchEnds input 0).contains len then some (0, len) else none
  else
    ((List.range (len + 1 - start)).map (· + start)).findSome? fun s =>
      let ends := r.matchEnds input s
      if ends.isEmpty then none
      else
        let longest := ends.foldl max s
        if !sr.words then some (s, longest)
        else
          let tries := if longest = s then [s]
            else (ends.filter (· > s)).mergeSort fun a b => b ≤ a
          (tries.find? fun e => input.standsAlone s e).map fun e => (s, e)

/-- The nonempty matches of a line, each found after the end of the one before. -/
def LineSearch.allMatches (sr : LineSearch) (line : List UInt8) : Nat → Nat → List (Nat × Nat)
  | 0, _ => []
  | fuel + 1, cur =>
    if cur ≥ line.length then []
    else
      match sr.find line cur with
      | none => []
      | some (b, e) =>
        if e = b then sr.allMatches line fuel (b + 1)
        else (b, e) :: sr.allMatches line fuel e

/-! ## Writing a file's lines -/

/-- A line of a file: its bytes without the end, its number from one, and the offset of its
first byte in the file. -/
structure FileLine where
  bytes : List UInt8
  number : Nat
  offset : Nat

/-- The lines of a file ended by `eol`. -/
def fileLines (eol : UInt8) (content : List UInt8) : List FileLine :=
  let (lines, _, _) := (splitAfter eol content).foldl (fun (acc, n, off) p =>
    let body := if p.getLast? = some eol then p.dropLast else p
    ((⟨body, n + 1, off⟩ : FileLine) :: acc, n + 1, off + p.length)) ([], 0, 0)
  lines.reverse

/-- How the lines of one file are written. -/
structure LineWriter where
  search : LineSearch
  name : List UInt8
  showName : Bool
  nullAfterName : Bool
  lineNumbers : Bool
  byteOffsets : Bool
  onlyMatching : Bool
  invert : Bool
  eol : UInt8

/-- What comes before a line or a match: the file name, the line number and the offset, each
followed by `sep` (the name by a zero byte with `-Z`). -/
def LineWriter.head (w : LineWriter) (sep : UInt8) (number offset : Nat) : List UInt8 :=
  (if w.showName then w.name ++ [if w.nullAfterName then 0 else sep] else []) ++
  (if w.lineNumbers then utf8Encode (toString number) ++ [sep] else []) ++
  (if w.byteOffsets then utf8Encode (toString offset) ++ [sep] else [])

/-- A line as written, `sep` being `:` for a selected line and `-` for context; with `-o`, the
matches of a line that matches, each on a line of its own. -/
def LineWriter.line (w : LineWriter) (sep : UInt8) (l : FileLine) : List UInt8 :=
  if w.onlyMatching then
    if (sep = 58) != w.invert then
      let sep' : UInt8 := if w.invert then 45 else 58
      (w.search.allMatches l.bytes (l.bytes.length + 1) 0).flatMap fun (b, e) =>
        w.head sep' l.number (l.offset + b) ++ (l.bytes.drop b).take (e - b) ++ [w.eol]
    else []
  else w.head sep l.number l.offset ++ l.bytes ++ [w.eol]

/-- The state of writing a file: the output so far (last first), the lines selected, the lines
of trailing context still due, the index after the last line written, whether anything has
been written by the search at all, and whether the file is done. -/
structure ScanState where
  out : List (List UInt8)
  selected : Nat
  pending : Nat
  lastOut : Option Nat
  used : Bool
  stop : Bool

/-- How a file is scanned: the limits and context of the settings, whether lines are written
at all, and whether the file ends at its first selected line. -/
structure ScanRules where
  maxCount : Option Nat
  before : Option Nat
  after : Option Nat
  groupSeparator : Option String
  quietLines : Bool
  doneOnMatch : Bool

/-- The state after line `i` of a file. -/
def scanLine (rules : ScanRules) (w : LineWriter) (lines : Array FileLine) (st : ScanState)
    (i : Nat) : ScanState :=
  match lines[i]? with
  | none => st
  | some l =>
    if st.stop then st
    else if rules.maxCount == some st.selected then
      if st.pending > 0 then
        { st with out := w.line 45 l :: st.out, pending := st.pending - 1, lastOut := some (i + 1) }
      else { st with stop := true }
    else if w.search.matches l.bytes != w.invert then
      let st := if rules.quietLines then st
        else
          let first := max (st.lastOut.getD 0) (i - rules.before.getD 0)
          let contextOn := rules.before.isSome || rules.after.isSome
          let separator := match rules.groupSeparator with
            | some g =>
              if contextOn && st.used && st.lastOut != some first then [utf8Encode g ++ [10]]
              else []
            | none => []
          let leading := ((List.range (i - first)).filterMap fun k => lines[first + k]?).map
            (w.line 45)
          { st with out := (w.line 58 l :: leading.reverse) ++ separator ++ st.out }
      { st with
        selected := st.selected + 1, pending := if rules.quietLines then 0 else rules.after.getD 0,
        lastOut := some (i + 1), used := true, stop := rules.doneOnMatch }
    else if st.pending > 0 && !rules.quietLines then
      { st with out := w.line 45 l :: st.out, pending := st.pending - 1, lastOut := some (i + 1) }
    else st

/-! ## The program -/

/-- What searching the files gives so far: the writes (last first), whether anything has been
written by a search, whether a line was selected, whether an error was seen, and whether the
program has ended on a selected line. -/
structure GrepRun where
  emits : List Emit
  used : Bool
  matched : Bool
  failed : Bool
  finished : Bool

/-- Search one file, `shown` being its name in the output. -/
def GrepRun.searchFile (run : GrepRun) (name : String) (s : GrepSettings) (search : LineSearch)
    (showName : Bool) (shown : String) (content : List UInt8) : GrepRun :=
  let eol : UInt8 := if s.nullData then 0 else 10
  let binary := !s.nullData && s.binary != .text && content.contains 0
  if binary && s.binary = .withoutMatch then
    let listed := if s.listFiles = some false then [utf8Encode shown ++ [if s.nullAfterName
      then 0 else 10]] else []
    let counted := if s.count && s.listFiles.isNone && !s.quiet then
      [(if showName then utf8Encode shown ++ [if s.nullAfterName then 0 else 58] else []) ++
        utf8Encode "0\n"] else []
    { run with emits := (listed ++ counted).reverse.map Emit.out ++ run.emits }
  else
    let content := if binary then content.map fun b => if b = 0 then eol else b else content
    let lines := (fileLines eol content).toArray
    let w : LineWriter := ⟨search, utf8Encode shown, showName, s.nullAfterName, s.lineNumbers,
      s.byteOffsets, s.onlyMatching, s.invert, eol⟩
    let listing := s.quiet || s.listFiles.isSome
    let counting := s.count && !listing
    let rules : ScanRules := ⟨s.maxCount, s.before.orElse fun _ => s.context,
      s.after.orElse fun _ => s.context, s.groupSeparator, counting || listing || binary,
      listing || (binary && !counting)⟩
    let start : ScanState := ⟨[], 0, 0, none, run.used, false⟩
    let st := (List.range lines.size).foldl (scanLine rules w lines) start
    let nameBytes := utf8Encode shown
    let tail : List UInt8 :=
      if s.quiet then []
      else if s.listFiles = some true then
        if st.selected > 0 then nameBytes ++ [if s.nullAfterName then 0 else 10] else []
      else if s.listFiles = some false then
        if st.selected = 0 then nameBytes ++ [if s.nullAfterName then 0 else 10] else []
      else if counting then
        (if showName then nameBytes ++ [if s.nullAfterName then 0 else 58] else []) ++
          utf8Encode (toString st.selected ++ "\n")
      else []
    let written := st.out.reverse.flatten ++ tail
    let outs : List Emit := if written.isEmpty then [] else [.out written]
    let notice : List Emit :=
      if binary && !counting && !listing && st.selected > 0 then
        [.err (name ++ ": " ++ shown ++ ": binary file matches\n")]
      else []
    { run with
      emits := (outs ++ notice).reverse ++ run.emits, used := st.used,
      matched := run.matched || st.selected > 0, finished := s.quiet && st.selected > 0 }

/-- Search the next operand. -/
def GrepRun.operand (name : String) (s : GrepSettings) (search : LineSearch) (showName : Bool)
    (run : GrepRun) (operand : String × Except IoError (List UInt8)) : GrepRun :=
  let (o, got) := operand
  if run.finished then run
  else
    let shown := if o = "-" then s.label else o
    let complain (e : IoError) : GrepRun :=
      { run with
        failed := true,
        emits := if s.silent then run.emits
          else .err (name ++ ": " ++ shown ++ ": " ++ e.reason ++ "\n") :: run.emits }
    match got with
    | .ok content => run.searchFile name s search showName shown content
    | .error .isADirectory =>
      if s.skipDirectories then run
      else (complain .isADirectory).searchFile name s search showName shown []
    | .error e => complain e

/-- The operands `grep` reads: its pattern files and its files, `-` for the input. -/
def grepOperands (args : List String) : List String :=
  let (groups, operands, _) := readGrepWords (args.length + 1) args
  let given := groups.flatten
  let patternFiles := (given.filter (·.1 == "f")).map (·.2)
  let files := if given.any fun (k, _) => k = "e" || k = "f" then operands else operands.drop 1
  patternFiles ++ (if files.isEmpty then ["-"] else files)

/-- The diagnostics of the patterns that do not read, each after the file and line it came
from. -/
def patternErrors (name : String) (syn : PatternSyntax) (patterns : List PatternLine) :
    List Emit :=
  patterns.filterMap fun p =>
    match readPattern syn p.text with
    | .ok _ => none
    | .error e =>
      let place := match p.origin with
        | some (f, n) => f ++ ":" ++ toString n ++ ": "
        | none => ""
      some (.err (name ++ ": " ++ place ++ e ++ "\n"))

/-- The warnings of the patterns in order, up to a failure, which ends the program: the
diagnostics, and whether it ends. -/
def patternNotes (name : String) : List PatternNote → List Emit × Bool
  | [] => ([], false)
  | .warning t :: more =>
    let (es, stop) := patternNotes name more
    (.err (name ++ ": warning: " ++ t ++ "\n") :: es, stop)
  | .failure t :: _ => ([.err (name ++ ": " ++ t ++ "\n")], true)

/-- Patterns without repeats, the first of each kept. -/
def distinctPatterns (patterns : List PatternLine) : List PatternLine :=
  (patterns.foldl (fun (seen, kept) p =>
    if seen.contains p.text then (seen, kept) else (p.text :: seen, p :: kept)) ([], [])).2.reverse

/-- The settings with patterns ready to search: without repeats, and when none was given (as
from an empty pattern file) one empty pattern that matches every line, with the selection
inverted, so that no line is selected. -/
def GrepSettings.settle (s : GrepSettings) : GrepSettings :=
  if s.patterns.isEmpty then
    { s with patterns := [⟨[], none⟩], invert := !s.invert, words := false, wholeLines := false }
  else { s with patterns := distinctPatterns s.patterns }

/-- Whether the search surely selects nothing, so that no file needs reading: no line may be
selected, or the only pattern is empty and the selection inverted. Listing the files without a
selected line still needs them. -/
def GrepSettings.selectsNothing (s : GrepSettings) : Bool :=
  (s.maxCount == some 0 ||
    (s.patterns.all (·.text.isEmpty) && s.invert && !s.wholeLines && !s.words)) &&
  s.listFiles != some false

/-- The reading of each pattern, as fixed strings or in a syntax. -/
def readPatterns (kind : PatternKind) (patterns : List PatternLine) : List PatternReading :=
  let syn : PatternSyntax := if kind = .basic then .basic else .extended
  patterns.map fun p =>
    if kind = .fixed then ⟨literalRegex p.text, literalRegex p.text, []⟩
    else (readPattern syn p.text).toOption.getD ⟨.empty, .empty, []⟩

/-- Run `grep`. -/
def runGrep (name : String) (args : List String)
    (source : String → Except IoError (List UInt8)) : Outcome :=
  let short := baseName name ""
  let usage := "Usage: " ++ short ++ " [OPTION]... PATTERNS [FILE]...\n" ++ tryHelp short
  let (groups, operands, wrong) := readGrepWords (args.length + 1) args
  let applied := groups.foldlM (fun s g => s.applyWord source usage g) ({} : GrepSettings)
  match applied with
  | .error e => ⟨[.err (name ++ ": " ++ e.text)], e.status⟩
  | .ok s =>
    match wrong with
    | some e => ⟨[.err (name ++ ": " ++ e ++ "\n" ++ usage)], 2⟩
    | none =>
      let start : Option (GrepSettings × List String) :=
        if s.patternsGiven then some (s, operands)
        else match operands with
          | p :: files =>
            some ({ s with patterns := (splitBytesAt 10 (utf8Encode p)).map fun t => ⟨t, none⟩ },
              files)
          | [] => none
      match start with
      | none => ⟨[.err usage], 2⟩
      | some (s, files) =>
        let s := s.settle
        if s.selectsNothing then ⟨[], 1⟩
        else
          let kind : PatternKind := match s.matcher with
            | some "grep" | none => .basic
            | some "fgrep" => .fixed
            | _ => .extended
          let syn : PatternSyntax := if kind = .basic then .basic else .extended
          let errors := if kind = .fixed then [] else patternErrors name syn s.patterns
          if !errors.isEmpty then ⟨errors, 2⟩
          else
            let read := readPatterns kind s.patterns
            let (warnings, stop) := patternNotes name (read.flatMap (·.notes))
            if stop then ⟨warnings, 2⟩
            else
              let search : LineSearch := ⟨altOf (read.map (·.selecting)),
                altOf (read.map (·.finding)), s.ignoreCase, s.words, s.wholeLines⟩
              let files := if files.isEmpty then ["-"] else files
              let showName := s.withNames.getD (files.length > 1)
              let patternInput := groups.flatten.any fun (k, v) => k = "f" && namesInput v
              let run := (readInOrder patternInput source files).foldl
                (GrepRun.operand name s search showName) ⟨[], false, false, false, false⟩
              let status :=
                if run.finished then 0
                else if run.failed then 2
                else if run.matched then 0 else 1
              ⟨warnings ++ run.emits.reverse, status⟩

end AgentLink
