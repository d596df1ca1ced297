import AgentLink.Shell.Parse
import AgentLink.Shell.State
import AgentLink.Shell.Pathname
import AgentLink.Shell.Arith
import AgentLink.Process.Signal
import AgentLink.Utility.Echo
import AgentLink.Utility.Printf
import AgentLink.Utility.Test

/-!
# Running shell commands

The shell runs its text one complete command at a time, each as soon as it is read. A simple
command expands its words (parameters, command substitutions, arithmetic, field splitting),
applies its redirections and runs a special built-in, a function, a built-in or a program, in
that order of lookup. Assignments before a special built-in stay; before anything else they
hold for that command only, and a program receives them in its environment.

A pipeline of several commands runs each as a process of its own, all at the same time, joined
by pipes; its status is that of the last. A subshell, a stage of such a pipeline, a command
substitution and a background job work on a copy of the shell's state. A failed expansion
ends the shell with status 2, a failed redirection fails its command with status 2, and with
`set -e` a failing command whose status nothing tests (`if`, `while`, `&&`, `||`, `!`) ends
the shell.

When the last command of a `-c` text is a program and no exit trap is set, the program takes
the shell's place (`Scope.exitAfter`): the shell ends as the program ends, by a signal too.

Diagnostics read `NAME: LINE: TEXT`, `NAME` being the shell's `$0`; while a built-in runs,
its name heads the text, and while `eval` or `.` runs text, theirs heads the diagnostics of
what runs in it that no other built-in makes.
-/

namespace AgentLink.Shell

open Concurrency

/-- How running a command ended. -/
inductive Flow where
  /-- Go on with the next command; the status is in the state. -/
  | next
  /-- The shell exits with this status. -/
  | exit (code : Nat)
  /-- The shell was ended by this signal. -/
  | signaled (signal : Nat)
  /-- `break n`. -/
  | breakOut (n : Nat)
  /-- `continue n`. -/
  | continueAt (n : Nat)
  /-- `return`; the status is in the state. -/
  | returned
  deriving Inhabited

/-- Whether the flow goes on with the next command. -/
def Flow.isNext : Flow → Bool
  | .next => true
  | _ => false

/-- The status a flow leaves. -/
def Flow.status (f : Flow) (st : State) : Nat :=
  match f with
  | .exit code => code % 256
  | .signaled n => 128 + n
  | _ => st.status

/-- How a shell ends after a flow that left `st`. -/
def Flow.ending (f : Flow) (st : State) : Ending :=
  match f with
  | .exit code => .exited code
  | .signaled n => .signaled n
  | _ => .exited st.status

/-- Where a shell finds a program, for `command -v` and `type`: given the working directory,
the search path and a name, the path it is found at. -/
abbrev Finder := String → String → String → Option String

/-- What a running shell knows besides its state. -/
structure Scope where
  proc : Process
  /-- `$0`, which also heads its diagnostics. -/
  name : String
  launch : Launcher
  find : Finder
  /-- Lines before the text being run. -/
  lineBase : Nat
  inFunction : Bool
  /-- How many loops enclose the command. -/
  loops : Nat
  /-- Whether the command's status is tested, so that `set -e` lets it fail. -/
  checked : Bool
  /-- Whether the shell ends after the command, so that a program it runs takes its place. -/
  exitAfter : Bool
  /-- The built-in (`eval` or `.`) whose text is running, which heads diagnostics. -/
  commandName : Option String

/-- The built-in commands whose assignments stay and whose errors end the shell. -/
def isSpecialBuiltin (name : String) : Bool := specialBuiltins.contains name || name == "local"

/-- The other built-in commands. -/
def regularBuiltins : List String :=
  ["true", "false", "echo", "printf", "test", "[", "kill", "read", "cd", "pwd", "command",
    "type", "local", "wait", "umask"]

/-- Whether a name is a built-in command. -/
def isBuiltin (name : String) : Bool := isSpecialBuiltin name || regularBuiltins.contains name

namespace Scope

/-- Write a diagnostic for line `line`, headed by the name of the command that makes it. -/
def warnAs (sc : Scope) (st : State) (line : Nat) (command : Option String) (text : String) :
    Act Unit :=
  let head := match command with
    | some c => c ++ ": "
    | none => ""
  st.io.complain (sc.name ++ ": " ++ toString (sc.lineBase + line) ++ ": " ++ head ++ text ++ "\n")

/-- Write a diagnostic for line `line`. -/
def warn (sc : Scope) (st : State) (line : Nat) (text : String) : Act Unit :=
  sc.warnAs st line sc.commandName text

/-- Whether the agent process this shell belongs to has ended. -/
def rootEnded (sc : Scope) : Act Bool := Async.read (·.hasEnded sc.proc.child)

/-- `set -e`: the flow after a command that left the state's status. -/
def afterCommand (sc : Scope) (st : State) : Flow :=
  if st.errexit && !sc.checked && st.status != 0 then .exit st.status else .next

/-- The scope of a command that other commands follow; `checked` when its status is
tested. -/
def inner (sc : Scope) (checked : Bool) : Scope :=
  { sc with checked := sc.checked || checked, exitAfter := false }

end Scope

/-- The value of a parameter, none when unset. -/
def paramValue (sc : Scope) (st : State) : Param → Option String
  | .name n => st.lookup n
  | .position 0 => some sc.name
  | .position k => st.params[k - 1]?
  | .status => some (toString st.status)
  | .pid => some (toString sc.proc.pid)
  | .count => some (toString st.params.length)
  | .all | .joined => some (" ".intercalate st.params)
  | .flags => some ((if st.errexit then "e" else "") ++ (if st.nounset then "u" else ""))
  | .lastJob => st.lastJob.map toString

/-- How a diagnostic names a parameter. -/
def paramName : Param → String
  | .name n => n
  | .position k => toString k
  | .status => "?"
  | .pid => "$"
  | .count => "#"
  | .all => "@"
  | .joined => "*"
  | .flags => "-"
  | .lastJob => "!"

/-- Whether a value counts as missing: unset, or empty when `colon`. -/
def missing (colon : Bool) : Option String → Bool
  | none => true
  | some v => colon && v.isEmpty

/-- Whether parts hold `$@`, which makes no field from no parameters. -/
def holdsAll (ps : List Part) : Bool :=
  ps.any fun
    | .param .all .plain => true
    | _ => false

/-- The home directories of the machine's users. -/
def homeDirectories : List (String × String) := [("root", "/root")]

/-- The word with a leading `~` replaced by a home directory: `~` alone or before `/` by the
shell's own, `~NAME` by that user's. -/
def tildeWord (st : State) (w : Word) : Word :=
  match w with
  | .lit s :: rest =>
    if s.startsWith "~" then
      let user := ((s.drop 1).takeWhile (· ≠ '/')).toString
      let tail := (s.drop (1 + user.length)).toString
      let home := if user.isEmpty then st.lookup "HOME" else homeDirectories.lookup user
      let tailPart := if tail.isEmpty then [] else [Part.lit tail]
      match home with
      | some h => .quoted h :: tailPart ++ rest
      | none => w
    else w
  | _ => w

/-- The parts of arithmetic text, expanded as a here-document is. -/
def arithParts (text : String) : List Part :=
  match lexParts .here (text.length + 1) text.toList [] with
  | .ok (parts, _) => parts.reverse
  | .error _ => [.quoted text]

/-- Text with its trailing line ends removed. -/
def trimNewlines (s : String) : String := (s.dropEndWhile (· = '\n')).toString

/-- Text quoted for the shell to read back, a piece at a time: each run of characters other
than single quotes between single quotes (even an empty one, first), each run of single quotes
between double quotes. -/
def shellQuoteChars : Nat → List Char → String
  | 0, _ => ""
  | fuel + 1, cs =>
    let plain := cs.takeWhile (· ≠ '\'')
    let rest := cs.drop plain.length
    let quotes := rest.takeWhile (· = '\'')
    let after := rest.drop quotes.length
    "'" ++ String.ofList plain ++ "'" ++
      (if quotes.isEmpty then "" else "\"" ++ String.ofList quotes ++ "\"") ++
      (if after.isEmpty then "" else shellQuoteChars fuel after)

/-- Text quoted for the shell to read back. -/
def shellQuote (s : String) : String := shellQuoteChars (s.length + 1) s.toList

/-- The logical form of an absolute path: `.` and empty components dropped and `..` taking
off the one before. -/
def logicalPath (p : String) : String :=
  let parts := (p.splitOn "/").foldl (fun acc c =>
    if c = "" || c = "." then acc else if c = ".." then acc.dropLast else acc ++ [c]) []
  "/" ++ "/".intercalate parts

/-- The directory a process started by the shell works in: the shell's working directory
with its links resolved. -/
def Scope.physicalCwd (sc : Scope) (st : State) : String :=
  (sc.proc.files.resolve st.cwd).toOption.getD st.cwd

/-- Whether a path names a directory. -/
def isDirectory (files : FileSystem) (p : String) : Bool :=
  match files.resolve p with
  | .ok d =>
    match files.lookup ((pathParts d).filter (· ≠ "")) with
    | some .directory => true
    | _ => false
  | .error _ => false

/-- Set stream `fd` (0, 1 or 2) of the streams. -/
def setStream (io : Streams) (fd : Nat) (p : Option Nat) : Streams :=
  match fd with
  | 0 => { io with input := p }
  | 1 => { io with output := p }
  | 2 => { io with errors := p }
  | _ => io

/-- Stream `fd` (0, 1 or 2) of the streams. -/
def getStream (io : Streams) (fd : Nat) : Option Nat :=
  match fd with
  | 0 => io.input
  | 1 => io.output
  | _ => io.errors

/-- Whether a syntax error says that the text ended before a command did, so that more input
may complete it. -/
def isIncomplete (message : String) : Bool :=
  message.startsWith "end of file unexpected" || message == "Unterminated quoted string" ||
    message == "Missing '\x7d'" || message == "EOF in backquote substitution"

/-- Whether the command read from `before`, leaving `after`, ended at the end of the text
rather than at a line end. -/
def endsAtEof (before after : Cursor) : Bool :=
  let used := before.tokens.take (before.tokens.length - after.tokens.length)
  let atEnd : Bool := match after.tokens.head? with
    | some (.eof, _) => true
    | none => true
    | _ => false
  let byNewline : Bool := match used.getLast? with
    | some (.newline, _) => true
    | _ => false
  atEnd && !byNewline

/-- The value of a count argument (`exit`, `shift`, `break`): a decimal number from 0 to
2^31 - 1. -/
def countArg? (s : String) : Option Nat :=
  match readDecimal? s with
  | some v => if 0 ≤ v && v ≤ 2147483647 then some v.toNat else none
  | none => none

/-! ## Reading a line with `read` -/

/-- Whether a character of a line splits fields: a character of `IFS` that no backslash
protects. -/
def isSeparator (ifs : String) (c : Char × Bool) : Bool := !c.2 && ifs.contains c.1

/-- Whether a character of a line is a blank of `IFS`. -/
def isIfsBlank (ifs : String) (c : Char × Bool) : Bool :=
  isSeparator ifs c && (c.1 = ' ' || c.1 = '\t' || c.1 = '\n')

/-- The first field of a line that starts at a field, and the line from the next field on:
the separator after the field is one non-blank separator with blanks around it, or blanks. -/
def nextField (ifs : String) (cs : List (Char × Bool)) : Option (String × List (Char × Bool)) :=
  if cs.isEmpty then none
  else
    let field := cs.takeWhile fun c => !isSeparator ifs c
    let after := (cs.dropWhile fun c => !isSeparator ifs c).dropWhile (isIfsBlank ifs)
    let after := match after with
      | c :: more => if isSeparator ifs c then more.dropWhile (isIfsBlank ifs) else after
      | [] => []
    some (String.ofList (field.map (·.1)), after)

/-- The values of `n` variables read from a line that starts at a field: a field each, the
last taking the rest of the line without its trailing blanks when more fields remain, and the
empty text for variables beyond the fields. -/
def fieldValuesFor (ifs : String) : Nat → Nat → List (Char × Bool) → List String
  | 0, n, _ => List.replicate n ""
  | _, 0, _ => []
  | _ + 1, 1, cs =>
    match nextField ifs cs with
    | none => [""]
    | some (f, []) => [f]
    | some _ => [String.ofList ((cs.reverse.dropWhile (isIfsBlank ifs)).reverse.map (·.1))]
  | fuel + 1, n + 1, cs =>
    match nextField ifs cs with
    | none => List.replicate (n + 1) ""
    | some (f, after) => f :: fieldValuesFor ifs fuel n after

/-- The values of `n` variables read from a line. -/
def fieldValues (ifs : String) (n : Nat) (cs : List (Char × Bool)) : List String :=
  fieldValuesFor ifs (cs.length + 1) n (cs.dropWhile (isIfsBlank ifs))

/-- The characters of a line read without `-r`: a backslash keeps the next character from
splitting and is removed. -/
def unescapeRead : List Char → List (Char × Bool)
  | '\\' :: c :: rest => (c, true) :: unescapeRead rest
  | ['\\'] => []
  | c :: rest => (c, false) :: unescapeRead rest
  | [] => []

/-- Read a line for `read`: its text and whether the input ended before a line end. Without
`raw`, a backslash before the line end joins the next line. -/
def readLogicalLine (io : Streams) (raw : Bool) : Nat → String → Act (String × Bool)
  | 0, acc => pure (acc, true)
  | fuel + 1, acc => do
    match ← io.readLine taskFuel [] with
    | none => return (acc, true)
    | some (bytes, closed) =>
      let text := acc ++ utf8DecodeLossy bytes
      let trailing := (text.toList.reverse.takeWhile (· = '\\')).length
      if closed && !raw && trailing % 2 = 1 then
        readLogicalLine io raw fuel (text.dropEnd 1).toString
      else return (text, !closed)

/-! ## Built-ins that run no commands -/

/-- How `command -v` (or, `verbose`, `type`) describes a name, none when there is no such
command. -/
def describeCommand (sc : Scope) (st : State) (verbose : Bool) (name : String) :
    Option String :=
  let say (what : String) : String := if verbose then name ++ " is " ++ what else name
  if reserved.contains name then some (say "a shell keyword")
  else if isSpecialBuiltin name then some (say "a special shell builtin")
  else if (st.functions.lookup name).isSome then some (say "a shell function")
  else if isBuiltin name then some (say "a shell builtin")
  else
    match sc.find st.cwd ((st.lookup "PATH").getD "") name with
    | some p => some (if verbose then name ++ " is " ++ p else p)
    | none => none

/-- Run `command -v`, `command -V` or `type` on names; the status is 127 when one is not
found. -/
def lookupCommands (sc : Scope) (st : State) (verbose : Bool) (names : List String) :
    Act (Flow × State) := do
  let status ← names.foldlM (fun status n => do
    match describeCommand sc st verbose n with
    | some text =>
      st.io.say (text ++ "\n")
      pure status
    | none =>
      if verbose then st.io.say (n ++ ": not found\n")
      pure 127) 0
  return (.next, { st with status })

/-- Send signal `signal` to the processes `kill` names, one after another: the shell itself,
the agent process, the process group (`0` or a negative number), or a job. -/
def killTargets (sc : Scope) (line : Nat) (signal : Nat) :
    List String → Nat → State → Act (Flow × State)
  | [], status, st => pure (.next, { st with status })
  | t :: rest, status, st => do
    let complain (text : String) : Act Unit := sc.warnAs st line (some "kill") text
    let target : Except String (Option Nat × Bool) :=
      if t.startsWith "%" then
        let spec := (t.drop 1).toString
        let job := if spec = "%" || spec = "+" || spec.isEmpty then st.jobs.head?
          else (countArg? spec).bind fun k => st.jobs.reverse[k - 1]?
        match job with
        | some j => .ok (some (jobPid j), false)
        | none => .error ("No such job: " ++ t)
      else if t.startsWith "-" then
        match countArg? (t.drop 1).toString with
        | some _ => .ok (none, false)
        | none => .error ("Illegal number: " ++ t)
      else
        match countArg? t with
        | some 0 => .ok (none, true)
        | some n => .ok (some n, false)
        | none => .error ("Illegal number: " ++ t)
    match target with
    | .error e =>
      complain e
      return (.next, { st with status := 2 })
    | .ok (_, true) =>
      if signalEnds signal then
        Async.modify (·.endChild sc.proc.child .signal)
        return (.signaled signal, st)
      else killTargets sc line signal rest status st
    | .ok (none, false) =>
      complain "No such process\n"
      killTargets sc line signal rest 1 st
    | .ok (some pid, false) =>
      if pid = sc.proc.pid && signalEnds signal then
        if sc.proc.pid = sc.proc.rootPid then Async.modify (·.endChild sc.proc.child .signal)
        return (.signaled signal, st)
      else if pid = sc.proc.rootPid then
        if signalEnds signal then Async.modify (·.endChild sc.proc.child .signal)
        killTargets sc line signal rest status st
      else if pid = sc.proc.pid || pid = 1 then killTargets sc line signal rest status st
      else match st.jobs.find? (jobPid · == pid) with
        | some j => do
          if signalEnds signal then
            Async.modify fun m =>
              if (m.jobStatus j).isSome then m else m.endJob j (128 + signal)
          killTargets sc line signal rest status st
        | none =>
          complain "No such process\n"
          killTargets sc line signal rest 1 st

/-- Run `kill`: options `-s NAME`, `-NAME`, `-NUMBER` and `-l`, then the processes. -/
def killBuiltin (sc : Scope) (line : Nat) (args : List String) (st : State) :
    Act (Flow × State) := do
  let complain (text : String) : Act Unit := sc.warnAs st line (some "kill") text
  let parsed : Except String (Option Nat × Bool × List String) :=
    match args with
    | "-l" :: rest => .ok (none, true, rest)
    | "-s" :: name :: rest =>
      match signalNumber? name with
      | some n => .ok (some n, false, rest)
      | none => .error ("invalid signal number or name: " ++ name)
    | ["-s"] => .error "No arg for -s option"
    | "--" :: rest => .ok (none, false, rest)
    | a :: rest =>
      if a.startsWith "-" && a.length > 1 then
        match signalNumber? (a.drop 1).toString with
        | some n => .ok (some n, false, rest)
        | none => .error ("Illegal option " ++ (a.take 2).toString)
      else .ok (none, false, a :: rest)
    | [] => .ok (none, false, [])
  match parsed with
  | .error e =>
    complain e
    return (.next, { st with status := 2 })
  | .ok (_, true, targets) =>
    match targets with
    | [] =>
      st.io.say ("0\n" ++ String.join ((List.range 64).map fun k => signalLabel (k + 1) ++ "\n"))
      return (.next, { st with status := 0 })
    | t :: _ =>
      match (countArg? t).map fun k => if k > 128 then k - 128 else k with
      | some k =>
        if 0 < k && k < 65 then
          st.io.say (signalLabel k ++ "\n")
          return (.next, { st with status := 0 })
        else
          complain ("invalid signal number or exit status: " ++ t)
          return (.next, { st with status := 2 })
      | none =>
        complain ("Illegal number: " ++ t)
        return (.next, { st with status := 2 })
  | .ok (signal, false, targets) =>
    if targets.isEmpty then
      complain ("Usage: kill [-s sigspec | -signum | -sigspec] [pid | job]... or\n" ++
        "kill -l [exitstatus]")
      return (.next, { st with status := 2 })
    else killTargets sc line (signal.getD 15) targets 0 st

mutual

/-- Expand parts into pieces; `inGroup` inside double quotes, `inWord` in the word of a
parameter expansion, whose unquoted text is split as an expansion's is. -/
def expandParts (sc : Scope) : Nat → Bool → Bool → List Part → State →
    Act (Except String (List Piece) × State)
  | 0, _, _, _, st => pure (.ok [], st)
  | _, _, _, [], st => pure (.ok [], st)
  | fuel + 1, inGroup, inWord, p :: rest, st => do
    let (r, st) ← expandPart sc fuel inGroup inWord p st
    match r with
    | .error e => return (.error e, st)
    | .ok ps =>
      let (r2, st) ← expandParts sc fuel inGroup inWord rest st
      return (r2.map (ps ++ ·), st)

/-- Expand one part. -/
def expandPart (sc : Scope) : Nat → Bool → Bool → Part → State →
    Act (Except String (List Piece) × State)
  | 0, _, _, _, st => pure (.ok [], st)
  | fuel + 1, inGroup, inWord, p, st =>
    match p with
    | .lit s => pure (.ok [.text s inGroup (inWord && !inGroup)], st)
    | .quoted s => pure (.ok [.text s true false], st)
    | .bad => pure (.error "Bad substitution", st)
    | .group ps => do
      let (r, st) ← expandParts sc fuel true inWord ps st
      return (r.map fun pieces =>
        if holdsAll ps then pieces else .text "" true false :: pieces, st)
    | .param prm op => expandParam sc fuel inGroup prm op st
    | .command text => do
      let (out, st) ← substitute sc fuel text st
      return (.ok [.text out inGroup (!inGroup)], st)
    | .arith text => do
      let (r, st) ← expandParts sc fuel true false (arithParts text) st
      match r with
      | .error e => return (.error e, st)
      | .ok pieces =>
        let expr := joinPieces pieces
        match evalArith expr st.lookup with
        | .error msg =>
          return (.error ("arithmetic expression: " ++ msg ++ ": \"" ++ expr ++ "\""), st)
        | .ok (v, assigned) =>
          let st := assigned.foldl (fun st (n, x) => st.assign n (toString x) false) st
          return (.ok [.text (toString v) inGroup (!inGroup)], st)

/-- Expand a parameter with its operation. -/
def expandParam (sc : Scope) : Nat → Bool → Param → ParamOp (List Part) → State →
    Act (Except String (List Piece) × State)
  | 0, _, _, _, st => pure (.ok [], st)
  | fuel + 1, inGroup, prm, op, st => do
    let split := !inGroup
    let value := paramValue sc st prm
    let plain (v : String) : List Piece := [.text v inGroup split]
    let unsetError : Bool := match prm with
      | .name _ | .position _ => st.nounset && value.isNone
      | _ => false
    let notSet : Except String (List Piece) := .error (paramName prm ++ ": parameter not set")
    match prm, op with
    | .all, .plain =>
      return (.ok (List.intersperse .cut (st.params.map fun v => Piece.text v inGroup split)),
        st)
    | .joined, .plain =>
      if inGroup then
        let sep := (st.ifs.toList.head?.map Char.toString).getD ""
        return (.ok [.text (sep.intercalate st.params) true false], st)
      else
        return (.ok (List.intersperse .cut (st.params.map fun v => Piece.text v false true)),
          st)
    | _, .plain =>
      if unsetError then return (notSet, st)
      return (.ok (plain (value.getD "")), st)
    | _, .length =>
      if unsetError then return (notSet, st)
      return (.ok (plain (toString (value.getD "").length)), st)
    | _, .orElse colon w =>
      if missing colon value then expandParts sc fuel inGroup true w st
      else return (.ok (plain (value.getD "")), st)
    | _, .ifSet colon w =>
      if missing colon value then return (.ok [], st)
      else expandParts sc fuel inGroup true w st
    | _, .assign colon w =>
      if missing colon value then do
        let (r, st) ← expandParts sc fuel inGroup true w st
        match r, prm with
        | .error e, _ => return (.error e, st)
        | .ok pieces, .name n =>
          let v := joinPieces pieces
          return (.ok (plain v), st.assign n v false)
        | .ok _, _ => return (.error (paramName prm ++ ": bad variable name"), st)
      else return (.ok (plain (value.getD "")), st)
    | _, .require colon w =>
      if missing colon value then do
        let (r, st) ← expandParts sc fuel true false w st
        match r with
        | .error e => return (.error e, st)
        | .ok pieces =>
          let text :=
            if w.isEmpty then "parameter not set" ++ (if colon then " or null" else "")
            else joinPieces pieces
          return (.error (paramName prm ++ ": " ++ text), st)
      else return (.ok (plain (value.getD "")), st)
    | _, .dropSuffix longest w => do
      if unsetError then return (notSet, st)
      let (r, st) ← expandParts sc fuel false false w st
      return (r.map fun pieces =>
        plain (dropSuffix (patternOf pieces) longest (value.getD "")), st)
    | _, .dropPrefix longest w => do
      if unsetError then return (notSet, st)
      let (r, st) ← expandParts sc fuel false false w st
      return (r.map fun pieces =>
        plain (dropPrefix (patternOf pieces) longest (value.getD "")), st)

/-- Run text as a command substitution: its output without trailing line ends. -/
def substitute (sc : Scope) : Nat → String → State → Act (String × State)
  | 0, _, st => pure ("", st)
  | fuel + 1, text, st => do
    let p ← Async.modifyGet Memory.addPipe
    let sub := { sc with loops := 0, inFunction := false, checked := false, exitAfter := false }
    let (flow, st') ← runText sub fuel text { st with io := { st.io with output := some p } }
    closeWriter p
    let bytes ← Link.takeBytes p
    closeReader p
    let out := trimNewlines (utf8DecodeLossy bytes)
    return (out, { st with substituted := some (flow.status st') })

/-- Expand words into fields. -/
def expandWords (sc : Scope) : Nat → List Word → State →
    Act (Except String (List String) × State)
  | 0, _, st => pure (.ok [], st)
  | _, [], st => pure (.ok [], st)
  | fuel + 1, w :: ws, st => do
    let (r, st) ← expandParts sc fuel false false (tildeWord st w) st
    match r with
    | .error e => return (.error e, st)
    | .ok pieces =>
      let files := { sc.proc.files with cwd := st.cwd }
      let fs := (splitMarked st.ifs pieces).flatMap (expandPath files)
      let (r2, st) ← expandWords sc fuel ws st
      return (r2.map (fs ++ ·), st)

/-- Expand a word into one text, without splitting. -/
def expandText (sc : Scope) : Nat → Word → State → Act (Except String String × State)
  | 0, _, st => pure (.ok "", st)
  | fuel + 1, w, st => do
    let (r, st) ← expandParts sc fuel false false (tildeWord st w) st
    return (r.map joinPieces, st)

/-- Expand assignments into names and values. -/
def expandAssigns (sc : Scope) : Nat → List (String × Word) → State →
    Act (Except String (List (String × String)) × State)
  | 0, _, st => pure (.ok [], st)
  | _, [], st => pure (.ok [], st)
  | fuel + 1, (n, w) :: rest, st => do
    let (r, st) ← expandText sc fuel w st
    match r with
    | .error e => return (.error e, st)
    | .ok v =>
      let (r2, st) ← expandAssigns sc fuel rest st
      return (r2.map ((n, v) :: ·), st)

/-- Apply redirections to streams `io`: the streams, or the diagnostic. -/
def redirect (sc : Scope) : Nat → List Redirect → Streams → State →
    Act (Except String Streams × State)
  | 0, _, io, st => pure (.ok io, st)
  | _, [], io, st => pure (.ok io, st)
  | fuel + 1, r :: rest, io, st => do
    let files := { sc.proc.files with cwd := st.cwd }
    let step : Act (Except String Streams × State) := match r with
      | .toFile fd w _ => do
        let (t, st) ← expandText sc fuel w st
        match t with
        | .error e => pure (.error e, st)
        | .ok "/dev/null" => pure (.ok (setStream io fd none), st)
        | .ok "/dev/stdout" => pure (.ok (setStream io fd io.output), st)
        | .ok "/dev/stderr" => pure (.ok (setStream io fd io.errors), st)
        | .ok target =>
          let parent := (target.dropEndWhile (· ≠ '/')).toString
          if !parent.isEmpty && !isDirectory files parent then
            pure (.error ("cannot create " ++ target ++ ": Directory nonexistent"), st)
          else if isDirectory files target then
            pure (.error ("cannot create " ++ target ++ ": Is a directory"), st)
          else pure (.ok (setStream io fd none), st)
      | .fromFile fd w => do
        let (t, st) ← expandText sc fuel w st
        match t with
        | .error e => pure (.error e, st)
        | .ok "/dev/stdin" => pure (.ok io, st)
        | .ok "/dev/null" => pure (.ok (setStream io fd none), st)
        | .ok target =>
          match files.read target with
          | .ok bytes => do
            let p ← pipeOf bytes
            pure (.ok (setStream io fd (some p)), st)
          | .error _ => pure (.error ("cannot open " ++ target ++ ": No such file"), st)
      | .copy fd w => do
        let (t, st) ← expandText sc fuel w st
        match t with
        | .error e => pure (.error e, st)
        | .ok "-" => pure (.ok (setStream io fd none), st)
        | .ok target =>
          match countArg? target with
          | some k =>
            if k ≤ 2 then pure (.ok (setStream io fd (getStream io k)), st)
            else pure (.error (target ++ ": Bad file descriptor"), st)
          | none => pure (.error (target ++ ": Bad file descriptor"), st)
      | .here fd body => do
        let (t, st) ← expandParts sc fuel true false body st
        match t with
        | .error e => pure (.error e, st)
        | .ok pieces => do
          let p ← pipeOf (utf8Encode (joinPieces pieces))
          pure (.ok (setStream io fd (some p)), st)
    let (res, st) ← step
    match res with
    | .error e => return (.error e, st)
    | .ok io => redirect sc fuel rest io st

/-- Run a command. -/
def run (sc : Scope) : Nat → Command → State → Act (Flow × State)
  | 0, _, st => pure (.next, st)
  | fuel + 1, c, st => do
    if ← sc.rootEnded then return (.signaled 9, st)
    match c with
    | .simple assigns ws rs line => runSimple sc fuel assigns ws rs line st
    | .pipeline negate stages => runPipeline sc fuel negate stages st
    | .andThen a b => do
      let (f, st) ← run (sc.inner true) fuel a st
      if !f.isNext then return (f, st)
      if st.status == 0 then run sc fuel b st else return (.next, st)
    | .orElse a b => do
      let (f, st) ← run (sc.inner true) fuel a st
      if !f.isNext then return (f, st)
      if st.status != 0 then run sc fuel b st else return (.next, st)
    | .sequence cs => runSequence sc fuel cs st
    | .background body => do
      let job ← Async.modifyGet Memory.addJob
      let bg := { st with io := { st.io with input := none } }
      let jobScope := { sc.inner true with loops := 0 }
      Async.spawn (do
        let (f, st') ← run jobScope fuel body bg
        Async.modify (·.endJob job (f.status st')))
      return (.next,
        { st with jobs := job :: st.jobs, lastJob := some (jobPid job), status := 0 })
    | .subshell body => do
      let (f, st') ← run { sc with loops := 0, inFunction := false } fuel body st
      let st := { st with status := f.status st' }
      match f with
      | .signaled n => return (.signaled n, st)
      | _ => return (sc.afterCommand st, st)
    | .group body => run sc fuel body st
    | .forEach name items body => do
      let (r, st) ← match items with
        | some ws => expandWords sc fuel ws st
        | none => pure (.ok st.params, st)
      match r with
      | .error e =>
        sc.warn st 0 e
        return (.exit 2, st)
      | .ok values => runFor sc fuel name values body { st with status := 0 }
    | .loop negate test body => runLoop sc fuel negate test body 0 st
    | .cond test yes no => do
      let (f, st) ← run (sc.inner true) fuel test st
      if !f.isNext then return (f, st)
      if st.status == 0 then run sc fuel yes st
      else match no with
        | some other => run sc fuel other st
        | none => return (.next, { st with status := 0 })
    | .choose subject arms => do
      let (r, st) ← expandText sc fuel subject st
      match r with
      | .error e =>
        sc.warn st 0 e
        return (.exit 2, st)
      | .ok value => runArms sc fuel value arms { st with status := 0 }
    | .function name body =>
      return (.next, { st with functions := (name, body) :: st.functions.filter (·.1 != name),
                                status := 0 })
    | .redirected body rs => do
      let (r, st) ← redirect sc fuel rs st.io st
      match r with
      | .error e =>
        sc.warn st 0 e
        return (.next, { st with status := 2 })
      | .ok io =>
        let saved := st.io
        let (f, st) ← run (sc.inner false) fuel body { st with io }
        return (f, { st with io := saved })

/-- Run commands one after another while the flow goes on. -/
def runSequence (sc : Scope) : Nat → List Command → State → Act (Flow × State)
  | 0, _, st => pure (.next, st)
  | _, [], st => pure (.next, st)
  | fuel + 1, [c], st => run sc fuel c st
  | fuel + 1, c :: cs, st => do
    let (f, st) ← run (sc.inner false) fuel c st
    if f.isNext then runSequence sc fuel cs st else return (f, st)

/-- Run a `for` loop's body for each value. -/
def runFor (sc : Scope) : Nat → String → List String → Command → State →
    Act (Flow × State)
  | 0, _, _, _, st => pure (.next, st)
  | _, _, [], _, st => pure (.next, st)
  | fuel + 1, name, v :: vs, body, st => do
    let st := st.assign name v false
    let (f, st) ← run { sc.inner false with loops := sc.loops + 1 } fuel body st
    match f with
    | .next | .continueAt 1 => runFor sc fuel name vs body st
    | .breakOut 1 => return (.next, st)
    | .breakOut n => return (.breakOut (n - 1), st)
    | .continueAt n => return (.continueAt (n - 1), st)
    | other => return (other, st)

/-- Run a `while` loop (an `until` loop when `negate`); `last` is the status of the body's
last run. -/
def runLoop (sc : Scope) : Nat → Bool → Command → Command → Nat → State →
    Act (Flow × State)
  | 0, _, _, _, last, st => pure (.next, { st with status := last })
  | fuel + 1, negate, test, body, last, st => do
    let inLoop := { sc.inner false with loops := sc.loops + 1 }
    let (f, st) ← run { inLoop with checked := true } fuel test st
    match f with
    | .next =>
      if (st.status == 0) != negate then
        let (g, st) ← run inLoop fuel body st
        match g with
        | .next | .continueAt 1 => runLoop sc fuel negate test body st.status st
        | .breakOut 1 => return (.next, st)
        | .breakOut n => return (.breakOut (n - 1), st)
        | .continueAt n => return (.continueAt (n - 1), st)
        | other => return (other, st)
      else return (.next, { st with status := last })
    | .breakOut 1 => return (.next, st)
    | .breakOut n => return (.breakOut (n - 1), st)
    | .continueAt 1 => runLoop sc fuel negate test body last st
    | .continueAt n => return (.continueAt (n - 1), st)
    | other => return (other, st)

/-- Run the first arm of a `case` with a pattern that matches the value. -/
def runArms (sc : Scope) : Nat → String → List (List Word × Command) → State →
    Act (Flow × State)
  | 0, _, _, st => pure (.next, st)
  | _, _, [], st => pure (.next, st)
  | fuel + 1, value, (pats, body) :: rest, st => do
    let (r, st) ← anyMatches sc fuel value pats st
    match r with
    | .error e =>
      sc.warn st 0 e
      return (.exit 2, st)
    | .ok true => run sc fuel body st
    | .ok false => runArms sc fuel value rest st

/-- Whether one of the patterns matches the value. -/
def anyMatches (sc : Scope) : Nat → String → List Word → State →
    Act (Except String Bool × State)
  | 0, _, _, st => pure (.ok false, st)
  | _, _, [], st => pure (.ok false, st)
  | fuel + 1, value, w :: ws, st => do
    let (r, st) ← expandParts sc fuel false false (tildeWord st w) st
    match r with
    | .error e => return (.error e, st)
    | .ok pieces =>
      if Glob.matchText (patternOf pieces) value then return (.ok true, st)
      else anyMatches sc fuel value ws st

/-- Run a pipeline: one command in this shell, several as processes joined by pipes. -/
def runPipeline (sc : Scope) : Nat → Bool → List Command → State → Act (Flow × State)
  | 0, _, _, st => pure (.next, st)
  | fuel + 1, negate, stages, st =>
    match stages with
    | [c] => do
      let (f, st) ← run (if negate then sc.inner true else sc) fuel c st
      if !negate || !f.isNext then return (f, st)
      return (.next, { st with status := if st.status == 0 then 1 else 0 })
    | _ => do
      let n := stages.length
      let pipes ← (List.range (n - 1)).mapM fun _ => Async.modifyGet Memory.addPipe
      let jobs ← (List.range n).mapM fun _ => Async.modifyGet Memory.addJob
      let stage := { sc.inner true with loops := 0, inFunction := false }
      (stages.zipIdx.zip jobs).forM fun ((c, i), job) => do
        let inPipe := if i = 0 then none else pipes[i - 1]?
        let outPipe := if i + 1 = n then none else pipes[i]?
        let io : Streams := ⟨if i = 0 then st.io.input else inPipe,
          if i + 1 = n then st.io.output else outPipe, st.io.errors⟩
        Async.spawn (do
          let (f, st') ← run stage fuel c { st with io }
          if let some p := outPipe then closeWriter p
          if let some p := inPipe then closeReader p
          Async.modify (·.endJob job (f.status st')))
      Async.waitUntil (fun m => jobs.all (fun j => (m.jobStatus j).isSome) ||
        m.hasEnded sc.proc.child) none
      let last ← Async.read fun m => m.jobStatus (jobs.getLastD 0)
      let status := last.getD 0
      let status := if negate then (if status == 0 then 1 else 0) else status
      let st := { st with status }
      return (if negate then .next else sc.afterCommand st, st)

/-- Run a simple command. -/
def runSimple (sc : Scope) : Nat → List (String × Word) → List Word → List Redirect → Nat →
      State → Act (Flow × State)
  | 0, _, _, _, _, st => pure (.next, st)
  | fuel + 1, assigns, ws, rs, line, st => do
    let st := { st with substituted := none }
    let (r, st) ← expandWords sc fuel ws st
    match r with
    | .error e =>
      sc.warn st line e
      return (.exit 2, st)
    | .ok fields =>
      let (ra, st) ← expandAssigns sc fuel assigns st
      match ra with
      | .error e =>
        sc.warn st line e
        return (.exit 2, st)
      | .ok values =>
        match values.find? fun (n, _) => st.isReadonly n with
        | some (n, _) =>
          sc.warn st line (n ++ ": is read only")
          return (.exit 2, st)
        | none =>
        let (rr, st) ← redirect sc fuel rs st.io st
        match rr with
        | .error e =>
          sc.warn st line e
          let st := { st with status := 2 }
          return (sc.afterCommand st, st)
        | .ok io =>
          match fields with
          | [] =>
            let st := values.foldl (fun st (n, v) => st.assign n v false) st
            return (.next, { st with status := st.substituted.getD 0 })
          | ["exec"] => return (.next, { st with io, status := 0 })
          | name :: args =>
            let saved := st.io
            let isProgram := !isBuiltin name && (st.functions.lookup name).isNone
            if sc.exitAfter && isProgram && st.exitTrap.isNone then
              execProgram sc fuel line name args values { st with io }
            else
              let (f, st) ← dispatch sc fuel line name args values { st with io }
              let st := { st with io := saved }
              match f with
              | .next => return (sc.afterCommand st, st)
              | other => return (other, st)

/-- Run a command by name: a special built-in, a function, a built-in, or a program. -/
def dispatch (sc : Scope) : Nat → Nat → String → List String → List (String × String) →
    State → Act (Flow × State)
  | 0, _, _, _, _, st => pure (.next, st)
  | fuel + 1, line, name, args, values, st => do
    let withValues := values.foldl (fun st (n, v) => st.assign n v false) st
    if isSpecialBuiltin name then builtin sc fuel line name args withValues
    else
      match st.functions.lookup name with
      | some body =>
        let saved := st.params
        let outer := st.locals
        let frame := values.map fun (n, _) => (n, st.var? n)
        let bodyScope := { sc.inner false with inFunction := true }
        let (f, st) ← run bodyScope fuel body
          { withValues with params := args, locals := some frame }
        let st := { st.restoreLocals outer with params := saved }
        match f with
        | .returned => return (.next, st)
        | other => return (other, st)
      | none =>
        if isBuiltin name then
          let before := values.map fun (n, _) => (n, st.var? n)
          let (f, st) ← builtin sc fuel line name args withValues
          let st := before.foldl (fun st (n, old) =>
            match old with
            | some v => st.modifyVar n fun _ => v
            | none => st.unset n) st
          return (f, st)
        else runProgram sc fuel line name args values st

/-- Start a program and wait for it. -/
def runProgram (sc : Scope) : Nat → Nat → String → List String → List (String × String) →
    State → Act (Flow × State)
  | 0, _, _, _, _, st => pure (.next, st)
  | _ + 1, line, name, args, values, st => do
    let withVars := values.foldl (fun st (n, v) => st.assign n v true) st
    let job ← Async.modifyGet Memory.addJob
    let proc : Process := { sc.proc with pid := jobPid job, io := st.io,
                                         environ := withVars.environ, cwd := sc.physicalCwd st }
    let path := (withVars.lookup "PATH").getD ""
    match ← sc.launch proc path name args with
    | .error .notFound =>
      sc.warn st line (name ++ ": not found")
      Async.modify (·.endJob job 127)
      return (.next, { st with status := 127 })
    | .error _ =>
      sc.warn st line (name ++ ": Permission denied")
      Async.modify (·.endJob job 126)
      return (.next, { st with status := 126 })
    | .ok ending =>
      Async.modify (·.endJob job ending.status)
      if ← sc.rootEnded then return (.signaled 9, st)
      match ending with
      | .signaled n => if n ≠ 2 && n ≠ 13 then st.io.complain (signalDescription n ++ "\n")
      | .exited _ => pure ()
      return (.next, { st with status := ending.status })

/-- Run a program in the shell's place: the shell ends as the program ends. -/
def execProgram (sc : Scope) : Nat → Nat → String → List String → List (String × String) →
      State → Act (Flow × State)
  | 0, _, _, _, _, st => pure (.next, st)
  | _ + 1, line, name, args, values, st => do
    let withVars := values.foldl (fun st (n, v) => st.assign n v true) st
    let proc : Process := { sc.proc with io := st.io, environ := withVars.environ,
                                         cwd := sc.physicalCwd st }
    let path := (withVars.lookup "PATH").getD ""
    match ← sc.launch proc path name args with
    | .error .notFound =>
      sc.warn st line (name ++ ": not found")
      return (.exit 127, st)
    | .error _ =>
      sc.warn st line (name ++ ": Permission denied")
      return (.exit 126, st)
    | .ok (.exited code) => return (.exit code, st)
    | .ok (.signaled n) => return (.signaled n, st)

/-- Run a built-in command. -/
def builtin (sc : Scope) : Nat → Nat → String → List String → State → Act (Flow × State)
  | 0, _, _, _, st => pure (.next, st)
  | fuel + 1, line, name, args, st => do
    let done (status : Nat) (st : State) : Act (Flow × State) := pure (.next, { st with status })
    let complain (text : String) : Act Unit := sc.warnAs st line (some name) text
    let files := { sc.proc.files with cwd := st.cwd }
    match name with
    | ":" | "true" => done 0 st
    | "false" => done 1 st
    | "echo" =>
      st.io.put (shellEcho args)
      done 0 st
    | "printf" =>
      match args with
      | [] =>
        complain "usage: printf format [arg ...]"
        done 2 st
      | fmt :: rest =>
        let r := printf fmt rest
        st.io.put r.bytes
        r.complaints.forM fun c => complain c
        done r.status st
    | "test" | "[" =>
      match (if name = "[" then bracketStatus files args else testStatus files args) with
      | .ok n => done n st
      | .error e =>
        complain e
        done 2 st
    | "exit" =>
      match args with
      | [] => return (.exit st.status, st)
      | a :: _ =>
        match countArg? a with
        | some n => return (.exit n, st)
        | none =>
          complain ("Illegal number: " ++ a)
          return (.exit 2, st)
    | "exec" =>
      match args with
      | [] => done 0 st
      | cmd :: rest => execProgram sc fuel line cmd rest [] st
    | "return" =>
      match args with
      | [] => return (if sc.inFunction then .returned else .exit st.status, st)
      | a :: _ =>
        match countArg? a with
        | some n =>
          return (if sc.inFunction then .returned else .exit n, { st with status := n })
        | none =>
          complain ("Illegal number: " ++ a)
          return (.exit 2, st)
    | "break" | "continue" =>
      let n := match args with
        | a :: _ => countArg? a
        | [] => some 1
      match n with
      | some 0 | none =>
        complain ("Illegal number: " ++ args.headD "")
        return (.exit 2, st)
      | some k =>
        if sc.loops = 0 then done 0 st
        else
          let k := min k sc.loops
          return (if name = "break" then .breakOut k else .continueAt k, { st with status := 0 })
    | "shift" =>
      let n := match args with
        | a :: _ => countArg? a
        | [] => some 1
      match n with
      | some k =>
        if k > st.params.length then
          complain "can't shift that many"
          return (.exit 2, st)
        else done 0 { st with params := st.params.drop k }
      | none =>
        complain ("Illegal number: " ++ args.headD "")
        return (.exit 2, st)
    | "set" =>
      match args with
      | [] =>
        let shown := (st.vars.filter (·.isSet)).map fun v => v.name ++ "=" ++ shellQuote v.value
        st.io.say (String.join ((shown.mergeSort fun a b => decide (a ≤ b)).map (· ++ "\n")))
        done 0 st
      | "--" :: rest => done 0 { st with params := rest }
      | _ =>
        let opts := args.takeWhile fun a =>
          (a.startsWith "-" || a.startsWith "+") && a.length > 1 && a != "--"
        let rest := args.drop opts.length
        let bad := opts.findSome? fun o =>
          ((o.drop 1).toString.toList.find? fun c => !"eux".contains c).map fun c => (o, c)
        match bad with
        | some (o, c) =>
          complain ("Illegal option " ++ (o.take 1).toString ++ c.toString)
          return (.exit 2, st)
        | none =>
          let st := opts.foldl (fun st o =>
            let on := o.startsWith "-"
            let letters := (o.drop 1).toString.toList
            let st := if letters.contains 'e' then { st with errexit := on } else st
            if letters.contains 'u' then { st with nounset := on } else st) st
          match rest with
          | "--" :: more => done 0 { st with params := more }
          | [] => done 0 st
          | more => done 0 { st with params := more }
    | "export" | "readonly" =>
      let exporting := name = "export"
      if args.isEmpty || args = ["-p"] then
        let listed := st.vars.filter fun v => if exporting then v.exported else v.readonly
        let shown := listed.map fun v =>
          name ++ " " ++ v.name ++ (if v.isSet then "=" ++ shellQuote v.value else "")
        st.io.say (String.join ((shown.mergeSort fun a b => decide (a ≤ b)).map (· ++ "\n")))
        done 0 st
      else
        let mark (st : State) (n : String) : State :=
          if exporting then st.markExported n else st.markReadonly n
        let result := args.foldlM (fun (st : State) a =>
          match a.toList.findIdx? (· = '=') with
          | some k =>
            let n := String.ofList (a.toList.take k)
            if !isName n then Except.error (a ++ ": bad variable name")
            else if st.isReadonly n then Except.error (n ++ ": is read only")
            else .ok (mark (st.assign n (String.ofList (a.toList.drop (k + 1))) false) n)
          | none =>
            if !isName a then Except.error (a ++ ": bad variable name")
            else .ok (mark st a)) st
        match result with
        | .ok st => done 0 st
        | .error e =>
          complain e
          return (.exit 2, st)
    | "unset" =>
      match args with
      | "-f" :: names =>
        done 0 { st with functions := st.functions.filter fun f => !names.contains f.1 }
      | _ =>
        let names := match args with
          | "-v" :: names => names
          | names => names
        match names.find? st.isReadonly with
        | some n =>
          complain (n ++ ": is read only")
          return (.exit 2, st)
        | none => done 0 (names.foldl State.unset st)
    | "local" =>
      if !sc.inFunction then
        complain "not in a function"
        return (.exit 2, st)
      let st := args.foldl (fun st a =>
        match a.toList.findIdx? (· = '=') with
        | some k =>
          let n := String.ofList (a.toList.take k)
          (st.makeLocal n).assign n (String.ofList (a.toList.drop (k + 1))) false
        | none => st.makeLocal a) st
      done 0 st
    | "eval" =>
      let evalScope := { sc.inner false with lineBase := sc.lineBase + line - 1,
                                             commandName := some "eval" }
      runText evalScope fuel (" ".intercalate args) st
    | "." =>
      match args with
      | [] => done 0 st
      | file :: _ =>
        match files.read file with
        | .ok bytes =>
          let dotScope := { sc.inner false with lineBase := 0, commandName := some "." }
          runText dotScope fuel (utf8DecodeLossy bytes) st
        | .error _ =>
          complain ("cannot open " ++ file ++ ": No such file")
          return (.exit 2, st)
    | "cd" =>
      let target := match args with
        | "-" :: _ => st.lookup "OLDPWD"
        | d :: _ => some d
        | [] => st.lookup "HOME"
      let dest := match target with
        | some "" | none => "."
        | some d => d
      let full := logicalPath (if dest.startsWith "/" then dest else st.cwd ++ "/" ++ dest)
      if !isDirectory files full then
        complain ("can't cd to " ++ dest)
        done 2 st
      else
        if args.head? == some "-" then st.io.say (full ++ "\n")
        let st := (st.assign "OLDPWD" st.cwd true).assign "PWD" full true
        done 0 { st with cwd := full }
    | "pwd" =>
      st.io.say (st.cwd ++ "\n")
      done 0 st
    | "read" =>
      let raw := args.contains "-r"
      let names := args.filter fun a => !a.startsWith "-"
      if names.isEmpty then
        complain "arg count"
        done 2 st
      else
        let (text, ended) ← readLogicalLine st.io raw fuel ""
        let chars := if raw then text.toList.map (·, false) else unescapeRead text.toList
        let values := fieldValues st.ifs names.length chars
        let st := (names.zip values).foldl (fun st (n, v) => st.assign n v false) st
        done (if ended then 1 else 0) st
    | "kill" => killBuiltin sc line args st
    | "wait" => do
      let waitFor (js : List Nat) : Act Unit :=
        Async.waitUntil (fun m => js.all (fun j => (m.jobStatus j).isSome) ||
          m.hasEnded sc.proc.child) none
      match args with
      | [] =>
        waitFor st.jobs
        done 0 st
      | a :: _ =>
        match st.jobs.find? (fun j => toString (jobPid j) == a) with
        | some j =>
          waitFor [j]
          done ((← Async.read fun m => m.jobStatus j).getD 0) st
        | none => done 127 st
    | "trap" =>
      match args with
      | [] =>
        match st.exitTrap with
        | some action => st.io.say ("trap -- " ++ shellQuote action ++ " EXIT\n")
        | none => pure ()
        done 0 st
      | action :: signals =>
        if signals.any (fun s => s = "0" || s = "EXIT") then
          done 0 { st with exitTrap := if action = "-" then none else some action }
        else done 0 st
    | "umask" =>
      if args.isEmpty then st.io.say "0022\n"
      done 0 st
    | "command" =>
      match args with
      | "-v" :: names => lookupCommands sc st false names
      | "-V" :: names => lookupCommands sc st true names
      | cmd :: rest =>
        if isBuiltin cmd then builtin sc fuel line cmd rest st
        else runProgram sc fuel line cmd rest [] st
      | [] => done 0 st
    | "type" => lookupCommands sc st true args
    | _ => done 0 st

/-- Run text: each complete command as soon as it is read, until one ends the flow or a
syntax error ends the shell. -/
def runText (sc : Scope) : Nat → String → State → Act (Flow × State)
  | 0, _, st => pure (.next, st)
  | fuel + 1, text, st => runCursor sc fuel (Cursor.ofText text) st

/-- Run the commands of a cursor; only the command the text ends with may be the last one
of the shell. -/
def runCursor (sc : Scope) : Nat → Cursor → State → Act (Flow × State)
  | 0, _, st => pure (.next, st)
  | fuel + 1, cur, st => do
    match cur.next with
    | .error e =>
      sc.warn st e.line ("Syntax error: " ++ e.message)
      return (.exit 2, st)
    | .ok (none, _) => return (.next, st)
    | .ok (some c, after) =>
      let last := sc.exitAfter && endsAtEof cur after
      let (f, st) ← run { sc with exitAfter := last } fuel c st
      if f.isNext then runCursor sc fuel after st else return (f, st)

end

end AgentLink.Shell
