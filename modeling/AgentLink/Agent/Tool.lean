import AgentLink.Agent.Program
import AgentLink.Shell.Invoke
import AgentLink.Utility.Count
import AgentLink.Utility.Sort
import AgentLink.Utility.Translate
import AgentLink.Utility.Cut
import AgentLink.Utility.Sequence
import AgentLink.Utility.BaseName
import AgentLink.Utility.Grep

/-!
# Programs an agent process can run

An agent process runs one of the machine's programs. Besides the program that plays agent
scripts there are the standard ones: `true` and `false`, which exit at once; the command
shell; `cat`, which copies files or its input to its output; `echo` and `printf`; `test` and
`[`; `env`, which prints its environment block or runs a program with a changed one; `sleep`;
`ls`, `pwd` and `printenv`; and the text programs `head`, `tail`, `wc`, `sort`, `uniq`, `tr`,
`cut`, `seq`, `basename`, `dirname` and `grep`, each a function from its arguments and the bytes
it reads to its writes and status (`Outcome`).

A program that starts another (the shell, `env`) finds it as `execvp` does: a name with a `/`
is a path from the working directory, any other name is looked for in the directories of the
search path, where only an entry that is not a directory counts. A path that exists but is not
one of the programs cannot run (permission denied). Each program started from another runs
with less fuel, so a chain of programs starting programs ends.

The diagnostics are those of the standard programs, each headed by the program's name.
-/

namespace AgentLink

open Json Concurrency

/-- What an executable file of the machine does when it runs. -/
inductive Tool where
  /-- Plays an agent script; started as `--fake-agent SCRIPT MASK`. -/
  | scriptAgent
  /-- Exits at once with a status, as `true` and `false` do. -/
  | exitWith (code : Nat)
  /-- The command shell. -/
  | shell
  /-- Copies files, or its input, to its output. -/
  | cat
  | echo
  | printf
  | test
  /-- `test` under the name `[`, which wants `]` last. -/
  | bracket
  /-- Prints its environment block, or runs a program with a changed one. -/
  | env
  | sleep
  /-- Lists files and directories. -/
  | ls
  /-- Prints the working directory. -/
  | pwd
  /-- Prints its environment block, or the values of the variables named. -/
  | printenv
  /-- Writes the first lines or bytes of files. -/
  | head
  /-- Writes the last lines or bytes of files. -/
  | tail
  /-- Counts lines, words and bytes. -/
  | wc
  /-- Sorts lines. -/
  | sort
  /-- Folds runs of repeated lines. -/
  | uniq
  /-- Translates, deletes or squeezes bytes. -/
  | tr
  /-- Selects bytes or fields of lines. -/
  | cut
  /-- Writes a sequence of numbers. -/
  | seq
  /-- Writes the last component of a path. -/
  | basename
  /-- Writes the directory of a path. -/
  | dirname
  /-- Searches lines for patterns. -/
  | grep
  deriving DecidableEq, Inhabited

/-- The files of a machine and the programs among them, by canonical path. -/
structure Programs where
  files : FileSystem
  tools : List (String × Tool)
  deriving Inhabited

/-- The script and mask a script player is started with; any other arguments play nothing. -/
def scriptArgs : List String → List Action × String
  | "--fake-agent" :: script :: rest => (readScript script, rest.headD "")
  | _ => ([], "")

namespace Programs

/-- Where `command` is found from `cwd` with search path `path`: the path as the search spells
it and its canonical form. -/
def search (ps : Programs) (cwd path command : String) : Except IoError (String × String) :=
  let files := { ps.files with cwd }
  if command.isEmpty then .error .notFound
  else if command.contains '/' then (files.resolve command).map fun p => (command, p)
  else
    let dirs := path.splitOn ":"
    let found := dirs.filterMap fun d =>
      let spelled := (if d.isEmpty then "." else d) ++ "/" ++ command
      match files.resolve spelled with
      | .ok p =>
        match files.lookup ((pathParts p).filter (· ≠ "")) with
        | some .directory => none
        | _ => some (spelled, p)
      | .error _ => none
    match found with
    | p :: _ => .ok p
    | [] => .error .notFound

/-- The program `command` runs from `cwd` with search path `path`. -/
def toolAt (ps : Programs) (cwd path command : String) : Except IoError Tool := do
  let (_, p) ← ps.search cwd path command
  match ps.tools.lookup p with
  | some t => .ok t
  | none => .error .permissionDenied

/-- Where the shell says a program is, for `command -v` and `type`. -/
def finder (ps : Programs) : Shell.Finder := fun cwd path name =>
  (ps.search cwd path name).toOption.map (·.1)

end Programs

/-! ## `cat` -/

/-- Copy the files named to the output, `-` being the input: the status. -/
def catFiles (name : String) (files : FileSystem) (io : Streams) :
    List String → Nat → Act Nat
  | [], status => pure status
  | f :: rest, status => do
    if f = "-" || f = "/dev/stdin" then
      io.copyAll taskFuel
      catFiles name files io rest status
    else
      match files.read f with
      | .ok bytes =>
        io.put bytes
        catFiles name files io rest status
      | .error e =>
        io.complain (name ++ ": " ++ quoteNameIfNeeded f ++ ": " ++ e.reason ++ "\n")
        catFiles name files io rest 1

/-! ## `sleep` -/

/-- Read a decimal number with an optional fraction and exponent: its digits as one number,
the power of ten to scale them by, and the rest of the text. -/
def readDecimalNumber (cs : List Char) : Option (Nat × Int × List Char) :=
  let whole := cs.takeWhile Char.isDigit
  let afterWhole := cs.drop whole.length
  let (frac, afterFrac) := match afterWhole with
    | '.' :: more => (more.takeWhile Char.isDigit, more.dropWhile Char.isDigit)
    | _ => ([], afterWhole)
  if whole.isEmpty && frac.isEmpty then none
  else
    let digits := (whole ++ frac).foldl (fun n c => 10 * n + (c.toNat - 48)) 0
    let (exp, rest) : Int × List Char := match afterFrac with
      | e :: more =>
        if e = 'e' || e = 'E' then
          let (neg, ds) := match more with
            | '-' :: ds => (true, ds)
            | '+' :: ds => (false, ds)
            | ds => (false, ds)
          let expDigits := ds.takeWhile Char.isDigit
          if expDigits.isEmpty then (0, afterFrac)
          else
            let v : Int := expDigits.foldl (fun n c => 10 * n + (c.toNat - 48)) 0
            (if neg then -v else v, ds.drop expDigits.length)
        else (0, afterFrac)
      | [] => (0, [])
    some (digits, exp - frac.length, rest)

/-- The length in milliseconds, rounded up, of one interval `sleep` reads: a number with a
unit `s` (the default), `m`, `h` or `d`; infinity or a length past the longest sleep counts as
the longest sleep. -/
def intervalMillis? (w : String) : Option Nat :=
  let longest := Duration.longestSleep.millis
  let cs := (w.toList.dropWhile isCSpace)
  let cs := match cs with
    | '+' :: more => more
    | _ => cs
  let lower := String.ofList (cs.map Char.toLower)
  if lower = "inf" || lower = "infinity" then some longest
  else
    match readDecimalNumber cs with
    | none => none
    | some (digits, scale, rest) =>
      let unit : Option Nat := match rest with
        | [] | ['s'] => some 1
        | ['m'] => some 60
        | ['h'] => some 3600
        | ['d'] => some 86400
        | _ => none
      unit.map fun u =>
        if digits = 0 then 0
        else if scale > 20 then longest
        else if scale < -400 then 0
        else
          let shift := scale + 3
          let value := digits * u
          let ms := if shift ≥ 0 then value * Nat.pow 10 shift.toNat
            else (value + Nat.pow 10 (-shift).toNat - 1) / Nat.pow 10 (-shift).toNat
          min ms longest

/-- Run `sleep` with its arguments: the status. -/
def sleepFor (name : String) (io : Streams) (args : List String) : Act Nat := do
  let args := match args with
    | "--" :: rest => rest
    | _ => args
  let usage (text : String) : Act Nat := do
    io.complain (name ++ ": " ++ text ++ "\n" ++ tryHelp name)
    return 1
  match args.find? fun a => a.startsWith "-" && a.length > 1 with
  | some opt => usage ("invalid option -- '" ++ ((opt.drop 1).take 1).toString ++ "'")
  | none =>
    if args.isEmpty then usage "missing operand"
    else
      match args.find? fun a => (intervalMillis? a).isNone with
      | some bad => usage ("invalid time interval '" ++ bad ++ "'")
      | none =>
        Async.sleep ((args.filterMap intervalMillis?).foldl (· + ·) 0)
        return 0

/-! ## `ls` -/

/-- What `ls` lists for one operand: the operand itself, for a file, or the names in it, for
a directory; none when it does not exist. -/
def listingOf (files : FileSystem) (operand : String) : Option (Option (List String)) :=
  match files.resolve operand with
  | .error _ => none
  | .ok p =>
    match files.lookup ((pathParts p).filter (· ≠ "")) with
    | some .directory =>
      some (some ((files.children p).filter fun n => !n.startsWith "."))
    | some _ => some none
    | none => none

/-- Run `ls` on its operands (the working directory when there are none): files first, then
each directory's names, under a heading when there are several operands; the status is 2 when
an operand does not exist. -/
def listFiles (name : String) (files : FileSystem) (io : Streams) (args : List String) :
    Act Nat := do
  let operands := args.filter fun a => !(a.startsWith "-" && a.length > 1)
  let operands := if operands.isEmpty then ["."] else operands
  let sorted := operands.mergeSort fun a b => decide (a ≤ b)
  let found := sorted.filterMap fun o => (listingOf files o).map (o, ·)
  let missingOnes := sorted.filter fun o => (listingOf files o).isNone
  missingOnes.forM fun o =>
    io.complain (name ++ ": cannot access " ++ quoteName o ++ ": No such file or directory\n")
  let plain := found.filterMap fun (o, l) => if l.isNone then some o else none
  let dirs := found.filterMap fun (o, l) => l.map (o, ·)
  let heading := operands.length > 1
  let fileText := String.join (plain.map (· ++ "\n"))
  let dirTexts := dirs.map fun (o, names) =>
    (if heading then o ++ ":\n" else "") ++ String.join (names.map (· ++ "\n"))
  let blocks := (if plain.isEmpty then [] else [fileText]) ++ dirTexts
  io.say ("\n".intercalate blocks)
  return if missingOnes.isEmpty then 0 else 2

/-! ## `env` -/

/-- What `env` was asked: whether to start from an empty environment, the variables to
remove, the assignments, and the command. -/
structure EnvRequest where
  empty : Bool
  removed : List String
  assigns : List (String × String)
  command : List String

/-- Read the arguments of `env`. -/
def readEnvArgs (req : EnvRequest) : List String → Except String EnvRequest
  | [] => .ok req
  | "-i" :: rest | "-" :: rest | "--ignore-environment" :: rest =>
    readEnvArgs { req with empty := true } rest
  | "-u" :: name :: rest => readEnvArgs { req with removed := req.removed ++ [name] } rest
  | ["-u"] => .error "option requires an argument -- 'u'"
  | "--" :: rest => readAssigns req rest
  | a :: rest =>
    if a.startsWith "--unset=" then
      readEnvArgs { req with removed := req.removed ++ [(a.drop 8).toString] } rest
    else if a.startsWith "-" && a.length > 1 then
      .error ("invalid option -- '" ++ ((a.drop 1).take 1).toString ++ "'")
    else readAssigns req (a :: rest)
where
  /-- Read the assignments and the command after the options. -/
  readAssigns (req : EnvRequest) : List String → Except String EnvRequest
    | [] => .ok req
    | a :: rest =>
      match a.toList.findIdx? (· = '=') with
      | some k =>
        if k = 0 then .ok { req with command := a :: rest }
        else readAssigns { req with assigns := req.assigns ++
          [(String.ofList (a.toList.take k), String.ofList (a.toList.drop (k + 1)))] } rest
      | none => .ok { req with command := a :: rest }

/-- The environment block `env` makes of the block it was given. -/
def EnvRequest.apply (req : EnvRequest) (environ : List String) : List String :=
  let nameOf (e : String) : String := String.ofList (e.toList.takeWhile (· ≠ '='))
  let base := if req.empty then [] else environ.filter fun e => !req.removed.contains (nameOf e)
  req.assigns.foldl (fun block (n, v) =>
    let entry := n ++ "=" ++ v
    if block.any (nameOf · == n) then block.map fun e => if nameOf e == n then entry else e
    else block ++ [entry]) base

/-! ## Programs that read their operands whole -/

/-- Play a program's writes: its status. -/
def playOutcome (io : Streams) (o : Outcome) : Act Nat := do
  o.emits.forM fun
    | .out bs => io.put bs
    | .err t => io.complain t
  return o.status

/-- Run a program on the operands it reads (`-` and `/dev/stdin` being the input, read to its
end first when named): its status. -/
def runReading (files : FileSystem) (io : Streams) (operands : List String)
    (work : (String → Except IoError (List UInt8)) → Outcome) : Act Nat := do
  let isInput (o : String) : Bool := o = "-" || o = "/dev/stdin"
  let input ← if operands.any isInput then io.readAll taskFuel [] else pure []
  playOutcome io (work fun o => if isInput o then .ok input else files.read o)

/-- Whether an operand is a regular file: the input and devices are not, nor directories; none
when it does not exist. -/
def fileKind (files : FileSystem) (o : String) : Option Bool :=
  if o = "-" || o = "/dev/stdin" then some false
  else match files.resolve o with
    | .error _ => none
    | .ok p =>
      if FileSystem.isUnder p "/dev" then some false
      else match files.lookup ((pathParts p).filter (· ≠ "")) with
        | some (.file _) => some true
        | some _ => some false
        | none => none

/-! ## `pwd` and `printenv` -/

/-- Whether a path is absolute and has no `.` or `..` component. -/
def isPlainAbsolute (p : String) : Bool :=
  p.startsWith "/" && !((pathParts p).any fun c => c = "." || c = "..")

/-- Run `pwd` in directory `cwd` with environment block `environ`: the directory as resolved,
or with `-L` the value of `PWD` when it is a plain absolute path to the same directory. -/
def printDirectory (name cwd : String) (environ : List String) (files : FileSystem)
    (args : List String) : Outcome :=
  let specs : List ProgramOption :=
    [⟨some 'L', some "logical", .nothing, "L"⟩, ⟨some 'P', some "physical", .nothing, "P"⟩]
  match readProgramOptions specs args with
  | .error e => usageError name e 1
  | .ok r =>
    let warning : List Emit :=
      if r.operands.isEmpty then [] else [.err (name ++ ": ignoring non-option arguments\n")]
    let logical := (r.given.getLast?.map (·.1 == "L")).getD false
    let shown := match (readEnviron environ).lookup "PWD" with
      | some p =>
        if logical && isPlainAbsolute p && (files.resolve p).toOption == some cwd then p
        else cwd
      | none => cwd
    ⟨warning ++ [.out (utf8Encode (shown ++ "\n"))], 0⟩

/-- Run `printenv`: every entry of the environment block, or the value of each variable named;
the status is 1 when one of them is not set. -/
def printEnvironment (name : String) (environ : List String) (args : List String) : Outcome :=
  let specs : List ProgramOption := [⟨some '0', some "null", .nothing, "0"⟩]
  match readProgramOptions specs args with
  | .error e => usageError name e 2
  | .ok r =>
    let ending := if r.has "0" then "\x00" else "\n"
    let nameOf (e : String) : String := String.ofList (e.toList.takeWhile (· ≠ '='))
    if r.operands.isEmpty then ⟨[.out (utf8Encode (String.join (environ.map (· ++ ending))))], 0⟩
    else
      let found := r.operands.map fun n =>
        if n.contains '=' then [] else
          (environ.filter (nameOf · == n)).map fun e => (e.drop (n.length + 1)).toString
      let text := String.join (found.flatten.map (· ++ ending))
      ⟨[.out (utf8Encode text)], if found.all (!·.isEmpty) then 0 else 1⟩

/-- Run a program as process `proc`: the fuel left decides how deep programs may start
programs. -/
def Tool.run (ps : Programs) : Nat → Tool → Process → String → List String → Act Ending
  | 0, _, _, _, _ => pure (.exited 0)
  | fuel + 1, t, proc, name, args => do
    let launch : Launcher := fun p path cmd cargs =>
      match ps.toolAt p.cwd path cmd with
      | .error e => pure (.error e)
      | .ok tool => .ok <$> Tool.run ps fuel tool p cmd cargs
    let files := { ps.files with cwd := proc.cwd }
    let io := proc.io
    match t with
    | .scriptAgent =>
      let (script, mask) := scriptArgs args
      AgentSetup.run ⟨proc.child, io, proc.environ, proc.cwd, mask⟩ script
    | .exitWith code => pure (.exited code)
    | .shell => Shell.runShell taskFuel proc launch ps.finder name args
    | .cat =>
      let operands := match args with
        | "--" :: rest => rest
        | _ => args
      .exited <$> catFiles name files io (if operands.isEmpty then ["-"] else operands) 0
    | .echo =>
      io.put (programEcho args)
      pure (.exited 0)
    | .printf =>
      match args with
      | [] =>
        io.complain (name ++ ": missing operand\n" ++ tryHelp name)
        pure (.exited 1)
      | fmt :: rest =>
        let r := AgentLink.printf fmt rest
        io.put r.bytes
        r.complaints.forM fun c => io.complain (name ++ ": " ++ c ++ "\n")
        pure (.exited (if r.status = 0 then 0 else 1))
    | .test | .bracket =>
      let result := if t = .bracket then
          (bracketStatus files args).mapError fun e => if e = "missing ]" then "missing ']'" else e
        else testStatus files args
      match result with
      | .ok n => pure (.exited n)
      | .error e =>
        io.complain (name ++ ": " ++ e ++ "\n")
        pure (.exited 2)
    | .env =>
      match readEnvArgs ⟨false, [], [], []⟩ args with
      | .error e =>
        io.complain (name ++ ": " ++ e ++ "\n" ++ tryHelp name)
        pure (.exited 125)
      | .ok req =>
        let environ := req.apply proc.environ
        match req.command with
        | [] =>
          io.say (String.join (environ.map (· ++ "\n")))
          pure (.exited 0)
        | cmd :: cargs =>
          let path := ((readEnviron environ).lookup "PATH").getD "/bin:/usr/bin"
          match ← launch { proc with environ } path cmd cargs with
          | .ok ending => pure ending
          | .error .notFound =>
            io.complain (name ++ ": " ++ quoteName cmd ++ ": No such file or directory\n")
            pure (.exited 127)
          | .error _ =>
            io.complain (name ++ ": " ++ quoteName cmd ++ ": Permission denied\n")
            pure (.exited 126)
    | .sleep => .exited <$> sleepFor name io args
    | .ls => .exited <$> listFiles name files io args
    | .pwd => .exited <$> playOutcome io (printDirectory name proc.cwd proc.environ files args)
    | .printenv => .exited <$> playOutcome io (printEnvironment name proc.environ args)
    | .head =>
      .exited <$> runReading files io (partOperands headOptions args) (runHead name args)
    | .tail =>
      .exited <$> runReading files io (partOperands tailOptions args) (runTail name args)
    | .wc =>
      .exited <$> runReading files io (countOperands args)
        fun source => runCount name args source (fileKind files)
    | .sort => .exited <$> runReading files io (sortOperands args) (runSort name args)
    | .uniq => .exited <$> runReading files io (uniqOperands args) (runUniq name args)
    | .tr =>
      .exited <$> runReading files io ["-"] fun source =>
        runTranslate name args ((source "-").toOption.getD [])
    | .cut => .exited <$> runReading files io (cutOperands args) (runCut name args)
    | .seq => .exited <$> playOutcome io (runNumberSequence name args)
    | .basename => .exited <$> playOutcome io (runBaseName name args)
    | .dirname => .exited <$> playOutcome io (runDirectoryName name args)
    | .grep => .exited <$> runReading files io (grepOperands args) (runGrep name args)

end AgentLink
