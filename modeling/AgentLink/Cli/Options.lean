import AgentLink.Number.Binary64

/-!
# The command line

`acp-bridge [OPTIONS] --config <CONFIG> <PROMPT>...` takes the path of its configuration, the
formats of its logs and of its conversation output (`text` or `json`, `text` by default), a
working directory for the session, files to attach (`--resource`, repeatable) and the words of
the prompt. `-h` and `--help` show the short and the long help, `-V` and `--version` the
version; an argument the command line does not accept ends it with a usage error.

Arguments are read left to right (`scan`, one `step` each). `--name value` and `--name=value`
give an option its value; a value is checked when the next argument that is not a value comes,
or at the end, so a mistake in it shows then. `--` makes every later argument a word of the
prompt; `-` alone is a word. An argument that looks like an option but is none stops the
reading at once, and a mistake waiting in the value before it is then passed over. Last, the
configuration and at least one word are required.

A usage error names the general usage, or, once something was matched, a usage built from
what was: the configuration, the options used, then the prompt. An unknown option is compared
with the known ones by Jaro similarity (`jaro`), and the closest above 0.7 is offered.
-/

namespace AgentLink.Cli

/-- How the conversation is written to standard output. -/
inductive OutputFormat where
  /-- The answer's text as it streams, tool activity and the plan as short lines. -/
  | text
  /-- One JSON record per event. -/
  | json
  deriving DecidableEq, Inhabited

/-- How logs are written to standard error. -/
inductive LogFormat where
  | text
  | json
  deriving DecidableEq, Inhabited

/-- What a run is asked to do. -/
structure Invocation where
  config : String
  logFormat : LogFormat
  output : OutputFormat
  /-- The session's working directory, instead of the configured one. -/
  cwd : Option String
  /-- Files attached to the prompt, in order. -/
  resources : List String
  /-- The words of the prompt. -/
  prompt : List String
  deriving Inhabited

/-- An option that takes a value. -/
inductive Opt where
  | config
  | logFormat
  | output
  | cwd
  | resource
  deriving DecidableEq, Inhabited

namespace Opt

/-- Every option, in the order the help lists them. -/
def all : List Opt := [.config, .logFormat, .output, .cwd, .resource]

/-- The option's name, as written after `--`. -/
def long : Opt → String
  | .config => "config"
  | .logFormat => "log-format"
  | .output => "output"
  | .cwd => "cwd"
  | .resource => "resource"

/-- The option with the name of its value, as messages show it. -/
def display : Opt → String
  | .config => "--config <CONFIG>"
  | .logFormat => "--log-format <LOG_FORMAT>"
  | .output => "--output <OUTPUT>"
  | .cwd => "--cwd <CWD>"
  | .resource => "--resource <PATH>"

/-- The values the option accepts, when they are a fixed set. -/
def choices : Opt → List String
  | .logFormat | .output => ["text", "json"]
  | _ => []

/-- Whether the option may be given more than once. -/
def repeats : Opt → Bool
  | .resource => true
  | _ => false

end Opt

/-- A flag that shows something and stops. -/
inductive Flag where
  | help
  | version
  deriving DecidableEq, Inhabited

/-- The flag as written. -/
def Flag.display : Flag → String
  | .help => "--help"
  | .version => "--version"

/-- Something the command line matched. -/
inductive Matched where
  | opt (o : Opt)
  | flag (f : Flag)
  | prompt
  deriving DecidableEq, Inhabited

/-- Every name written after `--`, in the order they are compared with an unknown one. -/
def longNames : List (String × Matched) :=
  Opt.all.map (fun o => (o.long, Matched.opt o)) ++
    [("help", .flag .help), ("version", .flag .version)]

/-! ## Similarity -/

/-- The characters of `a` that match one of `b` within the Jaro window, in order, and which
characters of `b` were matched. -/
def jaroMatches (a b : Array Char) : List Char × Array Bool :=
  let window := max a.size b.size / 2 - 1
  (List.range a.size).foldl (fun (acc : List Char × Array Bool) i =>
    let c := a.getD i ' '
    let lo := i - window
    let hi := min b.size (i + window + 1)
    match (List.range' lo (hi - lo)).find? (fun j => b.getD j ' ' == c && !acc.2.getD j true) with
    | some j => (acc.1 ++ [c], acc.2.set! j true)
    | none => acc) ([], Array.replicate b.size false)

/-- The Jaro similarity of two strings, computed in binary64: with `m` matching characters
and `t` half the number of matches out of order, `(m / |x| + m / |y| + (m - t) / m) / 3`, each
quotient and sum rounded to the nearest binary64 as it is formed. The rounding shows: for one
match of one character in ten, the score is just above 0.7. -/
def jaro (x y : String) : Binary64 :=
  let a := x.toList.toArray
  let b := y.toList.toArray
  if a.size = 0 && b.size = 0 then Binary64.ofNat 1
  else if a.size = 0 || b.size = 0 then Binary64.ofNat 0
  else
    let (fromA, flags) := jaroMatches a b
    let fromB := (b.toList.zip flags.toList).filterMap fun (c, f) => if f then some c else none
    let m := fromA.length
    let t := ((fromA.zip fromB).filter fun (c, d) => c != d).length / 2
    if m = 0 then Binary64.ofNat 0
    else
      let ratio (n d : Nat) : Binary64 := Binary64.nearest false n d
      let sum := (ratio m a.size).addNonneg (ratio m b.size) |>.addNonneg (ratio (m - t) m)
      sum.div (Binary64.ofNat 3)

/-- The least similarity worth a suggestion is anything above 0.7. -/
def similarityFloor : Binary64 := Binary64.nearest false 7 10

/-- The candidate most like `v` among those more than 0.7 alike; of equally alike ones, the
last. -/
def mostSimilar {α : Type} (v : String) (candidates : List (String × α)) :
    Option (String × α) :=
  let best := candidates.foldl (fun (best : Option (Binary64 × String × α)) c =>
    let s := jaro v c.1
    if !similarityFloor.ltNonneg s then best
    else match best with
      | some (t, _) => if s.ltNonneg t then best else some (s, c)
      | none => some (s, c)) none
  best.map (·.2)

example : jaro "g" "log-format" = Binary64.nearest false 7000000000000001 10000000000000000 := by
  decide
example : mostSimilar "g" [("log-format", ())] = some ("log-format", ()) := by decide

/-! ## Messages -/

/-- The usage of the command. -/
def generalUsage : String := "acp-bridge [OPTIONS] --config <CONFIG> <PROMPT>..."

/-- The usage naming what was matched: the configuration, the options and flags used, and the
prompt. -/
def usageOf (used : List Matched) : String :=
  let named := used.filterMap fun
    | .opt o => if o == .config then none else some o.display
    | .flag f => some f.display
    | .prompt => none
  "acp-bridge " ++ " ".intercalate (["--config <CONFIG>"] ++ named.eraseDups ++ ["<PROMPT>..."])

/-- The usage an error shows: the general one when nothing was matched. -/
def usageFor (used : List Matched) : String :=
  if used.isEmpty then generalUsage else usageOf used

/-- The end of every usage error. -/
def tryHelp : String := "\n\nFor more information, try '--help'.\n"

/-- An argument that is no option. -/
def unknownArgument (arg : String) (similar : Option String) (usage : String) : String :=
  let tip := match similar with
    | some s => "a similar argument exists: '" ++ s ++ "'"
    | none => "to pass '" ++ arg ++ "' as a value, use '-- " ++ arg ++ "'"
  "error: unexpected argument '" ++ arg ++ "' found\n\n  tip: " ++ tip ++ "\n\nUsage: " ++ usage ++
    tryHelp

/-- A value the option does not accept; an empty value is a missing one. -/
def invalidValue (o : Opt) (value : String) : String :=
  let head :=
    if value.isEmpty then "a value is required for '" ++ o.display ++ "' but none was supplied"
    else "invalid value '" ++ value ++ "' for '" ++ o.display ++ "'"
  let list := if o.choices.isEmpty then ""
    else "\n  [possible values: " ++ ", ".intercalate o.choices ++ "]"
  let tip := match mostSimilar value (o.choices.map fun c => (c, ())) with
    | some (s, _) => "\n\n  tip: a similar value exists: '" ++ s ++ "'"
    | none => ""
  "error: " ++ head ++ list ++ tip ++ tryHelp

/-- An option given twice that may be given once. -/
def givenTwice (o : Opt) : String :=
  "error: the argument '" ++ o.display ++ "' cannot be used multiple times\n\nUsage: " ++
    generalUsage ++ tryHelp

/-- A value given to a flag. -/
def unexpectedValue (value : String) (f : Flag) (usage : String) : String :=
  "error: unexpected value '" ++ value ++ "' for '" ++ f.display ++
    "' found; no more were expected\n\nUsage: " ++ usage ++ tryHelp

/-- Required arguments that were not given. -/
def missingArguments (missing : List String) (usage : String) : String :=
  "error: the following required arguments were not provided:" ++
    String.join (missing.map ("\n  " ++ ·)) ++ "\n\nUsage: " ++ usage ++ tryHelp

/-- The version line. -/
def versionText : String := "acp-bridge 0.2.0\n"

/-- The short help. -/
def shortHelp : String :=
  "Drive an ACP agent for one prompt\n\nUsage: " ++ generalUsage ++ "\n\nArguments:\n" ++
  "  <PROMPT>...  Prompt text sent to the agent\n\nOptions:\n" ++
  "      --config <CONFIG>          Path to the TOML configuration file\n" ++
  "      --log-format <LOG_FORMAT>  Log output format (text or json). Logs go to stderr " ++
  "[default: text] [possible values: text, json]\n" ++
  "      --output <OUTPUT>          Conversation output format on stdout [default: text] " ++
  "[possible values: text, json]\n" ++
  "      --cwd <CWD>                Override the session working directory\n" ++
  "      --resource <PATH>          Attach a local file to the prompt as a resource link. " ++
  "Repeatable\n" ++
  "  -h, --help                     Print help (see more with '--help')\n" ++
  "  -V, --version                  Print version\n"

/-- The long help. -/
def longHelp : String :=
  "Drive an ACP agent for one prompt\n\nUsage: " ++ generalUsage ++ "\n\nArguments:\n" ++
  "  <PROMPT>...\n          Prompt text sent to the agent\n\nOptions:\n" ++
  "      --config <CONFIG>\n          Path to the TOML configuration file\n\n" ++
  "      --log-format <LOG_FORMAT>\n          Log output format (text or json). Logs go to " ++
  "stderr\n          \n          [default: text]\n          [possible values: text, json]\n\n" ++
  "      --output <OUTPUT>\n          Conversation output format on stdout\n\n" ++
  "          Possible values:\n" ++
  "          - text: Assistant text as it streams, tool activity as short lines\n" ++
  "          - json: One JSON object per conversation event\n          \n" ++
  "          [default: text]\n\n" ++
  "      --cwd <CWD>\n          Override the session working directory\n\n" ++
  "      --resource <PATH>\n          Attach a local file to the prompt as a resource link. " ++
  "Repeatable\n\n" ++
  "  -h, --help\n          Print help (see a summary with '-h')\n\n" ++
  "  -V, --version\n          Print version\n"

/-! ## Reading the arguments -/

/-- Why reading the command line stopped before a run. -/
inductive Stop where
  /-- Show the help, the long one or the short one. -/
  | help (long : Bool)
  | version
  /-- A usage error with its message. -/
  | usage (message : String)
  deriving Inhabited

/-- The command line read so far. -/
structure Parse where
  /-- What was matched, in the order it first was. -/
  used : List Matched
  /-- The values given to options, in order. -/
  values : List (Opt × String)
  prompt : List String
  /-- The option whose value is not yet checked, with the value once it came. -/
  pending : Option (Opt × Option String)
  /-- Whether `--` was seen. -/
  trailing : Bool
  deriving Inhabited

namespace Parse

/-- Nothing read. -/
def empty : Parse := ⟨[], [], [], none, false⟩

/-- Note that `x` was matched. -/
def use (p : Parse) (x : Matched) : Parse :=
  if p.used.contains x then p else { p with used := p.used ++ [x] }

/-- The values given to `o`. -/
def valuesOf (p : Parse) (o : Opt) : List String :=
  p.values.filterMap fun (q, v) => if q == o then some v else none

/-- Give option `o` its value `v` (none when none came), checking it; the state afterwards,
and the message when the value is wrong. An option given again that may be given once is
forgotten. -/
def record (p : Parse) (o : Opt) : Option String → Parse × Option String
  | none => (p, some (invalidValue o ""))
  | some v =>
    if !o.repeats && !(p.valuesOf o).isEmpty then
      ({ p with used := p.used.erase (.opt o), values := p.values.filter (·.1 != o) },
        some (givenTwice o))
    else
      let p := p.use (.opt o)
      if v.isEmpty || (!o.choices.isEmpty && !o.choices.contains v) then
        (p, some (invalidValue o v))
      else ({ p with values := p.values ++ [(o, v)] }, none)

/-- Check the value waiting, if any. -/
def settle (p : Parse) : Parse × Option String :=
  match p.pending with
  | none => (p, none)
  | some (o, v) => record { p with pending := none } o v

/-- Check the value waiting, stopping when it is wrong. -/
def settled (p : Parse) : Except Stop Parse :=
  match p.settle with
  | (p, none) => .ok p
  | (_, some message) => .error (.usage message)

/-- A word of the prompt. -/
def word (p : Parse) (w : String) : Except Stop Parse := do
  let p ← p.settled
  return { p.use .prompt with prompt := p.prompt ++ [w] }

/-- An argument written `--name` or `--name=value`. -/
def long (p : Parse) (body : String) : Except Stop Parse :=
  let (name, value) := match body.splitOn "=" with
    | n :: v :: rest => (n, some ("=".intercalate (v :: rest)))
    | _ => (body, none)
  match longNames.lookup name with
  | some (.opt o) =>
    match value with
    | some v => do
      let p ← p.settled
      match p.record o (some v) with
      | (p, none) => .ok p
      | (_, some message) => .error (.usage message)
    | none => do
      let p ← p.settled
      return { p with pending := some (o, none) }
  | some (.flag f) =>
    match value with
    | some v =>
      let p := p.settle.1
      .error (.usage (unexpectedValue v f (usageFor (p.use (.flag f)).used)))
    | none => do
      let _ ← p.settled
      .error (if f == .help then .help true else .version)
  | _ =>
    let p := p.settle.1
    let similar := mostSimilar name longNames
    let p := match similar with
      | some (_, x) => p.use x
      | none => p
    .error (.usage (unknownArgument ("--" ++ name) (similar.map ("--" ++ ·.1)) (usageFor p.used)))

/-- An argument written `-` and letters; only `-h` and `-V` are known. -/
def short (p : Parse) : List Char → Except Stop Parse
  | [] => .ok p
  | c :: _ =>
    if c == 'h' then do
      let _ ← p.settled
      .error (.help false)
    else if c == 'V' then do
      let _ ← p.settled
      .error .version
    else .error (.usage (unknownArgument ("-" ++ String.singleton c) none generalUsage))

/-- Read one argument. -/
def step (p : Parse) (arg : String) : Except Stop Parse :=
  if p.trailing then p.word arg
  else if arg == "--" then .ok { p with trailing := true }
  else if arg.startsWith "--" then p.long (arg.drop 2).toString
  else if arg.startsWith "-" && arg != "-" then p.short (arg.drop 1).toString.toList
  else match p.pending with
    | some (o, none) => .ok { p with pending := some (o, some arg) }
    | _ => p.word arg

/-- The run the arguments read ask for, once every value is checked and the required ones are
there. -/
def finish (p : Parse) : Except Stop Invocation := do
  let p ← p.settled
  let config := (p.valuesOf .config).getLast?
  let missing := (if config.isNone then [Matched.opt .config] else []) ++
    (if p.prompt.isEmpty then [Matched.prompt] else [])
  match config with
  | some config =>
    if p.prompt.isEmpty then
      .error (.usage (missingArguments ["<PROMPT>..."] (usageOf (p.used ++ missing))))
    else
      let logFormat := if (p.valuesOf .logFormat).getLast? == some "json" then .json else .text
      let output := if (p.valuesOf .output).getLast? == some "json" then .json else .text
      return ⟨config, logFormat, output, (p.valuesOf .cwd).getLast?, p.valuesOf .resource,
        p.prompt⟩
  | none =>
    let names := ["--config <CONFIG>"] ++ (if p.prompt.isEmpty then ["<PROMPT>..."] else [])
    .error (.usage (missingArguments names (usageOf (p.used ++ missing))))

end Parse

/-- Read the arguments one after the other. -/
def scan : List String → Parse → Except Stop Parse
  | [], p => .ok p
  | a :: rest, p => do scan rest (← p.step a)

/-- What the command line asks for: a run, or why there is none. -/
def readArgs (args : List String) : Except Stop Invocation := do
  (← scan args Parse.empty).finish

end AgentLink.Cli
