import AgentLink.Agent.Tool
import AgentLink.Host.FileSystem

/-!
# Starting agent processes

An agent is started from a `SpawnConfig`: a command, its arguments, extra environment
variables and a working directory. The child sees only the host's variables named in
`inheritedVars`, then the configured ones, which win. It starts in the canonical form of the
working directory, which must be a directory; a command with a `/` is a path from there, any
other command is looked for in the directories of the child's `PATH`. Failing either, nothing
starts and the failure carries the system's text.

A program, argument, variable or working directory with a NUL character starts nothing, before
anything else is looked at. The child's environment block lists its variables by name.

The machine is a parameter: its files, its environment and its programs, by canonical path,
each a `Tool`; other files and directories cannot be run.

A started agent is connected at once: the connection writes its input and reads its output,
its diagnostics are watched, and an exit monitor waits for it. When the agent ends by itself,
the monitor reports how and closes the connection; when the connection closes first, the agent
has `exitGrace` milliseconds to end before it is killed, which is then not reported.
-/

namespace AgentLink

open Json Concurrency

/-- How to start an agent process. -/
structure SpawnConfig where
  command : String
  args : List String
  /-- Variables set on top of the inherited ones. -/
  env : List (String × String)
  workingDir : String
  deriving Inhabited

/-- The host's variables an agent process inherits; it sees no other. -/
def inheritedVars : List String :=
  ["PATH", "HOME", "RUST_LOG", "LANG", "TERM", "USERPROFILE", "SystemRoot", "TEMP", "TMP",
    "USERNAME", "APPDATA", "LOCALAPPDATA", "COMSPEC"]

/-- How deep programs may start programs. -/
def programDepth : Nat := 64

/-- How long, in milliseconds, an agent may take to end after its connection closes. -/
def exitGrace : Nat := 2000

/-- The machine agent processes start on. -/
structure Machine where
  files : FileSystem
  /-- The host's environment. -/
  env : List (String × String)
  /-- The programs that can run, by canonical path. -/
  tools : List (String × Tool)
  deriving Inhabited

/-- Whether anything a process is started with holds a NUL character. -/
def SpawnConfig.hasNul (cfg : SpawnConfig) (env : List (String × String)) : Bool :=
  let nul (s : String) : Bool := s.contains '\x00'
  nul cfg.command || cfg.args.any nul || env.any (fun (k, v) => nul k || nul v) ||
    nul cfg.workingDir

namespace Machine

/-- The environment of a child started with the extra variables `extra`. -/
def childEnv (m : Machine) (extra : List (String × String)) : List (String × String) :=
  let inherited := inheritedVars.filterMap fun k => (m.env.lookup k).map fun v => (k, v)
  extra.foldl (fun acc kv => (putEntry kv.1 kv.2 acc).2) inherited

/-- The canonical form of a working directory. -/
def workingDir (m : Machine) (dir : String) : Except IoError String := do
  let canonical ← m.files.resolve dir
  match m.files.lookup ((pathParts canonical).filter (· ≠ "")) with
  | some .directory => .ok canonical
  | _ => .error .notADirectory

/-- The canonical path of the program `command` names, for a child in `cwd` whose `PATH` is
`path`. -/
def locate (m : Machine) (cwd path command : String) : Except IoError String :=
  if command.isEmpty then .error .notFound
  else if command.contains '/' then { m.files with cwd := cwd }.resolve command
  else
    let dirs := (path.splitOn ":").filter (!·.isEmpty)
    match dirs.filterMap (fun d => (m.files.resolve (d ++ "/" ++ command)).toOption) with
    | p :: _ => .ok p
    | [] => .error .notFound

/-- What the child of a spawn runs: the program, its environment block and its working
directory, or why it cannot start. -/
def prepare (m : Machine) (cfg : SpawnConfig) : Except IoError (Tool × List String × String) := do
  let env := m.childEnv cfg.env
  if cfg.hasNul env then .error .nulInCommand
  let cwd ← m.workingDir cfg.workingDir
  let program ← m.locate cwd ((env.lookup "PATH").getD "") cfg.command
  match m.tools.lookup program with
  | some tool => .ok (tool, environBlock env, cwd)
  | none => .error .permissionDenied

/-- The machine's files and programs. -/
def programs (m : Machine) : Programs := ⟨m.files, m.tools⟩

end Machine

/-- Wait for child `child` of connection `i` to end, report how it ended and close the
connection; if the connection closes first, give the child `exitGrace` milliseconds and kill it
when they run out. -/
def monitorExit (i child : Nat) : Act Unit := do
  Async.waitUntil (fun m => m.hasEnded child || (m.link i).closed) none
  if !(← Async.read (·.hasEnded child)) then
    let t ← Async.now
    Async.waitUntil (·.hasEnded child) (some (t + exitGrace))
  match (← Async.read (·.child child)).status with
  | none => Async.modify (·.endChild child .signal)
  | some status =>
    match status with
    | .code c => Link.report i ⟨.exited (some c), "process exited with code " ++ toString c⟩
    | .signal => Link.report i ⟨.exited none, "process terminated by signal"⟩
    Link.close i

/-- Start an agent process on machine `m` and connect to it; the number of the connection, or
why the agent could not start. -/
def launch (hooks : Hooks) (m : Machine) (cfg : SpawnConfig) : Act (Except Failure Nat) := do
  match m.prepare cfg with
  | .error e => return .error (.process ("failed to spawn agent: " ++ e.text))
  | .ok (tool, environ, cwd) =>
    let stdin ← Async.modifyGet Memory.addPipe
    let stdout ← Async.modifyGet Memory.addPipe
    let stderr ← Async.modifyGet Memory.addPipe
    let child ← Async.modifyGet (·.addChild stdin stdout stderr)
    let proc : Process := ⟨child, childPid child, childPid child,
      ⟨some stdin, some stdout, some stderr⟩, environ, cwd, m.files⟩
    Async.spawn (do
      let ending ← Tool.run m.programs programDepth tool proc cfg.command cfg.args
      Async.modify (·.endChild child ending.toExit))
    let i ← Link.start hooks stdout stdin
    Link.attachStderr i stderr
    Async.spawn (monitorExit i child)
    return .ok i

end AgentLink
