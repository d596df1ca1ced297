import AgentLink.Shell.Run

/-!
# Starting a shell

A shell reads its options first: `-c` runs the text that follows them (the next word, if any,
becoming `$0` and the rest the positional parameters), `-e` and `-u` are `set -e` and
`set -u`, `-s` reads commands from the input with the words as parameters, and `--` or `-`
ends them. With neither `-c` nor `-s`, a first word names a script file to run; without one
the shell reads commands from its input, running each complete command as soon as the lines
that hold it have arrived, until the input ends. A wrong option, `-c` without text and a
script that cannot be opened end the shell at once with status 2, the diagnostic counting
line 0.

When the shell ends, other than by a signal, it runs the command its exit trap names; an
`exit` there sets the status the shell ends with.
-/

namespace AgentLink.Shell

open Concurrency

/-- The options a shell was started with. -/
structure ShellFlags where
  /-- `-c`: run the text that follows the options. -/
  command : Bool
  /-- `-s`: read commands from the input. -/
  fromInput : Bool
  errexit : Bool
  nounset : Bool

/-- Set option letter `c`, or clear it when `on` is false. -/
def ShellFlags.set (f : ShellFlags) (on : Bool) (c : Char) : Except String ShellFlags :=
  match c with
  | 'c' => .ok { f with command := on }
  | 's' => .ok { f with fromInput := on }
  | 'e' => .ok { f with errexit := on }
  | 'u' => .ok { f with nounset := on }
  | 'a' | 'b' | 'f' | 'h' | 'i' | 'm' | 'n' | 'p' | 'v' | 'x' | 'C' | 'E' | 'l' => .ok f
  | _ => .error ("Illegal option " ++ (if on then "-" else "+") ++ c.toString)

/-- Read the options before the first other word: the options and the words left. -/
def readFlags (f : ShellFlags) : List String → Except String (ShellFlags × List String)
  | [] => .ok (f, [])
  | "--" :: rest => .ok (f, rest)
  | "-" :: rest => .ok (f, rest)
  | a :: rest =>
    if (a.startsWith "-" || a.startsWith "+") && a.length > 1 then do
      let on := a.startsWith "-"
      let f ← (a.drop 1).toString.toList.foldlM (fun f c => f.set on c) f
      readFlags f rest
    else .ok (f, a :: rest)

/-- The text up to and including its last line end, and the rest. -/
def completeLines (text : String) : String × String :=
  let head := (text.toList.reverse.dropWhile (· ≠ '\n')).reverse
  (String.ofList head, String.ofList (text.toList.drop head.length))

/-- Run the commands of the input as they arrive: whenever the lines read so far hold complete
commands, run them; at the end of the input, run what is left. -/
def runInput (sc : Scope) : Nat → String → State → Act (Flow × State)
  | 0, _, st => pure (.next, st)
  | fuel + 1, pending, st => do
    match ← st.io.readChunk taskFuel with
    | none =>
      if pending.isEmpty then return (.next, st)
      runText sc fuel pending st
    | some bytes =>
      let text := pending ++ utf8DecodeLossy bytes
      let (complete, tail) := completeLines text
      let waiting := match parseAll complete with
        | .error e => isIncomplete e.message
        | .ok _ => false
      if complete.isEmpty || waiting then runInput sc fuel text st
      else
        let (f, st) ← runText sc fuel complete st
        if !f.isNext then return (f, st)
        runInput { sc with lineBase := sc.lineBase + lineEnds complete.toList } fuel tail st

/-- End a shell after a flow: unless a signal ended it, run the exit trap, whose `exit` sets
the status. -/
def finishShell (sc : Scope) (fuel : Nat) (f : Flow) (st : State) : Act Ending :=
  match f, st.exitTrap with
  | .signaled n, _ => pure (.signaled n)
  | _, none => pure (f.ending st)
  | _, some action => do
    let trapScope := { sc with exitAfter := false, lineBase := 0, inFunction := false }
    let (g, _) ← runText trapScope fuel action
      { st with status := f.status st, exitTrap := none }
    match g with
    | .exit code => pure (.exited code)
    | .signaled n => pure (.signaled n)
    | _ => pure (f.ending st)

/-- Run a shell started as `name` with arguments `args` in process `proc`, starting programs
with `launch` and finding them with `find`: how it ended. Its parent's number is not known
to it; 1 stands for it. -/
def runShell (fuel : Nat) (proc : Process) (launch : Launcher) (find : Finder) (name : String)
    (args : List String) : Act Ending := do
  let st := State.start proc.environ proc.cwd proc.io 1
  let base : Scope := ⟨proc, name, launch, find, 0, false, 0, false, false, none⟩
  let fail (text : String) : Act Ending := do
    st.io.complain (name ++ ": 0: " ++ text ++ "\n")
    return .exited 2
  match readFlags ⟨false, false, false, false⟩ args with
  | .error e => fail e
  | .ok (flags, rest) =>
    let st := { st with errexit := flags.errexit, nounset := flags.nounset }
    if flags.command then
      match rest with
      | [] => fail "-c requires an argument"
      | text :: more =>
        let (arg0, params) := match more with
          | n :: ps => (n, ps)
          | [] => (name, [])
        let sc := { base with name := arg0, exitAfter := true }
        let (f, st) ← runText sc fuel text { st with params }
        finishShell sc fuel f st
    else match rest with
      | file :: params =>
        if flags.fromInput then
          let (f, st) ← runInput base fuel "" { st with params := rest }
          finishShell base fuel f st
        else
          match { proc.files with cwd := proc.cwd }.read file with
          | .ok bytes =>
            let sc := { base with name := file }
            let (f, st) ← runText sc fuel (utf8DecodeLossy bytes) { st with params }
            finishShell sc fuel f st
          | .error _ => fail ("cannot open " ++ file ++ ": No such file")
      | [] =>
        let (f, st) ← runInput base fuel "" st
        finishShell base fuel f st

end AgentLink.Shell
