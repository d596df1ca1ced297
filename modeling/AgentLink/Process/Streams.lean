import AgentLink.Connection.Tasks
import AgentLink.Host.FileSystem

/-!
# Processes and their standard streams

A process run by an agent reads its standard input from a pipe and writes its output and its
diagnostics to pipes; `none` is the null device, which reads as ended at once and takes
whatever is written. Reading takes whatever has arrived; a reader that wants less (a line)
gives the rest back to the front of the pipe for the next reader, so a line read leaves the
following bytes to whoever reads next, as reading one byte at a time would.

A process runs as part of the agent process the host started (`child`); it has its own number
(`pid`), the number of that agent process (`rootPid`), an environment block, a working
directory and the machine's files. It ends with an exit code or by a signal (`Ending`); a
shell sees the code, or 128 and the signal's number.

A `Launcher` starts a program by name or path in a process: a name without `/` is looked for in
the directories of the given search path. It says why the program could not start, or how it
ended.
-/

namespace AgentLink

open Concurrency

/-- How a process ended. -/
inductive Ending where
  /-- It exited with this code. -/
  | exited (code : Nat)
  /-- The signal with this number ended it. -/
  | signaled (signal : Nat)
  deriving DecidableEq, Inhabited

/-- The status a shell sees: the code modulo 256, or 128 and the signal. -/
def Ending.status : Ending → Nat
  | .exited c => c % 256
  | .signaled n => 128 + n

/-- How the host sees the ending. -/
def Ending.toExit : Ending → ExitStatus
  | .exited c => .code (c % 256 : Nat)
  | .signaled _ => .signal

/-- The standard streams of a process: the pipe it reads and the pipes it writes its output
and its diagnostics to; none is the null device. -/
structure Streams where
  input : Option Nat
  output : Option Nat
  errors : Option Nat
  deriving Inhabited

/-- A process run by an agent. -/
structure Process where
  /-- The agent process of the host that it is part of. -/
  child : Nat
  /-- The number of that agent process. -/
  rootPid : Nat
  pid : Nat
  io : Streams
  /-- Its environment block. -/
  environ : List String
  cwd : String
  files : FileSystem
  deriving Inhabited

/-- How a process starts a program: given the new process, the search path, the name and the
arguments, the reason it could not start or how it ended. -/
abbrev Launcher := Process → String → String → List String → Act (Except IoError Ending)

/-- The number of agent process `child`. -/
def childPid (child : Nat) : Nat := 4000 + child

/-- The number of job `job`. -/
def jobPid (job : Nat) : Nat := 6000 + job

namespace Streams

/-- Write bytes to a pipe, if its reader is still there; nothing for the null device. -/
def writeTo (p : Option Nat) (bytes : List UInt8) : Act Unit :=
  match p with
  | some p =>
    if bytes.isEmpty then pure ()
    else Async.modify fun m =>
      match (m.pipe p).write bytes with
      | some pipe => m.modifyPipe p fun _ => pipe
      | none => m
  | none => pure ()

/-- Write bytes to the output. -/
def put (io : Streams) (bytes : List UInt8) : Act Unit := writeTo io.output bytes

/-- Write text to the output. -/
def say (io : Streams) (text : String) : Act Unit := writeTo io.output (utf8Encode text)

/-- Write text to the diagnostics. -/
def complain (io : Streams) (text : String) : Act Unit := writeTo io.errors (utf8Encode text)

/-- Take what has arrived on the input, waiting for something or for its end; none at the
end. -/
def readChunk (io : Streams) : Nat → Act (Option (List UInt8))
  | 0 => pure none
  | fuel + 1 =>
    match io.input with
    | none => pure none
    | some p => do
      let bytes ← Link.takeBytes p
      if !bytes.isEmpty then return some bytes
      if ← Async.read fun m => (m.pipe p).ended then return none
      Async.waitUntil (fun m => (m.pipe p).readable) none
      readChunk io fuel

/-- Give bytes back to the front of the input, for the next reader. -/
def unread (io : Streams) (bytes : List UInt8) : Act Unit :=
  match io.input with
  | some p =>
    if bytes.isEmpty then pure ()
    else Async.modify fun m =>
      m.modifyPipe p fun pipe => { pipe with unread := bytes ++ pipe.unread }
  | none => pure ()

/-- Read a line from the input onto `acc`: its bytes without the line end and whether a line
end closed it; none when the input had ended before anything was read. -/
def readLine (io : Streams) : Nat → List UInt8 → Act (Option (List UInt8 × Bool))
  | 0, acc => pure (if acc.isEmpty then none else some (acc, false))
  | fuel + 1, acc => do
    match ← io.readChunk taskFuel with
    | none => return (if acc.isEmpty then none else some (acc, false))
    | some bytes =>
      match bytes.findIdx? (· == 10) with
      | some k =>
        io.unread (bytes.drop (k + 1))
        return some (acc ++ bytes.take k, true)
      | none => io.readLine fuel (acc ++ bytes)

/-- Copy the input to the output until the input ends. -/
def copyAll (io : Streams) : Nat → Act Unit
  | 0 => pure ()
  | fuel + 1 => do
    match ← io.readChunk taskFuel with
    | none => pure ()
    | some bytes => io.put bytes; io.copyAll fuel

/-- Read the input to its end, after the bytes `acc` already read. -/
def readAll (io : Streams) : Nat → List UInt8 → Act (List UInt8)
  | 0, acc => pure acc
  | fuel + 1, acc => do
    match ← io.readChunk taskFuel with
    | none => pure acc
    | some bytes => io.readAll fuel (acc ++ bytes)

end Streams

/-- A fresh pipe holding `bytes`, its writer closed: an input that reads them and ends. -/
def pipeOf (bytes : List UInt8) : Act Nat := do
  let p ← Async.modifyGet Memory.addPipe
  Async.modify fun m => m.modifyPipe p fun pipe => { pipe with unread := bytes, writing := false }
  return p

/-- Close the writing end of a pipe. -/
def closeWriter (p : Nat) : Act Unit := Async.modify fun m => m.modifyPipe p Pipe.closeWriter

/-- Close the reading end of a pipe. -/
def closeReader (p : Nat) : Act Unit := Async.modify fun m => m.modifyPipe p Pipe.closeReader

end AgentLink
