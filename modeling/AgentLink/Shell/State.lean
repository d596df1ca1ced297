import AgentLink.Shell.Token
import AgentLink.Process.Streams

/-!
# What a shell remembers

A shell keeps its variables, functions, positional parameters, the status of the last
command, its options, its working directory, its standard streams, the jobs it started in the
background and the command to run when it exits.

Variables live in a table of 39 chains. A variable's chain is the sum of the bytes of its name
and sixteen times its first byte, modulo 39; a new variable goes to the front of its chain.
The environment a started program receives lists the exported variables that hold a value,
chain by chain and from the front of each chain (`State.environ`). The shell's own variables
(`IFS`, `MAIL`, `MAILPATH`, `PATH`, `PS1`, `PS2`, `PS4`, `OPTIND`, `LINENO`) are in the table
from the start and stay when unset; any other variable leaves the table when unset.

At start the shell imports each entry of its environment block whose name is a variable name,
exported, in the order of the block; then it sets `IFS` and `OPTIND` to their defaults, `PPID`,
and exports `PWD`, its working directory.

A read-only variable keeps its value: assignments and `unset` leave it as it is. While a
function runs, `local` saves how a variable stood before; the function's return puts every
saved variable back.
-/

namespace AgentLink.Shell

/-- A shell variable. -/
structure Var where
  name : String
  value : String
  /-- Whether it holds a value. -/
  isSet : Bool
  exported : Bool
  /-- When it entered the table: later ones stand before earlier ones in their chain. -/
  seq : Nat
  /-- One of the shell's own, which stays in the table when unset. -/
  fixed : Bool
  /-- Set by `readonly`: no assignment or `unset` changes it. -/
  readonly : Bool
  deriving Inhabited

/-- The chain of the table a name belongs to. -/
def chainOf (name : String) : Nat :=
  let bytes := utf8Encode name
  ((bytes.headD 0).toNat * 16 + bytes.foldl (fun n b => n + b.toNat) 0) % 39

/-- The search path a shell starts with. -/
def defaultPath : String := "/usr/local/sbin:/usr/local/bin:/usr/sbin:/usr/bin:/sbin:/bin"

/-- What a shell remembers. -/
structure State where
  vars : List Var
  /-- The number the next new variable gets. -/
  nextSeq : Nat
  functions : List (String × Command)
  params : List String
  status : Nat
  /-- `set -e`: a failing command ends the shell. -/
  errexit : Bool
  /-- `set -u`: expanding an unset variable is an error. -/
  nounset : Bool
  cwd : String
  io : Streams
  /-- The jobs started in the background, newest first. -/
  jobs : List Nat
  /-- The number of the last background job. -/
  lastJob : Option Nat
  /-- The command to run when the shell exits. -/
  exitTrap : Option String
  /-- The status of the last command substitution of the command being expanded. -/
  substituted : Option Nat
  /-- Inside a function, the variables it made local, each with what it was before. -/
  locals : Option (List (String × Option Var))
  deriving Inhabited

namespace State

/-- The variable named `name`, if it is in the table. -/
def var? (st : State) (name : String) : Option Var := st.vars.find? (·.name == name)

/-- The value of a variable, none when it holds none. -/
def lookup (st : State) (name : String) : Option String :=
  match st.var? name with
  | some v => if v.isSet then some v.value else none
  | none => none

/-- Change a variable in the table. -/
def modifyVar (st : State) (name : String) (f : Var → Var) : State :=
  { st with vars := st.vars.map fun v => if v.name == name then f v else v }

/-- Whether a variable is read-only. -/
def isReadonly (st : State) (name : String) : Bool := (st.var? name).any (·.readonly)

/-- Give a variable a value, exporting it too when `exporting`; a new variable enters the
table, and a read-only one keeps its value. -/
def assign (st : State) (name value : String) (exporting : Bool) : State :=
  match st.var? name with
  | some v =>
    if v.readonly then st
    else st.modifyVar name fun v =>
      { v with value, isSet := true, exported := v.exported || exporting }
  | none =>
    { st with vars := st.vars ++ [⟨name, value, true, exporting, st.nextSeq, false, false⟩],
              nextSeq := st.nextSeq + 1 }

/-- Make a variable read-only; one not in the table enters it without a value. -/
def markReadonly (st : State) (name : String) : State :=
  match st.var? name with
  | some _ => st.modifyVar name fun v => { v with readonly := true }
  | none =>
    { st with vars := st.vars ++ [⟨name, "", false, false, st.nextSeq, false, true⟩],
              nextSeq := st.nextSeq + 1 }

/-- Mark a variable exported; one not in the table enters it without a value. -/
def markExported (st : State) (name : String) : State :=
  match st.var? name with
  | some _ => st.modifyVar name fun v => { v with exported := true }
  | none =>
    { st with vars := st.vars ++ [⟨name, "", false, true, st.nextSeq, false, false⟩],
              nextSeq := st.nextSeq + 1 }

/-- Unset a variable: the shell's own lose their value and export, others leave the table;
a read-only one stays. -/
def unset (st : State) (name : String) : State :=
  match st.var? name with
  | some v =>
    if v.readonly then st
    else if v.fixed then st.modifyVar name fun v => { v with value := "", isSet := false,
                                                              exported := false }
    else { st with vars := st.vars.filter (·.name != name) }
  | none => st

/-- Make a variable local to the running function: what it is now comes back when the
function returns. Outside a function nothing changes. -/
def makeLocal (st : State) (name : String) : State :=
  match st.locals with
  | some saved =>
    if saved.any (·.1 == name) then st
    else { st with locals := some ((name, st.var? name) :: saved) }
  | none => st

/-- Put back the variables the returning function made local, and the caller's own locals. -/
def restoreLocals (st : State) (outer : Option (List (String × Option Var))) : State :=
  let saved := st.locals.getD []
  let st := saved.foldl (fun (st : State) (n, old) =>
    match old with
    | some v =>
      if (st.var? n).isSome then st.modifyVar n fun _ => v
      else { st with vars := st.vars ++ [v] }
    | none => { st with vars := st.vars.filter (·.name != n) }) st
  { st with locals := outer }

/-- The variables in the order of the table: by chain, the newest first in each. -/
def tableOrder (st : State) : List Var :=
  st.vars.mergeSort fun a b =>
    chainOf a.name < chainOf b.name || (chainOf a.name == chainOf b.name && a.seq ≥ b.seq)

/-- The environment block of a program the shell starts. -/
def environ (st : State) : List String :=
  (st.tableOrder.filter fun v => v.exported && v.isSet).map fun v => v.name ++ "=" ++ v.value

/-- The field separators. -/
def ifs (st : State) : String := (st.lookup "IFS").getD " \t\n"

/-- The shell's own variables, in the order they enter the table. -/
def ownVars : List (String × Option String) :=
  [("IFS", some " \t\n"), ("MAIL", none), ("MAILPATH", none), ("PATH", some defaultPath),
    ("PS1", some "$ "), ("PS2", some "> "), ("PS4", some "+ "), ("OPTIND", some "1"),
    ("LINENO", some "")]

/-- The name of an environment entry, when it is a variable name followed by `=`, and its
value. -/
def importEntry (entry : String) : Option (String × String) :=
  let cs := entry.toList
  match cs.findIdx? (· = '=') with
  | some k =>
    let name := String.ofList (cs.take k)
    if isName name then some (name, String.ofList (cs.drop (k + 1))) else none
  | none => none

/-- A shell started with an environment block in a working directory, with streams `io`, whose
parent has number `ppid`. -/
def start (environ : List String) (cwd : String) (io : Streams) (ppid : Nat) : State :=
  let own := ownVars.zipIdx.map fun ((n, v), k) =>
    (⟨n, v.getD "", v.isSome, false, k, true, false⟩ : Var)
  let st : State :=
    ⟨own, own.length, [], [], 0, false, false, cwd, io, [], none, none, none, none⟩
  let st := environ.foldl (fun st e =>
    match importEntry e with
    | some (n, v) => st.assign n v true
    | none => st) st
  let st := (st.assign "IFS" " \t\n" false).assign "OPTIND" "1" false
  let st := st.assign "PPID" (toString ppid) false
  st.assign "PWD" cwd true

end State

example : chainOf "A" = 13 ∧ chainOf "PWD" = 33 ∧ chainOf "B" = 30 := by decide

end AgentLink.Shell
