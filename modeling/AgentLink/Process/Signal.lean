/-!
# Signals

A signal is named by its number, by its name (`KILL`), or by its name with `SIG` before it, in
any case. Most signals end a process that does not handle them; signal 0 only probes, and a
child's end, continuing, a stop, urgent data and a window change leave it running here (a
stopped process neither runs nor ends, so a stop counts as nothing).
-/

namespace AgentLink

/-- The signals by name and number. -/
def signalNames : List (String × Nat) :=
  [("HUP", 1), ("INT", 2), ("QUIT", 3), ("ILL", 4), ("TRAP", 5), ("ABRT", 6), ("BUS", 7),
    ("FPE", 8), ("KILL", 9), ("USR1", 10), ("SEGV", 11), ("USR2", 12), ("PIPE", 13),
    ("ALRM", 14), ("TERM", 15), ("CHLD", 17), ("CONT", 18), ("STOP", 19),
    ("TSTP", 20), ("TTIN", 21), ("TTOU", 22), ("URG", 23), ("XCPU", 24), ("XFSZ", 25),
    ("VTALRM", 26), ("PROF", 27), ("WINCH", 28), ("IO", 29), ("PWR", 30), ("SYS", 31)]

/-- How `kill -l` names signal `n`, from 1 to 64: by its name, the real-time ones counted from
the first or the last, and the rest by number. -/
def signalLabel (n : Nat) : String :=
  match (signalNames.find? (·.2 == n)) with
  | some (name, _) => name
  | none =>
    if n = 34 then "RTMIN"
    else if 34 < n && n < 50 then "RTMIN+" ++ toString (n - 34)
    else if 50 ≤ n && n < 64 then "RTMAX-" ++ toString (64 - n)
    else if n = 64 then "RTMAX"
    else toString n

/-- The number of a signal written as a number below 65, a name, or `SIG` and a name. -/
def signalNumber? (text : String) : Option Nat :=
  if !text.isEmpty && text.all Char.isDigit then
    let n := text.foldl (fun n d => 10 * n + (d.toNat - 48)) 0
    if n < 65 then some n else none
  else
    let upper := text.toUpper
    let bare := if upper.startsWith "SIG" then (upper.drop 3).toString else upper
    (List.range 65).find? fun n => n > 0 && signalLabel n == bare

/-- How the system describes a signal, as a shell reports a command it ended. -/
def signalDescription (n : Nat) : String :=
  match n with
  | 1 => "Hangup" | 2 => "Interrupt" | 3 => "Quit" | 4 => "Illegal instruction"
  | 5 => "Trace/breakpoint trap" | 6 => "Aborted" | 7 => "Bus error"
  | 8 => "Floating point exception" | 9 => "Killed" | 10 => "User defined signal 1"
  | 11 => "Segmentation fault" | 12 => "User defined signal 2" | 13 => "Broken pipe"
  | 14 => "Alarm clock" | 15 => "Terminated" | 16 => "Stack fault" | 17 => "Child exited"
  | 18 => "Continued" | 19 => "Stopped (signal)" | 20 => "Stopped" | 21 => "Stopped (tty input)"
  | 22 => "Stopped (tty output)" | 23 => "Urgent I/O condition"
  | 24 => "CPU time limit exceeded" | 25 => "File size limit exceeded"
  | 26 => "Virtual timer expired" | 27 => "Profiling timer expired" | 28 => "Window changed"
  | 29 => "I/O possible" | 30 => "Power failure" | 31 => "Bad system call"
  | _ => "Real-time signal " ++ toString (n - 34)

/-- Whether a signal ends a process that does not handle it. -/
def signalEnds (n : Nat) : Bool := !([0, 17, 18, 19, 20, 21, 22, 23, 28].contains n)

example : signalNumber? "sigkill" = some 9 ∧ signalNumber? "15" = some 15 := by cbv

end AgentLink
