import AgentLink.Failure

/-!
# Out-of-band reports about the agent process

Besides answers on its output stream, the agent process can fail on the side: it writes an
error-looking line on its diagnostic stream, writes a line that is not a message, closes its
output, refuses input, or exits. Each is a `ProcessReport` with a kind and a message, shown as
`<kind>: <message>`. A diagnostic line looks like an error when, with ASCII letters lowered,
it contains `error`, `fatal`, `panic` or `exception`.
-/

namespace AgentLink

/-- What went wrong with the agent process. -/
inductive ReportKind where
  /-- An error-looking line on the diagnostic stream. -/
  | stderr
  /-- A line on the output stream that is not a message. -/
  | malformedOutput
  /-- The output stream ended without the bridge closing it. -/
  | streamClosed
  /-- A message could not be written. -/
  | writeFailed
  /-- The process exited, with its code, or none when a signal ended it. -/
  | exited (code : Option Int)
  deriving DecidableEq, Inhabited

/-- The kind's diagnostic form. -/
def ReportKind.debugText : ReportKind → String
  | .stderr => "Stderr"
  | .malformedOutput => "MalformedOutput"
  | .streamClosed => "StreamClosed"
  | .writeFailed => "WriteFailed"
  | .exited (some c) => "Exited \x7b code: Some(" ++ toString c ++ ") \x7d"
  | .exited none => "Exited \x7b code: None \x7d"

/-- One out-of-band failure of the agent process. -/
structure ProcessReport where
  kind : ReportKind
  message : String
  deriving DecidableEq, Inhabited

namespace ProcessReport

/-- The report shown as `<kind>: <message>`. -/
def display (r : ProcessReport) : String := r.kind.debugText ++ ": " ++ r.message

/-- The report as a failure of the process. -/
def toFailure (r : ProcessReport) : Failure := .process r.display

end ProcessReport

/-- ASCII letters lowered, everything else kept. -/
def asciiLower (s : String) : String := String.ofList (s.toList.map Char.toLower)

/-- Whether `needle` occurs in `hay` as a contiguous run. -/
def containsRun (hay needle : List Char) : Bool :=
  match hay with
  | [] => needle.isEmpty
  | _ :: rest => needle.isPrefixOf hay || containsRun rest needle

/-- Whether a diagnostic line looks like an error. -/
def looksLikeError (line : String) : Bool :=
  let lower := (asciiLower line).toList
  ["error", "fatal", "panic", "exception"].any fun m => containsRun lower m.toList

example : looksLikeError "thread 'main' panicked" = true := by decide
example : looksLikeError "erro r" = false := by decide

end AgentLink
