import AgentLink.Json.Writer

/-!
# Failures

Every operation of the bridge fails with one `Failure`. Each kind has a fixed display text
(`Failure.display`): a short prefix naming the layer, then the message. `Failure.debugText`
is the structural form printed when the command line gives up, with strings quoted as in
diagnostics and the structured detail of a remote error shown as a JSON value's diagnostic
form.
-/

namespace AgentLink

open Json

/-- The ways an operation of the bridge fails. -/
inductive Failure where
  /-- The configuration could not be read or is invalid. -/
  | config (msg : String)
  /-- A file or stream operation failed. -/
  | io (msg : String)
  /-- The agent stream carried something the protocol does not allow. -/
  | protocol (msg : String)
  /-- A request was not answered in time. -/
  | timeout (msg : String)
  /-- The agent answered with an error object. -/
  | remote (code : Int) (message : String) (data : Option Value)
  /-- The connection was closed while a call was outstanding. -/
  | transportClosed
  /-- The handshake failed or ran out of attempts. -/
  | initializationFailed (msg : String)
  /-- Opening a session failed. -/
  | sessionCreationFailed (msg : String)
  /-- An operation needed a connection that is not there. -/
  | notInitialized
  /-- A prompt was sent while another turn was running. -/
  | turnInProgress (msg : String)
  /-- The agent process failed. -/
  | process (msg : String)
  deriving Inhabited

namespace Failure

/-- The kind's name, as failure reports carry it. -/
def kindName : Failure → String
  | .config _ => "Config"
  | .io _ => "Io"
  | .protocol _ => "Acp"
  | .timeout _ => "Timeout"
  | .remote .. => "Remote"
  | .transportClosed => "TransportClosed"
  | .initializationFailed _ => "InitializationFailed"
  | .sessionCreationFailed _ => "SessionCreationFailed"
  | .notInitialized => "NotInitialized"
  | .turnInProgress _ => "TurnInProgress"
  | .process _ => "Process"

/-- The display text. -/
def display : Failure → String
  | .config m => "config: " ++ m
  | .io m => "io: " ++ m
  | .protocol m => "acp: " ++ m
  | .timeout m => "timeout: " ++ m
  | .remote code m _ => "remote error " ++ toString code ++ ": " ++ m
  | .transportClosed => "transport closed"
  | .initializationFailed m => "initialization failed: " ++ m
  | .sessionCreationFailed m => "session creation failed: " ++ m
  | .notInitialized => "acp transport not initialized"
  | .turnInProgress m => "turn in progress: " ++ m
  | .process m => "process: " ++ m

/-- The message a kind carries, for the kinds that carry one. -/
def message? : Failure → Option String
  | .config m | .io m | .protocol m | .timeout m | .initializationFailed m
  | .sessionCreationFailed m | .turnInProgress m | .process m => some m
  | .remote .. | .transportClosed | .notInitialized => none

/-- The structural diagnostic form. -/
def debugText (f : Failure) : String :=
  match f with
  | .remote code m data =>
    let d := match data with
      | some v => "Some(" ++ v.debugText ++ ")"
      | none => "None"
    "Remote \x7b code: " ++ toString code ++ ", message: " ++ quote m ++ ", data: " ++ d ++ " \x7d"
  | _ =>
    match f.message? with
    | some m => f.kindName ++ "(" ++ quote m ++ ")"
    | none => f.kindName

example : (Failure.config "bad").debugText = "Config(\"bad\")" := by decide
example : Failure.transportClosed.debugText = "TransportClosed" := by decide

end Failure

end AgentLink
