import AgentLink.Json.Reader

/-!
# Agent scripts

A scripted agent plays a list of actions in order: it waits for a message, answers the last
request of a method or the last message read, sends session updates, echoes what it read or
shows its environment and working directory as message chunks, writes raw lines or
diagnostics, sleeps, interrupts the process that started it, or ends itself.

A script is written as a JSON array of one-key objects, the key naming the action; `reply`
and `reply_error` may add `to` (the method whose last request is answered) and `update` may
add `session`.
-/

namespace AgentLink

open Json

/-- One action of a scripted agent. -/
inductive Action where
  /-- Read lines until one of this method arrives (any line when none is given). -/
  | receive (method : Option String)
  /-- Answer with a result. -/
  | reply (result : Value) (method : Option String)
  /-- Answer with an error object. -/
  | replyError (error : Value) (method : Option String)
  /-- Send a session update, for this session or the agent's current one. -/
  | update (update : Value) (session : Option String)
  /-- Send the last message read as a message chunk. -/
  | echo
  /-- Send the environment as a message chunk. -/
  | showEnv
  /-- Send the working directory as a message chunk. -/
  | showCwd
  /-- Send a value as a line. -/
  | send (v : Value)
  /-- Send a raw line. -/
  | raw (line : String)
  /-- Write a line of diagnostics. -/
  | stderr (line : String)
  | sleep (ms : Nat)
  /-- Sleep, then interrupt the process that started the agent. -/
  | interruptParent (ms : Nat)
  /-- Exit with a code, after letting the host read what was written. -/
  | exit (code : Int)
  /-- Die by a signal, after letting the host read what was written. -/
  | killSelf
  deriving Inhabited

/-- A whole number of a value, or zero. -/
def Json.Value.natOrZero : Value → Nat
  | .number (.nat n) => n
  | _ => 0

/-- A method or session name, when the value is a string. -/
def Json.Value.name? : Value → Option String
  | .string s => some s
  | _ => none

namespace Action

/-- Read one action. -/
def ofValue (v : Value) : Option Action :=
  let target := (v.get? "to").bind Value.name?
  let at? (k : String) : Option Value := v.get? k
  match at? "recv", at? "reply", at? "reply_error", at? "update" with
  | some m, _, _, _ => some (.receive m.name?)
  | none, some r, _, _ => some (.reply r target)
  | none, none, some e, _ => some (.replyError e target)
  | none, none, none, some u => some (.update u ((v.get? "session").bind Value.name?))
  | none, none, none, none =>
    if (at? "echo").isSome then some .echo
    else if (at? "env").isSome then some .showEnv
    else if (at? "cwd").isSome then some .showCwd
    else match at? "send", at? "raw", at? "stderr" with
      | some x, _, _ => some (.send x)
      | none, some (.string s), _ => some (.raw s)
      | none, none, some (.string s) => some (.stderr s)
      | _, _, _ =>
        match at? "sleep", at? "sigint_parent", at? "exit" with
        | some ms, _, _ => some (.sleep ms.natOrZero)
        | none, some ms, _ => some (.interruptParent ms.natOrZero)
        | none, none, some (.number (.nat n)) => some (.exit (n : Int))
        | none, none, some (.number (.neg n)) => some (.exit n)
        | _, _, _ => if (at? "kill_self").isSome then some .killSelf else none

end Action

/-- Read a script from its JSON text. Items that are not actions are passed over, and text
that is not a JSON array is the empty script. -/
def readScript (text : String) : List Action :=
  match readValue text with
  | .ok (.array items) => items.filterMap Action.ofValue
  | _ => []

end AgentLink
