import AgentLink.Json.Writer

/-!
# Permission requests

In the middle of a turn the agent may ask the host for permission to run a tool
(`session/request_permission`). `PermissionRequest.ofParams` reads such a request leniently:
the tool call must be an object to be read at all; a tool call without a string id gets a
fresh one; a request without a string session id belongs to the fallback session; options that
are not objects are dropped and the others numbered from 1, an option without a string id,
name or kind getting `option-N`, `Option N` and `allow_once`. The host answers with a
`PermissionResponse`, sent back to the agent as its outcome record.
-/

namespace AgentLink

open Json

/-- The option kind assumed when the agent gives none. -/
def defaultOptionKind : String := "allow_once"

/-- One answer the agent offers. -/
structure PermissionOption where
  optionId : String
  name : String
  kind : String
  deriving Inhabited

/-- A request for permission, as read from the agent. -/
structure PermissionRequest where
  id : String
  sessionId : String
  toolCallId : String
  title : Option String
  kind : Option String
  rawInput : Option Value
  rawOutput : Option Value
  options : List PermissionOption
  deriving Inhabited

/-- Hexadecimal digits of `n`, lowercase, padded with zeros to `width`. -/
def hexPadded (n width : Nat) : String :=
  let ds := Nat.toDigits 16 n
  String.ofList (List.replicate (width - ds.length) '0' ++ ds)

/-- The `n`-th tool call id the bridge makes up for a request that names none: `tool-` and a
version 4 UUID. -/
def freshToolCallId (n : Nat) : String :=
  "tool-00000000-0000-4000-8000-" ++ hexPadded n 12

/-- A string member of a value, when it is an object holding a string there. -/
def stringAt (v : Value) (key : String) : Option String := v.getStr? key

/-- The options of a request: objects only, numbered from 1 for their fallbacks. -/
def readOptions (raw : List Value) : List PermissionOption :=
  let objects := raw.filter fun
    | .object _ => true
    | _ => false
  (List.range objects.length).zip objects |>.map fun (i, o) =>
    { optionId := (stringAt o "optionId").getD ("option-" ++ toString (i + 1))
      name := (stringAt o "name").getD ("Option " ++ toString (i + 1))
      kind := (stringAt o "kind").getD defaultOptionKind }

namespace PermissionRequest

/-- Read a request from its params; `freshId` is the tool call id used when none is given,
`fallback` the session when none is given. -/
def ofParams (params : Value) (fallback freshId : String) : PermissionRequest :=
  let toolCall := match params.get? "toolCall" with
    | some (.object kvs) => Value.object kvs
    | _ => Value.object []
  let toolCallId := (stringAt toolCall "toolCallId").getD freshId
  let options := match params.get? "options" with
    | some (.array xs) => readOptions xs
    | _ => []
  { id := toolCallId
    sessionId := (stringAt params "sessionId").getD fallback
    toolCallId := toolCallId
    title := stringAt toolCall "title"
    kind := stringAt toolCall "kind"
    rawInput := toolCall.get? "rawInput"
    rawOutput := toolCall.get? "rawOutput"
    options := options }

/-- The request as a record, in its member order. -/
def toValue (r : PermissionRequest) : Value :=
  let opt : Option Value → Value := fun
    | some v => v
    | none => .null
  .object [("id", .string r.id), ("sessionId", .string r.sessionId),
    ("toolCallId", .string r.toolCallId), ("title", Value.optStr r.title),
    ("kind", Value.optStr r.kind), ("rawInput", opt r.rawInput), ("rawOutput", opt r.rawOutput),
    ("options", .array (r.options.map fun o =>
      .object [("optionId", .string o.optionId), ("name", .string o.name),
        ("kind", .string o.kind)]))]

end PermissionRequest

/-- The host's answer to a permission request. -/
inductive PermissionResponse where
  /-- Dismissed without choosing. -/
  | cancelled
  /-- The option with this id was chosen. -/
  | selected (optionId : String)
  deriving DecidableEq, Inhabited

/-- The answer as sent back to the agent. -/
def PermissionResponse.outcome : PermissionResponse → Value
  | .cancelled => .object [("outcome", .object [("outcome", .string "cancelled")])]
  | .selected id =>
    Value.obj [("outcome", Value.obj [("outcome", .string "selected"), ("optionId", .string id)])]

/-- How the host answers the agent's permission requests. -/
inductive PermissionPolicy where
  /-- Dismiss every request. -/
  | cancel
  /-- Choose the first option of kind `allow_once`, or dismiss. -/
  | allowOnce
  /-- Choose the first option offered. -/
  | firstOption
  deriving DecidableEq, Inhabited

/-- The answer the policy gives to a request. -/
def PermissionPolicy.decide (p : PermissionPolicy) (r : PermissionRequest) : PermissionResponse :=
  let chosen := match p with
    | .cancel => none
    | .allowOnce => r.options.find? fun (o : PermissionOption) => o.kind == defaultOptionKind
    | .firstOption => r.options.head?
  match chosen with
  | some o => .selected o.optionId
  | none => .cancelled

end AgentLink
