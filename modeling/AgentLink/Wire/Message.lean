import AgentLink.Failure

/-!
# The JSON-RPC envelope

Every line between the bridge and its agent is one `Message`. Which of `id` and `method` it
carries decides its role (`Message.kind`): both make a request, only an id a response, only a
method a notification, neither an invalid message. Outbound messages are made by the four
constructors, which always set `jsonrpc` to `"2.0"`.

`Message.render` writes the envelope in its fixed member order `jsonrpc, id, method, params,
result, error`, with an error object as `code, message, data`, leaving out absent members; a
present `null` is written. `Message.outcome` reads a response: the error object wins over the
result, and a missing result is `null`.
-/

namespace AgentLink

open Json

/-- A request id: a number below `2^64` or a string. -/
inductive RequestId where
  | num (n : Nat)
  | text (s : String)
  deriving DecidableEq, Inhabited

namespace RequestId

/-- The id as text: the number in decimal, or the string itself. -/
def display : RequestId → String
  | .num n => toString n
  | .text s => s

/-- The id as a JSON value. -/
def toValue : RequestId → Value
  | .num n => .number (.nat n)
  | .text s => .string s

end RequestId

/-- The error object of a failed response. -/
structure RpcError where
  code : Int
  message : String
  data : Option Value
  deriving Inhabited

/-- The role of a message. -/
inductive MessageKind where
  | request
  | response
  | notification
  | invalid
  deriving DecidableEq, Inhabited

/-- The role's name. -/
def MessageKind.name : MessageKind → String
  | .request => "request"
  | .response => "response"
  | .notification => "notification"
  | .invalid => "invalid"

/-- One envelope; every member may be absent. -/
structure Message where
  jsonrpc : Option String := none
  id : Option RequestId := none
  method : Option String := none
  params : Option Value := none
  result : Option Value := none
  error : Option RpcError := none
  deriving Inhabited

/-- The protocol version written on every outbound message. -/
def protocolVersion : String := "2.0"

/-- The error code for an inbound method nobody handles. -/
def methodNotFound : Int := -32601

/-- The error code for a handler that failed. -/
def internalError : Int := -32603

namespace Message

/-- A request from the bridge. -/
def request (id : RequestId) (method : String) (params : Value) : Message :=
  { jsonrpc := some protocolVersion, id := some id, method := some method, params := some params }

/-- A notification from the bridge. -/
def notification (method : String) (params : Value) : Message :=
  { jsonrpc := some protocolVersion, method := some method, params := some params }

/-- A successful answer to the agent's request. -/
def response (id : RequestId) (result : Value) : Message :=
  { jsonrpc := some protocolVersion, id := some id, result := some result }

/-- A failed answer to the agent's request. -/
def errorResponse (id : RequestId) (code : Int) (message : String) : Message :=
  { jsonrpc := some protocolVersion, id := some id,
    error := some { code := code, message := message, data := none } }

/-- The role, by which of `id` and `method` are present. -/
def kind (m : Message) : MessageKind :=
  match m.id.isSome, m.method.isSome with
  | true, true => .request
  | true, false => .response
  | false, true => .notification
  | false, false => .invalid

/-- What a response carries: the error object as a remote failure, else the result or `null`. -/
def outcome (m : Message) : Except Failure Value :=
  match m.error with
  | some e => .error (.remote e.code e.message e.data)
  | none => .ok (m.result.getD .null)

/-- The members present, in wire order. -/
def members (m : Message) : List (String × String) :=
  let opt {α : Type} (key : String) (v : Option α) (f : α → String) :
      List (String × String) :=
    match v with
    | some x => [(key, f x)]
    | none => []
  opt "jsonrpc" m.jsonrpc quoteString ++
  opt "id" m.id (fun i => i.toValue.render) ++
  opt "method" m.method quoteString ++
  opt "params" m.params Value.render ++
  opt "result" m.result Value.render ++
  opt "error" m.error (fun e =>
    "\x7b\"code\":" ++ toString e.code ++ ",\"message\":" ++ quoteString e.message ++
      (match e.data with
        | some d => ",\"data\":" ++ d.render
        | none => "") ++ "\x7d")

/-- The compact wire text of a message, without the line end. -/
def render (m : Message) : String :=
  "\x7b" ++ ",".intercalate (m.members.map fun (k, v) => quoteString k ++ ":" ++ v) ++ "\x7d"

/-- The message as a JSON value (an object with the present members). -/
def toValue (m : Message) : Value :=
  let opt {α : Type} (key : String) (v : Option α) (f : α → Value) : List (String × Value) :=
    match v with
    | some x => [(key, f x)]
    | none => []
  Value.obj <|
    opt "jsonrpc" m.jsonrpc Value.string ++
    opt "id" m.id RequestId.toValue ++
    opt "method" m.method Value.string ++
    opt "params" m.params (fun v => v) ++
    opt "result" m.result (fun v => v) ++
    opt "error" m.error (fun e =>
      Value.obj ([("code", Value.ofInt e.code), ("message", .string e.message)] ++
        opt "data" e.data (fun v => v)))

example : (request (.num 7) "initialize" (.object [])).render =
    "\x7b\"jsonrpc\":\"2.0\",\"id\":7,\"method\":\"initialize\",\"params\":\x7b\x7d\x7d" := by
  decide +kernel

end Message

end AgentLink
