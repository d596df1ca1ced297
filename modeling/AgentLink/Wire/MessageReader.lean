import AgentLink.Json.Reader
import AgentLink.Json.Shape
import AgentLink.Wire.Message

/-!
# Reading envelopes

An envelope is read from text (`Message.parse`) or from a JSON value (`Message.ofValue`).
Both accept an object, whose members may come in any order, or an array holding the members
by position (`jsonrpc, id, method, params, result, error`), shorter arrays leaving the rest
absent. Every member may be absent or `null`; unknown members are skipped; a member given twice
is refused. An id is a number below `2^64` or a string, and nothing else.

Read from text, a fault carries the byte index where reading stopped; a shaping fault with no
index of its own is placed where the innermost typed read returned, which for a record is after
its closing bracket has been looked at (and consumed, when it was there). Read from a value,
faults carry no place and members are visited in key order.
-/

namespace AgentLink

open Json Json.Scan

/-! ## From text -/

namespace TextRead

/-- What was found where a typed read expected something else, reading as far as needed. -/
def found : Scan Found := do
  match ← peek with
  | some 'n' => eat; ident ['u', 'l', 'l']; pure .null
  | some 't' => eat; ident ['r', 'u', 'e']; pure (.bool true)
  | some 'f' => eat; ident ['a', 'l', 's', 'e']; pure (.bool false)
  | some '-' => eat; return Found.ofNumber (← number false)
  | some '"' => eat; return .string (← string)
  | some '[' => pure .seq
  | some '{' => pure .map
  | some c => if c.isDigit then return Found.ofNumber (← number true) else failNext .expectedValue
  | none => failNext .expectedValue

/-- Refuse the value at the cursor as not being `expected`. -/
def refuse {α : Type} (expected : String) : Scan α := do
  throw (invalidType (← found) expected)

/-- A string. -/
def text : Scan String := placeHere do
  match ← skipSpace with
  | none => failNext .eofValue
  | some '"' => eat; string
  | some _ => refuse "a string"

/-- A signed 64-bit integer. -/
def int64 : Scan Int := placeHere do
  match ← skipSpace with
  | none => failNext .eofValue
  | some '-' =>
    eat
    match Number.toI64 (← number false) with
    | .ok i => pure i
    | .error f => throw f
  | some c =>
    if c.isDigit then
      match Number.toI64 (← number true) with
      | .ok i => pure i
      | .error f => throw f
    else refuse "i64"

/-- An optional value: `null` is absent. -/
def optional {α : Type} (inner : Scan α) : Scan (Option α) := do
  match ← skipSpace with
  | some 'n' => eat; ident ['u', 'l', 'l']; pure none
  | _ => some <$> inner

/-- A request id: any value is read, then only a number below `2^64` or a string is kept. -/
def requestId (fuel depth : Nat) : Scan RequestId := do
  match ← value fuel depth with
  | .number (.nat n) => pure (.num n)
  | .string s => pure (.text s)
  | _ => throw (noVariant "RequestId")

/-- Run a step and keep its outcome, fault or result, without stopping. -/
def attempt {α : Type} (s : Scan α) : Scan (Except Fault α) :=
  tryCatch (Except.ok <$> s) (fun f => pure (Except.error f))

/-- A step's result, then a closing step run in any case; the first fault wins. -/
def closedBy {α : Type} (body : Scan α) (close : Scan Unit) : Scan α := do
  let r ← attempt body
  let c ← attempt close
  match r, c with
  | .ok v, .ok () => pure v
  | .error f, _ => throw f
  | .ok _, .error f => throw f

/-- One member of a record: its name and how its value is read into the record. -/
structure Member (σ : Type) where
  name : String
  read : Nat → Nat → σ → Scan σ

/-- Read positional members: each present element in turn, the rest left as they are. -/
def byPosition {σ : Type} (fuel depth : Nat) : List (Member σ) → Bool → σ → Scan σ
  | [], _, r => pure r
  | m :: ms, first, r => do
    match ← nextItem first with
    | none => byPosition fuel depth ms first r
    | some _ =>
      let r' ← m.read fuel depth r
      byPosition fuel depth ms false r'

/-- Read named members until the closing brace; `seen` holds the names read. -/
def byName {σ : Type} (members : List (Member σ)) (depth : Nat) :
    Nat → Bool → List String → σ → Scan σ
  | 0, _, _, r => pure r
  | fuel + 1, first, seen, r => do
    if ← nextKey first then
      eat
      let key ← string
      match members.find? (·.name == key) with
      | some m =>
        if seen.contains key then throw (duplicateField key)
        colon
        let r' ← m.read fuel depth r
        byName members depth fuel false (key :: seen) r'
      | none =>
        colon
        skipValue
        byName members depth fuel false seen r
    else pure r

/-- A record named `name` with the given members, all optional, starting from `init`. -/
def record {σ : Type} (name : String) (members : List (Member σ)) (init : σ)
    (fuel depth : Nat) : Scan σ := placeHere do
  match ← skipSpace with
  | none => failNext .eofValue
  | some '[' =>
    nest depth
    closedBy (byPosition fuel (depth - 1) members true init) endArray
  | some '{' =>
    nest depth
    closedBy (byName members (depth - 1) fuel true [] init) endObject
  | some _ => refuse ("struct " ++ name)

/-- The members of an error object. -/
def rpcErrorMembers : List (Member RpcError) :=
  [⟨"code", fun _ _ r => do return { r with code := ← int64 }⟩,
   ⟨"message", fun _ _ r => do return { r with message := ← text }⟩,
   ⟨"data", fun fuel depth r => do return { r with data := ← optional (value fuel depth) }⟩]

/-- The members of an envelope. -/
def messageMembers : List (Member Message) :=
  [⟨"jsonrpc", fun _ _ m => do return { m with jsonrpc := ← optional text }⟩,
   ⟨"id", fun fuel depth m => do return { m with id := ← optional (requestId fuel depth) }⟩,
   ⟨"method", fun _ _ m => do return { m with method := ← optional text }⟩,
   ⟨"params", fun fuel depth m => do
      return { m with params := ← optional (value fuel depth) }⟩,
   ⟨"result", fun fuel depth m => do
      return { m with result := ← optional (value fuel depth) }⟩,
   ⟨"error", fun fuel depth m => do
      return { m with
        error := ← optional (record "RpcError" rpcErrorMembers ⟨0, "", none⟩ fuel depth) }⟩]

end TextRead

namespace Message

/-- Read one envelope from a whole text. -/
def parse (text : String) : Except Fault Message :=
  (do
    let m ← TextRead.record "Message" TextRead.messageMembers {} (← fuelFor) 128
    finish
    pure m).runOn text |>.1

/-- Read one envelope from a whole text, the fault rendered with its place. -/
def parseText (text : String) : Except String Message :=
  match parse text with
  | .ok m => .ok m
  | .error f => .error (f.render text)

end Message

/-! ## From a value -/

namespace ValueRead

/-- A string. -/
def text : Value → Except Fault String
  | .string s => .ok s
  | v => .error (invalidType (Found.ofValue v) "a string")

/-- A signed 64-bit integer. -/
def int64 : Value → Except Fault Int
  | .number n => Number.toI64 n
  | v => .error (invalidType (Found.ofValue v) "i64")

/-- An optional value: `null` is absent. -/
def optional {α : Type} (inner : Value → Except Fault α) : Value → Except Fault (Option α)
  | .null => .ok none
  | v => some <$> inner v

/-- A request id: a number below `2^64` or a string. -/
def requestId : Value → Except Fault RequestId
  | .number (.nat n) => .ok (.num n)
  | .string s => .ok (.text s)
  | _ => .error (noVariant "RequestId")

/-- One member of a record: its name and how a value is read into the record. -/
structure Member (σ : Type) where
  name : String
  read : Value → σ → Except Fault σ

/-- Read positional members from the items of an array. -/
def byPosition {σ : Type} :
    List (Member σ) → List Value → σ → Except Fault (σ × List Value)
  | [], vs, r => .ok (r, vs)
  | _, [], r => .ok (r, [])
  | m :: ms, v :: vs, r => do byPosition ms vs (← m.read v r)

/-- Read named members in the order of the object's keys. -/
def byName {σ : Type} (members : List (Member σ)) :
    List (String × Value) → σ → Except Fault σ
  | [], r => .ok r
  | (k, v) :: kvs, r =>
    match members.find? (·.name == k) with
    | some m => do byName members kvs (← m.read v r)
    | none => byName members kvs r

/-- A record named `name` with the given members, all optional. -/
def record {σ : Type} (name : String) (members : List (Member σ)) (init : σ) :
    Value → Except Fault σ
  | .array vs => do
    let (r, left) ← byPosition members vs init
    if left.isEmpty then .ok r else .error (invalidLength vs.length "fewer elements in array")
  | .object kvs => byName members kvs init
  | v => .error (invalidType (Found.ofValue v) ("struct " ++ name))

/-- An error object. -/
def rpcError : Value → Except Fault RpcError :=
  record "RpcError"
    [⟨"code", fun v r => do return { r with code := ← int64 v }⟩,
     ⟨"message", fun v r => do return { r with message := ← text v }⟩,
     ⟨"data", fun v r => do return { r with data := ← optional (fun x => .ok x) v }⟩]
    ⟨0, "", none⟩

/-- An envelope. -/
def message : Value → Except Fault Message :=
  record "Message"
    [⟨"jsonrpc", fun v m => do return { m with jsonrpc := ← optional text v }⟩,
     ⟨"id", fun v m => do return { m with id := ← optional requestId v }⟩,
     ⟨"method", fun v m => do return { m with method := ← optional text v }⟩,
     ⟨"params", fun v m => do return { m with params := ← optional (fun x => .ok x) v }⟩,
     ⟨"result", fun v m => do return { m with result := ← optional (fun x => .ok x) v }⟩,
     ⟨"error", fun v m => do return { m with error := ← optional rpcError v }⟩]
    {}

end ValueRead

/-- Read an envelope from a JSON value. -/
def Message.ofValue (v : Value) : Except Fault Message := ValueRead.message v

end AgentLink
