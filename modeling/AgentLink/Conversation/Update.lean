import AgentLink.Conversation.Event

/-!
# Reading session updates

The agent reports progress in `session/update` notifications whose `update` payload is a
tagged record: the tag `sessionUpdate` names the kind, and the other members are the kind's
fields. `normalize` turns one payload into the events it stands for; a payload it cannot read
gives none, so one bad update never stops a turn.

A tagged record comes in two forms. As an object, the tag is the member under the tag's name
and the fields are the other members, by name. As an array, the tag is the first item and the
fields follow by position; more items than fields is refused. A tag read straight from the
payload must be a string; a tag inside a field that was read as a whole value first (the
content block of a tool call's content) may also be a variant's index. An unknown tag is the
catch-all kind, which every enumeration here has last.
-/

namespace AgentLink

open Json

namespace Update

/-- Where a tagged record comes from: straight from the payload, or from inside a field that
was read as a whole value first. -/
inductive Source where
  | direct
  | buffered
  deriving DecidableEq

/-- The fields of a record by name: from an object by key, from an array by position (absent
past its end); an array with more items than the record has fields is refused. -/
def fields (names : List String) : Value → Option (List (Option Value))
  | .object kvs => some (names.map fun n => kvs.lookup n)
  | .array vs => if vs.length ≤ names.length then some ((List.range names.length).map (vs[·]?))
    else none
  | _ => none

/-- Split a tagged record into its tag and its fields. -/
def untag (tag : String) : Value → Option (Value × Value)
  | .object kvs => (kvs.lookup tag).map fun t => (t, .object (kvs.filter (·.1 != tag)))
  | .array (t :: rest) => some (t, .array rest)
  | _ => none

/-- The variant a tag names: its index in `names`, or `names.length` (the catch-all) for any
other name or index. -/
def variant (src : Source) (names : List String) : Value → Option Nat
  | .string s => some (names.idxOf s)
  | .number (.nat i) => if src = .buffered then some (min i names.length) else none
  | _ => none

/-- A required string field. -/
def needString : Option Value → Option String
  | some (.string s) => some s
  | _ => none

/-- An optional string field: absent or `null` is none. -/
def optString : Option Value → Option (Option String)
  | none | some .null => some none
  | some (.string s) => some (some s)
  | _ => none

/-- A required field of any value, `null` included. -/
def needValue : Option Value → Option Value := id

/-- An optional field of any value: absent or `null` is none. -/
def optValue : Option Value → Option (Option Value)
  | none | some .null => some none
  | some v => some (some v)

/-- A list field that defaults to empty when absent. -/
def listOrEmpty : Option Value → Option (List Value)
  | none => some []
  | some (.array xs) => some xs
  | _ => none

/-- An optional list field: absent or `null` is none. -/
def optList : Option Value → Option (Option (List Value))
  | none | some .null => some none
  | some (.array xs) => some (some xs)
  | _ => none

/-- The text of a content block, when it is a text block. -/
def blockText (src : Source) (v : Value) : Option String := do
  let (t, rest) ← untag "type" v
  let i ← variant src ["text"] t
  if i = 0 then
    let fs ← fields ["text"] rest
    needString (fs.getD 0 none)
  else none

/-- The text of one item of a tool call's content, when it is a text content block. -/
def itemText (v : Value) : Option String := do
  let (t, rest) ← untag "type" v
  let i ← variant .direct ["content"] t
  if i = 0 then
    let fs ← fields ["content"] rest
    let block ← needValue (fs.getD 0 none)
    blockText .buffered block
  else none

/-- The texts of a tool call's content items joined by newlines; none when there are none. -/
def toolText (items : List Value) : Option String :=
  match items.filterMap itemText with
  | [] => none
  | parts => some ("\n".intercalate parts)

/-- One plan entry. -/
def planEntry (v : Value) : Option PlanEntry := do
  let fs ← fields ["content", "status", "priority"] v
  let content ← needString (fs.getD 0 none)
  let status ← optString (fs.getD 1 none)
  let priority ← optString (fs.getD 2 none)
  pure { content, status, priority }

/-- The kinds of update, in order; anything else is the catch-all. -/
def kinds : List String :=
  ["agent_message_chunk", "agent_thought_chunk", "tool_call", "tool_call_update", "plan"]

/-- The events of an update, or none when it cannot be read. -/
def events (update : Value) : Option (List Event) := do
  let (t, rest) ← untag "sessionUpdate" update
  let i ← variant .direct kinds t
  match i with
  | 0 =>
    let fs ← fields ["content"] rest
    let content ← needValue (fs.getD 0 none)
    pure ((blockText .direct content).map Event.textDelta).toList
  | 1 =>
    let fs ← fields ["content"] rest
    let content ← needValue (fs.getD 0 none)
    pure ((blockText .direct content).map Event.thoughtDelta).toList
  | 2 =>
    let fs ← fields ["toolCallId", "title", "kind", "status", "rawInput"] rest
    let id ← needString (fs.getD 0 none)
    let title ← optString (fs.getD 1 none)
    let kind ← optString (fs.getD 2 none)
    let status ← optString (fs.getD 3 none)
    let raw ← optValue (fs.getD 4 none)
    pure [.toolCall id (title.getD id) kind status raw]
  | 3 =>
    let fs ← fields ["toolCallId", "status", "title", "content", "rawOutput"] rest
    let id ← needString (fs.getD 0 none)
    let status ← optString (fs.getD 1 none)
    let title ← optString (fs.getD 2 none)
    let content ← optList (fs.getD 3 none)
    let raw ← optValue (fs.getD 4 none)
    pure [.toolCallUpdate id status title (content.bind toolText) raw]
  | 4 =>
    let fs ← fields ["entries"] rest
    let entries ← listOrEmpty (fs.getD 0 none)
    pure [.plan (entries.filterMap planEntry)]
  | _ => pure []

end Update

/-- The events one `session/update` payload stands for; none when it cannot be read. -/
def normalizeUpdate (update : Value) : List Event := (Update.events update).getD []

end AgentLink
