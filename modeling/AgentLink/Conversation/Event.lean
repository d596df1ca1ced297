import AgentLink.Json.Writer

/-!
# Conversation events

What the agent says during a turn reaches the host as `Event`s: text and reasoning fragments,
tool calls and their updates, plan revisions, and the end of the turn. `Event.toValue` is the
event as a record: a `type` tag first, then its members in a fixed order, every member present
and `null` when absent.
-/

namespace AgentLink

open Json

/-- One entry of the agent's plan. -/
structure PlanEntry where
  content : String
  status : Option String := none
  priority : Option String := none
  deriving Inhabited

/-- The entry as a record: `content`, `status`, `priority`. -/
def PlanEntry.toValue (e : PlanEntry) : Value :=
  .object [("content", .string e.content), ("status", Value.optStr e.status),
    ("priority", Value.optStr e.priority)]

/-- What happened in a turn. -/
inductive Event where
  /-- A fragment of the answer. -/
  | textDelta (text : String)
  /-- A fragment of the agent's reasoning. -/
  | thoughtDelta (text : String)
  /-- A tool call started. -/
  | toolCall (toolCallId title : String) (kind status : Option String) (rawInput : Option Value)
  /-- A running tool call changed. -/
  | toolCallUpdate (toolCallId : String) (status title text : Option String)
      (rawOutput : Option Value)
  /-- The plan was published or revised. -/
  | plan (entries : List PlanEntry)
  /-- The turn ended. -/
  | turnComplete (stopReason : String)
  deriving Inhabited

/-- An optional value, `null` when absent. -/
def Value.ofOption : Option Value → Value
  | some v => v
  | none => .null

namespace Event

/-- The event as a record: the `type` tag, then the members in order. -/
def toValue : Event → Value
  | .textDelta t => .object [("type", .string "text_delta"), ("text", .string t)]
  | .thoughtDelta t => .object [("type", .string "thought_delta"), ("text", .string t)]
  | .toolCall id title kind status raw =>
    .object [("type", .string "tool_call"), ("tool_call_id", .string id),
      ("title", .string title), ("kind", Value.optStr kind), ("status", Value.optStr status),
      ("raw_input", Value.ofOption raw)]
  | .toolCallUpdate id status title text raw =>
    .object [("type", .string "tool_call_update"), ("tool_call_id", .string id),
      ("status", Value.optStr status), ("title", Value.optStr title),
      ("text", Value.optStr text), ("raw_output", Value.ofOption raw)]
  | .plan entries =>
    .object [("type", .string "plan"), ("entries", .array (entries.map PlanEntry.toValue))]
  | .turnComplete r => .object [("type", .string "turn_complete"), ("stop_reason", .string r)]

example : (Event.textDelta "hi").toValue.render =
    "\x7b\"type\":\"text_delta\",\"text\":\"hi\"\x7d" := by decide +kernel

end Event

end AgentLink
