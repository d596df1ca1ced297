import AgentLink.Json.Value

/-!
# Prompt content

A prompt is a list of items: plain text, or a link to a resource the agent may read. Each item
is sent as a record tagged by its `type`.
-/

namespace AgentLink

open Json

/-- One item of a prompt. -/
inductive PromptItem where
  /-- Plain text. -/
  | text (text : String)
  /-- A resource the agent may read, with its display name. -/
  | resourceLink (uri name : String)
  deriving Inhabited

/-- The item as sent to the agent. -/
def PromptItem.toValue : PromptItem → Value
  | .text t => Value.obj [("type", .string "text"), ("text", .string t)]
  | .resourceLink uri name =>
    Value.obj [("type", .string "resource_link"), ("uri", .string uri), ("name", .string name)]

end AgentLink
