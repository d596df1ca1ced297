import AgentLink.Number.Binary64

/-!
# TOML documents

A TOML document is a tree of `Item`s. Scalars carry the byte range of their text; an array
written as a value carries the range of its brackets. A table is written in braces, opened by
a header, or made implicitly by a header or dotted key that passes through it; its range is
its braces, or its header extended over the key/value lines that follow it, and a table with
no text of its own has none. An array of tables is an array whose items are header tables.
Table entries keep their keys, with the range of the key's text, in the order written.

A `Problem` is a reason and, when known, a byte range to point at.
-/

namespace AgentLink.Toml

/-- A byte range of the source, `start` included, `stop` excluded. -/
structure Span where
  start : Nat
  stop : Nat
  deriving DecidableEq, Inhabited

/-- A key as written: its name, its text (with quotes, if quoted) and where it stands. -/
structure Key where
  name : String
  raw : String
  span : Span
  deriving Inhabited

/-- How a table came to be. -/
inductive TableKind where
  /-- Written in braces as a value. -/
  | inline
  /-- Made inside braces by a dotted key. -/
  | inlineDotted
  /-- Opened by a header. -/
  | header
  /-- Made by a header that passes through it. -/
  | implicit
  /-- Made by a dotted key outside braces. -/
  | dotted
  deriving DecidableEq, Inhabited

/-- A node of a TOML document. -/
inductive Item where
  | string (s : String) (span : Span)
  | integer (i : Int) (span : Span)
  | float (x : Binary64) (span : Span)
  | boolean (b : Bool) (span : Span)
  /-- A date, time or both, kept as its canonical text. -/
  | datetime (text : String) (span : Span)
  /-- An array; `ofTables` for an array of tables, whose range runs from its first table's
  header to its last table's end. -/
  | array (items : List Item) (ofTables : Bool) (span : Option Span)
  | table (kind : TableKind) (entries : List (Key × Item)) (span : Option Span)
  deriving Inhabited

namespace Item

/-- The item's byte range, when it has one. -/
def span? : Item → Option Span
  | .string _ s | .integer _ s | .float _ s | .boolean _ s | .datetime _ s => some s
  | .array _ _ s | .table _ _ s => s

/-- Whether the item is a value (anything but a table outside braces or an array of tables). -/
def isValue : Item → Bool
  | .table .inline _ _ | .table .inlineDotted _ _ => true
  | .table _ _ _ => false
  | .array _ true _ => false
  | _ => true

/-- The name of the item's type. -/
def typeName : Item → String
  | .string .. => "string"
  | .integer .. => "integer"
  | .float .. => "float"
  | .boolean .. => "boolean"
  | .datetime .. => "datetime"
  | .array _ true _ => "array of tables"
  | .array .. => "array"
  | .table .inline .. | .table .inlineDotted .. => "inline table"
  | .table .. => "table"

end Item

/-- A reason to refuse a document, and where. -/
structure Problem where
  message : String
  span : Option Span
  deriving Inhabited

end AgentLink.Toml
