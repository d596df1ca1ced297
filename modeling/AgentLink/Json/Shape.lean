import AgentLink.Json.Fault
import AgentLink.Json.Value
import AgentLink.Text.Quote

/-!
# Shaping faults

When a value does not have the shape a typed read expects, the fault says what was found and
what was expected: `invalid type: integer `5`, expected a string`. `Found` is what was found,
described by kind; a string is quoted as in diagnostics, a float written in the wire notation,
and `null` is written as itself.
-/

namespace AgentLink.Json

/-- What a typed read found, by kind. -/
inductive Found where
  | null
  | bool (b : Bool)
  | unsigned (n : Nat)
  | signed (i : Int)
  | float (x : Binary64)
  | string (s : String)
  | seq
  | map
  deriving Inhabited

namespace Found

/-- The description of what was found. -/
def text : Found → String
  | .null => "null"
  | .bool b => "boolean `" ++ (if b then "true" else "false") ++ "`"
  | .unsigned n => "integer `" ++ toString n ++ "`"
  | .signed i => "integer `" ++ toString i ++ "`"
  | .float x => "floating point `" ++ x.wireText ++ "`"
  | .string s => "string " ++ quote s
  | .seq => "sequence"
  | .map => "map"

/-- A number, by kind. -/
def ofNumber : Number → Found
  | .nat n => .unsigned n
  | .neg i => .signed i
  | .float x => .float x

/-- A value, by kind. -/
def ofValue : Value → Found
  | .null => .null
  | .bool b => .bool b
  | .number n => ofNumber n
  | .string s => .string s
  | .array _ => .seq
  | .object _ => .map

end Found

/-- The fault for a value of the wrong kind. -/
def invalidType (found : Found) (expected : String) : Fault :=
  Fault.shape ("invalid type: " ++ found.text ++ ", expected " ++ expected)

/-- The fault for a value of the right kind but out of range. -/
def invalidValue (found : Found) (expected : String) : Fault :=
  Fault.shape ("invalid value: " ++ found.text ++ ", expected " ++ expected)

/-- The fault for a sequence of the wrong length. -/
def invalidLength (n : Nat) (expected : String) : Fault :=
  Fault.shape ("invalid length " ++ toString n ++ ", expected " ++ expected)

/-- The fault for a record missing a member it needs. -/
def missingField (name : String) : Fault :=
  Fault.shape ("missing field `" ++ name ++ "`")

/-- The fault for a record member given twice. -/
def duplicateField (name : String) : Fault :=
  Fault.shape ("duplicate field `" ++ name ++ "`")

/-- The fault for an untagged choice none of whose forms fit. -/
def noVariant (name : String) : Fault :=
  Fault.shape ("data did not match any variant of untagged enum " ++ name)

/-- The largest signed 64-bit integer. -/
def i64Max : Nat := Nat.pow 2 63 - 1

/-- A number read as a signed 64-bit integer. -/
def Number.toI64 : Number → Except Fault Int
  | .nat n => if n ≤ i64Max then .ok n else .error (invalidValue (.unsigned n) "i64")
  | .neg i => .ok i
  | .float x => .error (invalidType (.float x) "i64")

end AgentLink.Json
