import AgentLink.Json.Value
import AgentLink.Text.Quote

/-!
# Writing JSON text

`Value.render` writes the compact form: no blanks, members in key order, and in strings only
`"`, `\` and the controls below U+0020 escaped (`\b`, `\t`, `\n`, `\f`, `\r` by name, the rest
as `\u00xx` with lowercase digits); everything else, DEL and the line separators included, is
written as itself. Integers are written in decimal and floats in the wire notation.
`Value.debugText` is the structural diagnostic form used in error reports, such as
`Object {"retry": Bool(true)}`.
-/

namespace AgentLink.Json

/-- One character inside a JSON string. -/
def escapeChar (c : Char) : String :=
  if c = '"' then "\\\""
  else if c = '\\' then "\\\\"
  else if c.toNat < 0x20 then
    if c = '\x08' then "\\b"
    else if c = '\t' then "\\t"
    else if c = '\n' then "\\n"
    else if c = '\x0c' then "\\f"
    else if c = '\r' then "\\r"
    else
      let h := Nat.toDigits 16 c.toNat
      "\\u00" ++ String.ofList (if h.length < 2 then '0' :: h else h)
  else String.singleton c

/-- A string as a JSON string literal. -/
def quoteString (s : String) : String :=
  s.toList.foldl (fun acc c => acc ++ escapeChar c) "\"" ++ "\""

/-- The text of a number. -/
def Number.text : Number → String
  | .nat n => toString n
  | .neg n => toString n
  | .float x => x.wireText

namespace Value

mutual
/-- The compact JSON text of a value. -/
def render : Value → String
  | .null => "null"
  | .bool b => if b then "true" else "false"
  | .number n => n.text
  | .string s => quoteString s
  | .array xs => "[" ++ renderItems xs ++ "]"
  | .object kvs => "\x7b" ++ renderFields kvs ++ "\x7d"
/-- The items of an array, comma-separated. -/
def renderItems : List Value → String
  | [] => ""
  | [x] => render x
  | x :: xs => render x ++ "," ++ renderItems xs
/-- The members of an object, comma-separated. -/
def renderFields : List (String × Value) → String
  | [] => ""
  | [(k, v)] => quoteString k ++ ":" ++ render v
  | (k, v) :: kvs => quoteString k ++ ":" ++ render v ++ "," ++ renderFields kvs
end

mutual
/-- The diagnostic form of a value. -/
def debugText : Value → String
  | .null => "Null"
  | .bool b => if b then "Bool(true)" else "Bool(false)"
  | .number n => "Number(" ++ n.text ++ ")"
  | .string s => "String(" ++ quote s ++ ")"
  | .array xs => "Array [" ++ debugItems xs ++ "]"
  | .object kvs => "Object \x7b" ++ debugFields kvs ++ "\x7d"
/-- The diagnostic form of array items. -/
def debugItems : List Value → String
  | [] => ""
  | [x] => debugText x
  | x :: xs => debugText x ++ ", " ++ debugItems xs
/-- The diagnostic form of object members. -/
def debugFields : List (String × Value) → String
  | [] => ""
  | [(k, v)] => quote k ++ ": " ++ debugText v
  | (k, v) :: kvs => quote k ++ ": " ++ debugText v ++ ", " ++ debugFields kvs
end

example : (Value.object [("a", .array [ofNat 1, .string "x\n"]), ("b", .null)]).render =
    "\x7b\"a\":[1,\"x\\n\"],\"b\":null\x7d" := by decide +kernel
example : (Value.object [("retry", .bool true)]).debugText =
    "Object \x7b\"retry\": Bool(true)\x7d" := by
  decide +kernel

end Value

end AgentLink.Json
