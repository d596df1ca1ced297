import AgentLink.Toml.Syntax
import AgentLink.Json.Value
import AgentLink.Number.Notation
import AgentLink.Text.Quote

/-!
# Typed reads of TOML items

A `Read α` turns an item into an `α` or a problem. Problems found deep inside a document take
the range of the innermost item that has one: `readAt` gives a problem without a range the
range of the item it was reading, and a table entry without a range of its own (a table made
implicitly) lends the range of its key.

Type mismatches are reported as `invalid type: <what was found>, expected <what was wanted>`,
where a string is shown quoted, an integer, float or boolean in backticks, a date-time or
table as `map`, and an array as `sequence`. A struct reads from a table (known keys in the
order written, others ignored; a missing required field is reported after all are read),
from a date-time (as a one-entry table), or from an array, its items taken as the fields in
order.
-/

namespace AgentLink.Toml

open Json

/-- A typed read of an item. -/
abbrev Read (α : Type) := Item → Except Problem α

/-- Give a problem without a range the range `s`. -/
def Problem.orAt (p : Problem) (s : Option Span) : Problem :=
  match p.span with
  | some _ => p
  | none => { p with span := s }

/-- Read an item; a problem without a range gets the item's range, or else `fallback`. -/
def readAt {α : Type} (r : Read α) (it : Item) (fallback : Option Span) : Except Problem α :=
  match r it with
  | .ok a => .ok a
  | .error p => .error (p.orAt (it.span? <|> fallback))

/-- The key under which a date-time reads as a table. -/
def datetimeKey : String := "$__toml_private_datetime"

/-- What an item is, as a type mismatch shows it. -/
def Item.unexpected : Item → String
  | .string s _ => "string " ++ quote s
  | .integer i _ => "integer `" ++ toString i ++ "`"
  | .float x _ => "floating point `" ++ x.withPoint ++ "`"
  | .boolean b _ => "boolean `" ++ (if b then "true" else "false") ++ "`"
  | .datetime .. | .table .. => "map"
  | .array .. => "sequence"

/-- A type mismatch. -/
def invalidType (it : Item) (expected : String) : Problem :=
  ⟨"invalid type: " ++ it.unexpected ++ ", expected " ++ expected, none⟩

/-- A string. -/
def readString (expected : String) : Read String
  | .string s _ => .ok s
  | it => .error (invalidType it expected)

/-- A natural number below `2 ^ bits`. -/
def readUnsigned (bits : Nat) : Read Nat
  | .integer i _ =>
    if 0 ≤ i ∧ i < (Nat.pow 2 bits : Int) then .ok i.toNat
    else
      .error ⟨"invalid value: integer `" ++ toString i ++ "`, expected u" ++ toString bits,
        none⟩
  | it => .error (invalidType it ("u" ++ toString bits))

/-- An array of items each read by `r`. -/
def readList {α : Type} (r : Read α) : Read (List α)
  | .array items _ _ => items.mapM fun it => readAt r it none
  | it => .error (invalidType it "a sequence")

/-- The entries of a table-like item, with their keys' ranges. -/
def Item.entries? : Item → Option (List (String × Option Span × Item))
  | .table _ es _ => some (es.map fun (k, v) => (k.name, some k.span, v))
  | .datetime text s => some [(datetimeKey, none, .string text s)]
  | _ => none

/-- A table whose values are each read by `r`, in the order written. -/
def readMap {α : Type} (r : Read α) : Read (List (String × α)) := fun it =>
  match it.entries? with
  | some es => es.mapM fun (k, ks, v) => do
    let a ← readAt r v ks
    pure (k, a)
  | none => .error (invalidType it "a map")

mutual
/-- A TOML item as a JSON value: date-times as one-member objects, tables as maps, and
non-finite floats as null. -/
def Item.toJson : Item → Value
  | .string s _ => .string s
  | .integer i _ => Value.ofInt i
  | .float x _ => if x.isFinite then .number (.float x) else .null
  | .boolean b _ => .bool b
  | .datetime text _ => .object [(datetimeKey, .string text)]
  | .array items _ _ => .array (itemsToJson items)
  | .table _ es _ => Value.obj (entriesToJson es)

/-- Items as JSON values. -/
def itemsToJson : List Item → List Value
  | [] => []
  | it :: more => it.toJson :: itemsToJson more

/-- Table entries as JSON members. -/
def entriesToJson : List (Key × Item) → List (String × Value)
  | [] => []
  | (k, v) :: more => (k.name, v.toJson) :: entriesToJson more
end

/-- One field of a struct: its name, how its item updates the record, and whether the struct
needs it. -/
structure Field (S : Type) where
  name : String
  read : Item → Except Problem (S → S)
  required : Bool

/-- Read a field's item into an update of the record. -/
def Field.of {S α : Type} (name : String) (r : Read α) (set : α → S → S) (required : Bool) :
    Field S :=
  ⟨name, fun it => (fun a => set a) <$> r it, required⟩

/-- A struct named `name` with `fields`, starting from the defaults in `init`. -/
def readStruct {S : Type} (name : String) (fields : List (Field S)) (init : S) : Read S := fun it =>
  match it.entries?, it with
  | some es, _ => do
    let step (acc : S × List String) (e : String × Option Span × Item) :
        Except Problem (S × List String) :=
      match fields.find? (·.name == e.1) with
      | none => pure acc
      | some f => do
        let upd ← readAt f.read e.2.2 e.2.1
        pure (upd acc.1, e.1 :: acc.2)
    let (s, seen) ← es.foldlM step (init, [])
    match fields.find? (fun f => f.required && !seen.contains f.name) with
    | some f => .error ⟨"missing field `" ++ f.name ++ "`", none⟩
    | none => pure s
  | none, .array items _ _ =>
    let n := fields.length
    let expecting := "struct " ++ name ++ " with " ++ toString n ++
      (if n = 1 then " element" else " elements")
    let step (s : S) (e : Field S × Nat) : Except Problem S :=
      match items[e.2]? with
      | some v => do
        let upd ← readAt e.1.read v none
        pure (upd s)
      | none =>
        if e.1.required then
          .error ⟨"invalid length " ++ toString e.2 ++ ", expected " ++ expecting, none⟩
        else pure s
    fields.zipIdx.foldlM step init
  | none, _ => .error (invalidType it ("struct " ++ name))

/-- How a list of names is offered in a message: `a`, `a` or `b`, or one of `a`, `b`, `c`. -/
def oneOf (names : List String) : String :=
  let q := names.map fun n => "`" ++ n ++ "`"
  match q with
  | [a] => a
  | [a, b] => a ++ " or " ++ b
  | _ => "one of " ++ ", ".intercalate q

/-- A unit variant of an enum, named by a string or by the one key of a table whose value is
empty. A non-empty array of tables there is not an empty array; any other non-empty value,
an array written in brackets included, is not an empty table. -/
def readVariant {α : Type} (variants : List (String × α)) : Read α := fun it =>
  let unknown (v : String) : String :=
    "unknown variant `" ++ v ++ "`, expected " ++ oneOf (variants.map (·.1))
  let byKey (es : List (Key × Item)) (span : Option Span) : Except Problem α :=
    match es with
    | [] => .error ⟨"expected table with exactly 1 entry, found empty table", span⟩
    | (k, v) :: _ =>
      match variants.lookup k.name with
      | none => .error ⟨unknown k.name, some k.span⟩
      | some a =>
        match v with
        | .array items ofTables s =>
          if items.isEmpty then .ok a
          else .error ⟨if ofTables then "expected empty array" else "expected empty table", s⟩
        | .table _ entries s =>
          if entries.isEmpty then .ok a else .error ⟨"expected empty table", s⟩
        | other => .error ⟨"expected table, found " ++ other.typeName, other.span?⟩
  match it with
  | .string s _ =>
    match variants.lookup s with
    | some a => .ok a
    | none => .error ⟨unknown s, none⟩
  | .table .inline es s | .table .inlineDotted es s =>
    match es with
    | [] => .error ⟨"wanted exactly 1 element, found 0 elements", s⟩
    | [_] => byKey es s
    | _ => .error ⟨"wanted exactly 1 element, more than 1 element", s⟩
  | .table _ es s => byKey es s
  | other => .error ⟨"wanted string or table", other.span?⟩

end AgentLink.Toml
