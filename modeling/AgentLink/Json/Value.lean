import AgentLink.Number.Notation

/-!
# JSON values

A `Value` is a JSON document as the wire keeps it. Numbers keep their kind: a non-negative
integer below `2^64`, a negative integer down to `-2^63`, or a binary64 float; an integer
and a float of the same size are different values and are written differently. An object is
a list of members, written in list order. A map (every object read from text, and every
object built with `Value.obj`) keeps its members in strictly increasing key order (byte order
of the UTF-8 keys, which is code point order), a repeated key keeping its last value, so two
maps with the same members are the same list and equality is structural. A record written in
a fixed member order is built with `.object` directly.
-/

namespace AgentLink.Json

/-- A JSON number by kind. -/
inductive Number where
  /-- A non-negative integer below `2^64`. -/
  | nat (n : Nat)
  /-- A negative integer, at least `-2^63`. -/
  | neg (n : Int)
  /-- A binary64 float. -/
  | float (x : Binary64)
  deriving DecidableEq, Inhabited

/-- A JSON value; object members are held in the order they are written. -/
inductive Value where
  | null
  | bool (b : Bool)
  | number (n : Number)
  | string (s : String)
  | array (items : List Value)
  | object (fields : List (String × Value))
  deriving Inhabited

namespace Value

mutual
/-- Decide equality of two values. -/
def decEq : (a b : Value) → Decidable (a = b)
  | .null, .null => isTrue rfl
  | .bool a, .bool b =>
    if h : a = b then isTrue (h ▸ rfl) else isFalse (fun e => by cases e; exact h rfl)
  | .number a, .number b =>
    if h : a = b then isTrue (h ▸ rfl) else isFalse (fun e => by cases e; exact h rfl)
  | .string a, .string b =>
    if h : a = b then isTrue (h ▸ rfl) else isFalse (fun e => by cases e; exact h rfl)
  | .array xs, .array ys =>
    match decEqItems xs ys with
    | isTrue h => isTrue (h ▸ rfl)
    | isFalse h => isFalse (fun e => by cases e; exact h rfl)
  | .object xs, .object ys =>
    match decEqFields xs ys with
    | isTrue h => isTrue (h ▸ rfl)
    | isFalse h => isFalse (fun e => by cases e; exact h rfl)
  | .null, .bool _ | .null, .number _ | .null, .string _ | .null, .array _
  | .null, .object _ => isFalse (by intro h; cases h)
  | .bool _, .null | .bool _, .number _ | .bool _, .string _ | .bool _, .array _
  | .bool _, .object _ => isFalse (by intro h; cases h)
  | .number _, .null | .number _, .bool _ | .number _, .string _ | .number _, .array _
  | .number _, .object _ => isFalse (by intro h; cases h)
  | .string _, .null | .string _, .bool _ | .string _, .number _ | .string _, .array _
  | .string _, .object _ => isFalse (by intro h; cases h)
  | .array _, .null | .array _, .bool _ | .array _, .number _ | .array _, .string _
  | .array _, .object _ => isFalse (by intro h; cases h)
  | .object _, .null | .object _, .bool _ | .object _, .number _ | .object _, .string _
  | .object _, .array _ => isFalse (by intro h; cases h)
/-- Decide equality of two item lists. -/
def decEqItems : (a b : List Value) → Decidable (a = b)
  | [], [] => isTrue rfl
  | [], _ :: _ => isFalse (by intro h; cases h)
  | _ :: _, [] => isFalse (by intro h; cases h)
  | x :: xs, y :: ys =>
    match decEq x y, decEqItems xs ys with
    | isTrue h1, isTrue h2 => isTrue (h1 ▸ h2 ▸ rfl)
    | isFalse h1, _ => isFalse (fun e => by cases e; exact h1 rfl)
    | _, isFalse h2 => isFalse (fun e => by cases e; exact h2 rfl)
/-- Decide equality of two member lists. -/
def decEqFields : (a b : List (String × Value)) → Decidable (a = b)
  | [], [] => isTrue rfl
  | [], _ :: _ => isFalse (by intro h; cases h)
  | _ :: _, [] => isFalse (by intro h; cases h)
  | (k, x) :: xs, (l, y) :: ys =>
    if hk : k = l then
      match decEq x y, decEqFields xs ys with
      | isTrue h1, isTrue h2 => isTrue (hk ▸ h1 ▸ h2 ▸ rfl)
      | isFalse h1, _ => isFalse (fun e => by cases e; exact h1 rfl)
      | _, isFalse h2 => isFalse (fun e => by cases e; exact h2 rfl)
    else isFalse (fun e => by cases e; exact hk rfl)
end

instance : DecidableEq Value := decEq

/-- Code point order on character lists, which is byte order on their UTF-8 encodings. -/
def charsBefore : List Char → List Char → Bool
  | [], [] => false
  | [], _ :: _ => true
  | _ :: _, [] => false
  | a :: as, b :: bs => if a < b then true else if a = b then charsBefore as bs else false

/-- Key order: code point order, which is byte order on the UTF-8 keys. -/
def keyBefore (a b : String) : Bool := charsBefore a.toList b.toList

/-- Put a member into a key-ordered member list, replacing a member of the same key. -/
def insertField (k : String) (v : Value) : List (String × Value) → List (String × Value)
  | [] => [(k, v)]
  | (k', v') :: rest =>
    if k = k' then (k, v) :: rest
    else if keyBefore k k' then (k, v) :: (k', v') :: rest
    else (k', v') :: insertField k v rest

/-- Of neighbouring members with the same key, keep the last. -/
def keepLast : List (String × Value) → List (String × Value)
  | [] => []
  | [kv] => [kv]
  | kv :: kv' :: rest =>
    if kv.1 = kv'.1 then keepLast (kv' :: rest) else kv :: keepLast (kv' :: rest)

/-- A key-ordered member list from members in any order; a later repeat of a key wins. The
sort is stable, so repeats stay in their order and `keepLast` keeps the later one. -/
def sortFields (kvs : List (String × Value)) : List (String × Value) :=
  keepLast (kvs.mergeSort fun a b => !keyBefore b.1 a.1)

/-- The object with the given members, in any order. -/
def obj (kvs : List (String × Value)) : Value := .object (sortFields kvs)

/-- A string value. -/
def str (s : String) : Value := .string s

/-- A natural-number value. -/
def ofNat (n : Nat) : Value := .number (.nat n)

/-- An integer value: non-negative ones as `nat`, negative ones as `neg`. -/
def ofInt (i : Int) : Value := if 0 ≤ i then .number (.nat i.toNat) else .number (.neg i)

/-- An optional string, `null` when absent. -/
def optStr : Option String → Value
  | some s => .string s
  | none => .null

/-- The member of an object under `key`. -/
def get? (v : Value) (key : String) : Option Value :=
  match v with
  | .object kvs => kvs.lookup key
  | _ => none

/-- The string under `key`, if the value is an object holding a string there. -/
def getStr? (v : Value) (key : String) : Option String :=
  match v.get? key with
  | some (.string s) => some s
  | _ => none

/-- Whether the value is `null`. -/
def isNull : Value → Bool
  | .null => true
  | _ => false

end Value

end AgentLink.Json
