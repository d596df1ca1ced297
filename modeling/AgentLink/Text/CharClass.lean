/-!
# Character classes of the C locale

The twelve named classes (`[:alpha:]`, `[:digit:]`, ...) as tests on bytes. In the C locale
only ASCII bytes belong to a class, case conversion changes the ASCII letters only, and a word
byte, for the word operators of patterns, is a letter, a digit or `_`.
-/

namespace AgentLink

/-- The names of the character classes. -/
def classNames : List String :=
  ["alnum", "alpha", "blank", "cntrl", "digit", "graph", "lower", "print", "punct", "space",
    "upper", "xdigit"]

/-- Whether a byte lies between two others, both included. -/
def byteBetween (lo hi : Nat) (b : UInt8) : Bool := lo ≤ b.toNat && b.toNat ≤ hi

/-- Whether byte `b` belongs to the class named `name`; none does to an unknown name. -/
def classHolds (name : String) (b : UInt8) : Bool :=
  let digit := byteBetween 48 57 b
  let upper := byteBetween 65 90 b
  let lower := byteBetween 97 122 b
  let graph := byteBetween 33 126 b
  match name with
  | "alnum" => digit || upper || lower
  | "alpha" => upper || lower
  | "blank" => b = 9 || b = 32
  | "cntrl" => b < 32 || b = 127
  | "digit" => digit
  | "graph" => graph
  | "lower" => lower
  | "print" => byteBetween 32 126 b
  | "punct" => graph && !(digit || upper || lower)
  | "space" => byteBetween 9 13 b || b = 32
  | "upper" => upper
  | "xdigit" => digit || byteBetween 65 70 b || byteBetween 97 102 b
  | _ => false

/-- The bytes of a character class, ascending. -/
def classBytes (name : String) : List UInt8 :=
  ((List.range 256).map Nat.toUInt8).filter (classHolds name)

/-- The byte read as an upper-case letter. -/
def upperByte (b : UInt8) : UInt8 := if 97 ≤ b && b ≤ 122 then b - 32 else b

/-- The byte read as a lower-case letter. -/
def lowerByte (b : UInt8) : UInt8 := if 65 ≤ b && b ≤ 90 then b + 32 else b

/-- Whether a byte belongs to a word: a letter, a digit or `_`. -/
def isWordByte (b : UInt8) : Bool := classHolds "alnum" b || b = 95

end AgentLink
