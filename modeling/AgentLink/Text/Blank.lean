/-!
# Unicode white space and trimming

`isBlank` is the Unicode `White_Space` property, which is what the agent's lines are trimmed
by: the ASCII blanks and controls `\t` to `\r`, NEL, NO-BREAK SPACE, the Ogham space mark, the
spaces U+2000 to U+200A, the line and paragraph separators, the narrow no-break space, the
medium mathematical space and the ideographic space. ZERO WIDTH SPACE and the byte order mark
are not white space.
-/

namespace AgentLink

/-- The Unicode `White_Space` property. -/
def isBlank (c : Char) : Bool :=
  let n := c.toNat
  (0x09 ≤ n && n ≤ 0x0D) || n == 0x20 || n == 0x85 || n == 0xA0 || n == 0x1680 ||
    (0x2000 ≤ n && n ≤ 0x200A) || n == 0x2028 || n == 0x2029 || n == 0x202F ||
    n == 0x205F || n == 0x3000

/-- Drop blanks from the front of a character list. -/
def dropBlanks : List Char → List Char
  | [] => []
  | c :: cs => if isBlank c then dropBlanks cs else c :: cs

/-- A string without its leading and trailing white space. -/
def trimBlanks (s : String) : String :=
  String.ofList (dropBlanks (dropBlanks s.toList).reverse).reverse

/-- A string without its leading white space. -/
def trimStart (s : String) : String := String.ofList (dropBlanks s.toList)

/-- A string without its trailing white space. -/
def trimEnd (s : String) : String := String.ofList (dropBlanks s.toList.reverse).reverse

example : trimBlanks " \u3000a b\u00A0\n" = "a b" := by decide
example : trimBlanks "\u200Bx" = "\u200Bx" := by decide

end AgentLink
