import AgentLink.Utility.Integer
import AgentLink.Host.FileSystem

/-!
# Evaluating `test` expressions

`test EXPR` (and `[ EXPR ]`) ends with status 0 when the expression holds and 1 when it does
not. With one to four arguments the POSIX rules come first: three arguments whose middle one
is a binary operator compare the other two; a leading `!` negates the rest; `( ... )` around
the rest groups it. Otherwise the arguments are an expression of `-o` (or), `-a` (and, binding
tighter), `!` (not), parentheses, unary operators on files and strings, binary operators on
strings (`=`, `!=`, `<`, `>`) and integers (`-eq`, `-ne`, `-lt`, `-le`, `-gt`, `-ge`), and
bare strings, which hold when they are not empty. A word is an operator only where it can be
one: a unary operator followed by a binary operator and more is an operand.

A malformed expression or an integer operand that is not a number is an error: the message
and status 2.
-/

namespace AgentLink

/-- The unary operators. -/
def unaryOps : List String :=
  ["-r", "-w", "-x", "-e", "-f", "-d", "-c", "-b", "-p", "-u", "-g", "-k", "-s", "-t", "-z",
    "-n", "-h", "-O", "-G", "-L", "-S"]

/-- The binary operators, besides `-a` and `-o`. -/
def binaryOps : List String :=
  ["=", "!=", "<", ">", "-eq", "-ne", "-ge", "-gt", "-le", "-lt", "-nt", "-ot", "-ef"]

/-- What a file test sees at a path: the entry, not following a final link when `noFollow`. -/
def FileSystem.entryAt (fs : FileSystem) (p : String) (noFollow : Bool) : Option Entry :=
  if noFollow then
    let parent := (p.dropEndWhile (· ≠ '/')).toString
    let name := (p.takeEndWhile (· ≠ '/')).toString
    let dir := if parent.isEmpty then "." else parent
    match fs.resolve dir with
    | .ok d => fs.entries.lookup (if d = "/" then "/" ++ name else d ++ "/" ++ name)
    | .error _ => none
  else match fs.resolve p with
    | .ok canonical => fs.lookup ((pathParts canonical).filter (· ≠ ""))
    | .error _ => none

/-- Whether a unary file or string test holds for its operand. -/
def unaryHolds (fs : FileSystem) (op operand : String) : Bool :=
  match op with
  | "-z" => operand.isEmpty
  | "-n" => !operand.isEmpty
  | "-t" => false
  | "-L" | "-h" => match fs.entryAt operand true with
    | some (.link _) => true
    | _ => false
  | _ =>
    match fs.entryAt operand false with
    | none => false
    | some e =>
      match op, e with
      | "-e", _ => true
      | "-f", .file _ => true
      | "-d", .directory => true
      | "-s", .file bytes => !bytes.isEmpty
      | "-s", .directory => true
      | "-r", _ | "-w", _ | "-x", _ => true
      | _, _ => false

/-- The integer an operand of a numeric comparison stands for. -/
def testInteger (s : String) : Except String Int :=
  match readDecimal? s with
  | some v => .ok v
  | none => .error ("Illegal number: " ++ s)

/-- Whether a binary test holds. -/
def binaryHolds (a op b : String) : Except String Bool := do
  match op with
  | "=" => return a == b
  | "!=" => return a != b
  | "<" => return decide (a < b)
  | ">" => return decide (b < a)
  | "-nt" | "-ot" | "-ef" => return false
  | _ =>
    let x ← testInteger a
    let y ← testInteger b
    match op with
    | "-eq" => return x == y
    | "-ne" => return x != y
    | "-lt" => return decide (x < y)
    | "-le" => return decide (x ≤ y)
    | "-gt" => return decide (x > y)
    | _ => return decide (x ≥ y)

/-- Whether the word at the front of `ws` acts as an operator there: a unary operator followed
by exactly a binary operator and one more word is an operand, and so is `(` last. -/
def actsAsOperator (ws : List String) : Bool :=
  match ws with
  | [] => false
  | w :: rest =>
    if unaryOps.contains w then
      match rest with
      | [] => false
      | [_] => true
      | next :: _ => !binaryOps.contains next
    else if w = "(" then !rest.isEmpty
    else binaryOps.contains w || w = "!" || w = "-a" || w = "-o" || w = ")"

mutual

/-- An `-o` expression; the value and the words after it. -/
def orExpr (fs : FileSystem) : Nat → List String → Except String (Bool × List String)
  | 0, _ => .error "expression too deep"
  | fuel + 1, ws => do
    let (v, rest) ← andExpr fs fuel ws
    match rest with
    | "-o" :: more =>
      let (w, after) ← orExpr fs fuel more
      return (v || w, after)
    | _ => return (v, rest)

/-- An `-a` expression. -/
def andExpr (fs : FileSystem) : Nat → List String → Except String (Bool × List String)
  | 0, _ => .error "expression too deep"
  | fuel + 1, ws => do
    let (v, rest) ← notExpr fs fuel ws
    match rest with
    | "-a" :: more =>
      let (w, after) ← andExpr fs fuel more
      return (v && w, after)
    | _ => return (v, rest)

/-- A `!` expression. -/
def notExpr (fs : FileSystem) : Nat → List String → Except String (Bool × List String)
  | 0, _ => .error "expression too deep"
  | fuel + 1, ws =>
    match ws with
    | "!" :: rest =>
      if actsAsOperator ws then do
        let (v, after) ← notExpr fs fuel rest
        return (!v, after)
      else primary fs fuel ws
    | _ => primary fs fuel ws

/-- A primary: a parenthesised expression, a unary test, a binary test or a string. -/
def primary (fs : FileSystem) : Nat → List String → Except String (Bool × List String)
  | 0, _ => .error "expression too deep"
  | fuel + 1, ws =>
    match ws with
    | [] => .error "argument expected"
    | w :: rest =>
      if w = "(" && actsAsOperator ws then do
        let (v, after) ← orExpr fs fuel rest
        match after with
        | ")" :: more => return (v, more)
        | _ => .error "closing paren expected"
      else if unaryOps.contains w && actsAsOperator ws then
        match rest with
        | operand :: more => return (unaryHolds fs w operand, more)
        | [] => .error (w ++ ": argument expected")
      else
        match rest with
        | op :: more =>
          if binaryOps.contains op then
            match more with
            | b :: after => do
              let v ← binaryHolds w op b
              return (v, after)
            | [] => .error (op ++ ": argument expected")
          else return (!w.isEmpty, rest)
        | [] => return (!w.isEmpty, [])

end

/-- Evaluate a whole expression: whether it holds, or the error. -/
def evalTestWords (fs : FileSystem) (ws : List String) : Except String Bool := do
  let (v, rest) ← orExpr fs (2 * ws.length + 2) ws
  match rest with
  | [] => return v
  | w :: _ => .error (w ++ ": unexpected operator")

/-- Evaluate the arguments of `test` after the POSIX rules for few arguments, negating the
result `negate` times. -/
def testFor (fs : FileSystem) : Nat → Bool → List String → Except String Bool
  | 0, negate, ws => do return (← evalTestWords fs ws) != negate
  | fuel + 1, negate, ws =>
    match ws with
    | [] => return negate
    | [a, op, b] =>
      if binaryOps.contains op then do return (← binaryHolds a op b) != negate
      else fewer fuel negate ws
    | _ => if ws.length == 4 then fewer fuel negate ws else do
        return (← evalTestWords fs ws) != negate
where
  fewer (fuel : Nat) (negate : Bool) (ws : List String) : Except String Bool :=
    match ws with
    | "(" :: rest =>
      if rest.getLast? == some ")" then testFor fs fuel negate rest.dropLast
      else do return (← evalTestWords fs ws) != negate
    | "!" :: rest => testFor fs fuel (!negate) rest
    | _ => do return (← evalTestWords fs ws) != negate

/-- The status of `test` with its arguments (for `[`, the arguments before the closing `]`),
or an error message. -/
def testStatus (fs : FileSystem) (args : List String) : Except String Nat := do
  let holds ← testFor fs (args.length + 1) false args
  return if holds then 0 else 1

/-- The status of `[` with its arguments, the last of which must be `]`. -/
def bracketStatus (fs : FileSystem) (args : List String) : Except String Nat :=
  if args.getLast? == some "]" then testStatus fs args.dropLast else .error "missing ]"

example : (testStatus default ["1", "-eq", "1"]).toOption = some 0 := by cbv
example : (bracketStatus default ["a", "=", "b", "]"]).toOption = some 1 := by cbv

end AgentLink
