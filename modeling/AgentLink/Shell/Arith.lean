import AgentLink.Utility.Integer

/-!
# Shell arithmetic

`$((...))` evaluates an integer expression in 64-bit two's complement arithmetic, wrapping on
overflow. Numbers are decimal, octal after a leading `0` or hexadecimal after `0x`; a bare
name is a variable, whose value is read as a number (unset or empty is 0). The operators are
those of C without increments, by C's precedence: unary `+ - ! ~`, then `* / %`, `+ -`,
`<< >>`, `< <= > >=`, `== !=`, `&`, `^`, `|`, `&&`, `||`, `?:`, and the assignments `=`, `+=`
and the like, which set variables. `&&`, `||` and `?:` leave the other side unevaluated.

A fault reads `arithmetic expression: MSG: "TEXT"` in the shell's diagnostics.
-/

namespace AgentLink.Shell

/-- A token of an arithmetic expression. -/
inductive ArithToken where
  | num (v : Int)
  | name (n : String)
  | op (s : String)
  deriving DecidableEq, Inhabited

/-- An arithmetic expression. -/
inductive ArithExpr where
  | num (v : Int)
  | var (name : String)
  | unary (op : String) (e : ArithExpr)
  | binary (op : String) (a b : ArithExpr)
  | cond (c a b : ArithExpr)
  /-- `name op= e`; `op` is empty for a plain `=`. -/
  | assign (name : String) (op : String) (e : ArithExpr)
  deriving Inhabited

/-- Wrap an integer into the 64-bit signed range. -/
def wrap64 (v : Int) : Int :=
  let m : Int := 18446744073709551616
  let r := (v + 9223372036854775808) % m
  r - 9223372036854775808

/-- The operators, longest first. -/
def arithOps : List String :=
  ["<<=", ">>=", "<<", ">>", "<=", ">=", "==", "!=", "&&", "||", "+=", "-=", "*=", "/=", "%=",
    "&=", "^=", "|=", "+", "-", "*", "/", "%", "<", ">", "&", "^", "|", "!", "~", "?", ":", "=",
    "(", ")"]

/-- The tokens of an expression, or a fault. -/
def arithTokens : Nat → List Char → List ArithToken → Except String (List ArithToken)
  | 0, _, acc => .ok acc.reverse
  | _, [], acc => .ok acc.reverse
  | fuel + 1, c :: rest, acc =>
    if c = ' ' || c = '\t' || c = '\n' then arithTokens fuel rest acc
    else if c.isDigit then
      let word := (c :: rest).takeWhile Char.isAlphanum
      let after := (c :: rest).dropWhile Char.isAlphanum
      let r := readInteger (String.ofList word) true
      if r.rest.isEmpty then arithTokens fuel after (.num (wrap64 r.value) :: acc)
      else .error "expecting EOF"
    else if c.isAlpha || c = '_' then
      let word := (c :: rest).takeWhile fun d => d.isAlphanum || d = '_'
      let after := (c :: rest).dropWhile fun d => d.isAlphanum || d = '_'
      arithTokens fuel after (.name (String.ofList word) :: acc)
    else
      match arithOps.find? (fun o => (c :: rest).take o.length = o.toList) with
      | some o => arithTokens fuel ((c :: rest).drop o.length) (.op o :: acc)
      | none => .error "expecting primary"

/-- The binary operators of each level, loosest first. -/
def arithLevels : List (List String) :=
  [["||"], ["&&"], ["|"], ["^"], ["&"], ["==", "!="], ["<", "<=", ">", ">="], ["<<", ">>"],
    ["+", "-"], ["*", "/", "%"]]

mutual

/-- An assignment or conditional expression; the expression and the tokens after it. -/
def parseAssign : Nat → List ArithToken → Except String (ArithExpr × List ArithToken)
  | 0, _ => .error "expression too deep"
  | fuel + 1, ts =>
    match ts with
    | .name n :: .op o :: rest =>
      if o = "=" || (o.length ≥ 2 && o.back = '=' && o ≠ "==" && o ≠ "!=" && o ≠ "<=" &&
          o ≠ ">=") then do
        let (e, after) ← parseAssign fuel rest
        return (.assign n (if o = "=" then "" else (o.dropEnd 1).toString) e, after)
      else parseCond fuel ts
    | _ => parseCond fuel ts

/-- A conditional expression. -/
def parseCond : Nat → List ArithToken → Except String (ArithExpr × List ArithToken)
  | 0, _ => .error "expression too deep"
  | fuel + 1, ts => do
    let (c, rest) ← parseLevel fuel arithLevels ts
    match rest with
    | .op "?" :: more =>
      let (a, after) ← parseAssign fuel more
      match after with
      | .op ":" :: more' =>
        let (b, after') ← parseCond fuel more'
        return (.cond c a b, after')
      | _ => .error "expecting ':'"
    | _ => return (c, rest)

/-- A binary expression of the given levels, loosest first. -/
def parseLevel : Nat → List (List String) → List ArithToken →
    Except String (ArithExpr × List ArithToken)
  | 0, _, _ => .error "expression too deep"
  | fuel + 1, [], ts => parseUnary fuel ts
  | fuel + 1, ops :: tighter, ts => do
    let (a, rest) ← parseLevel fuel tighter ts
    parseMore fuel ops tighter a rest

/-- The rest of a left-associative chain at one level. -/
def parseMore : Nat → List String → List (List String) → ArithExpr → List ArithToken →
    Except String (ArithExpr × List ArithToken)
  | 0, _, _, _, _ => .error "expression too deep"
  | fuel + 1, ops, tighter, a, ts =>
    match ts with
    | .op o :: rest =>
      if ops.contains o then do
        let (b, after) ← parseLevel fuel tighter rest
        parseMore fuel ops tighter (.binary o a b) after
      else return (a, ts)
    | _ => return (a, ts)

/-- A unary expression or a primary. -/
def parseUnary : Nat → List ArithToken → Except String (ArithExpr × List ArithToken)
  | 0, _ => .error "expression too deep"
  | fuel + 1, ts =>
    match ts with
    | .op o :: rest =>
      if o = "+" || o = "-" || o = "!" || o = "~" then do
        let (e, after) ← parseUnary fuel rest
        return (.unary o e, after)
      else if o = "(" then do
        let (e, after) ← parseAssign fuel rest
        match after with
        | .op ")" :: more => return (e, more)
        | _ => .error "expecting ')'"
      else .error "expecting primary"
    | .num v :: rest => return (.num v, rest)
    | .name n :: rest => return (.var n, rest)
    | [] => .error "expecting primary"

end

/-- The value of a variable in arithmetic. -/
def varValue (vars : List (String × Int)) (lookup : String → Option String) (n : String) :
    Except String Int :=
  match vars.lookup n with
  | some v => .ok v
  | none =>
    match lookup n with
    | none => .ok 0
    | some s =>
      if s.isEmpty then .ok 0
      else
        let r := readInteger s true
        if r.digits && r.rest.all isCSpace then .ok (wrap64 r.value)
        else .error ("Illegal number: " ++ s)

/-- The 64 bits of a value in two's complement, as a natural number. -/
def bits (v : Int) : Nat := (v % 18446744073709551616).toNat

/-- Apply a binary operator; division by zero is a fault. -/
def applyBinary (op : String) (a b : Int) : Except String Int :=
  match op with
  | "*" => .ok (wrap64 (a * b))
  | "/" => if b = 0 then .error "division by zero" else .ok (wrap64 (a.tdiv b))
  | "%" => if b = 0 then .error "division by zero" else .ok (wrap64 (a.tmod b))
  | "+" => .ok (wrap64 (a + b))
  | "-" => .ok (wrap64 (a - b))
  | "<<" => .ok (wrap64 (a * (Nat.pow 2 (b.toNat % 64) : Nat)))
  | ">>" => .ok (a / (Nat.pow 2 (b.toNat % 64) : Nat))
  | "<" => .ok (if a < b then 1 else 0)
  | "<=" => .ok (if a ≤ b then 1 else 0)
  | ">" => .ok (if a > b then 1 else 0)
  | ">=" => .ok (if a ≥ b then 1 else 0)
  | "==" => .ok (if a = b then 1 else 0)
  | "!=" => .ok (if a ≠ b then 1 else 0)
  | "&" => .ok (wrap64 ((bits a &&& bits b : Nat) : Int))
  | "^" => .ok (wrap64 ((bits a ^^^ bits b : Nat) : Int))
  | "|" => .ok (wrap64 ((bits a ||| bits b : Nat) : Int))
  | _ => .error "expecting primary"

/-- Evaluate an expression, with the variables assigned so far (newest first). -/
def ArithExpr.eval (lookup : String → Option String) :
    ArithExpr → List (String × Int) → Except String (Int × List (String × Int))
  | .num v, vars => .ok (v, vars)
  | .var n, vars => do return (← varValue vars lookup n, vars)
  | .unary o e, vars => do
    let (v, vars) ← e.eval lookup vars
    let r := match o with
      | "-" => wrap64 (-v)
      | "!" => if v = 0 then 1 else 0
      | "~" => wrap64 (-v - 1)
      | _ => v
    return (r, vars)
  | .binary "&&" a b, vars => do
    let (x, vars) ← a.eval lookup vars
    if x = 0 then return (0, vars)
    let (y, vars) ← b.eval lookup vars
    return (if y = 0 then 0 else 1, vars)
  | .binary "||" a b, vars => do
    let (x, vars) ← a.eval lookup vars
    if x ≠ 0 then return (1, vars)
    let (y, vars) ← b.eval lookup vars
    return (if y = 0 then 0 else 1, vars)
  | .binary o a b, vars => do
    let (x, vars) ← a.eval lookup vars
    let (y, vars) ← b.eval lookup vars
    return (← applyBinary o x y, vars)
  | .cond c a b, vars => do
    let (x, vars) ← c.eval lookup vars
    if x ≠ 0 then a.eval lookup vars else b.eval lookup vars
  | .assign n o e, vars => do
    let (v, vars) ← e.eval lookup vars
    let v ← if o.isEmpty then pure v else do applyBinary o (← varValue vars lookup n) v
    return (v, (n, v) :: vars)

/-- Evaluate arithmetic text: the value and the assignments made (each variable once, last
value), or the fault's message. -/
def evalArith (text : String) (lookup : String → Option String) :
    Except String (Int × List (String × Int)) := do
  let ts ← arithTokens (text.length + 1) text.toList []
  let (e, rest) ← parseAssign (16 * (ts.length + 2)) ts
  if !rest.isEmpty then throw "expecting EOF"
  let (v, assigned) ← e.eval lookup []
  let latest := assigned.foldl
    (fun acc (n, x) => if acc.any (·.1 == n) then acc else acc ++ [(n, x)]) []
  return (v, latest)

example : (evalArith "1 + 2 * 3" fun _ => none).toOption.map (·.1) = some 7 := by cbv

end AgentLink.Shell
