import AgentLink.Shell.Token

/-!
# Parsing shell commands

The parser reads tokens into commands, one complete command at a time (`Cursor.next`): a list
of and-or lists separated by `;` or `&` up to a line end, which the shell runs before it reads
the next. A syntax error names the token found, and what was expected when one thing was:
`"fi" unexpected (expecting "then")`, `end of file unexpected`, `newline unexpected`, `word
unexpected`.

Reserved words count only where a command may start, and where a list may end (`then`, `do`,
`done`, `elif`, `else`, `fi`, `esac`, `}`). Bodies of `if`, loops, groups and subshells are
lists of at least one command; a `case` arm may be empty. `NAME=value` words before a
command's name are assignments, and `NAME ( )` followed by a command defines a function.
-/

namespace AgentLink.Shell

/-- A syntax error: its message and the line where it was found. -/
structure SyntaxError where
  message : String
  line : Nat

/-- The tokens left to parse, the here-document bodies not yet claimed, and the line of the
end of the text. -/
structure Cursor where
  tokens : List (Token × Nat)
  bodies : List Word
  lastLine : Nat

/-- A parser over a cursor. -/
abbrev Parser := StateT Cursor (Except SyntaxError)

/-- The reserved words. -/
def reserved : List String :=
  ["if", "then", "else", "elif", "fi", "do", "done", "case", "esac", "while", "until", "for",
    "\x7b", "\x7d", "!", "in"]

/-- The reserved word a token is, where reserved words count. -/
def keywordOf : Token → Option String
  | .word _ (some s) => if reserved.contains s then some s else none
  | _ => none

/-- How a syntax error names a token; `asKeyword` where reserved words count. -/
def Token.describe (asKeyword : Bool) : Token → String
  | .eof => "end of file"
  | .newline => "newline"
  | .op s => "\"" ++ s ++ "\""
  | .redirect _ _ => "redirection"
  | .word _ (some s) => if asKeyword && reserved.contains s then "\"" ++ s ++ "\"" else "word"
  | .word _ none => "word"
  | .fault m => m

/-- The special built-in commands, which no function may be named after. -/
def specialBuiltins : List String :=
  ["break", ":", ".", "continue", "eval", "exec", "exit", "export", "readonly", "return", "set",
    "shift", "times", "trap", "unset"]

/-- A word `NAME=value` as an assignment. -/
def assignmentOf : Word → Option (String × Word)
  | .lit s :: rest =>
    match s.toList.findIdx? (· = '=') with
    | some k =>
      let name := String.ofList (s.toList.take k)
      let value := String.ofList (s.toList.drop (k + 1))
      if k > 0 && isName name then
        some (name, (if value.isEmpty then [] else [Part.lit value]) ++ rest)
      else none
    | none => none
  | _ => none

namespace Parser

/-- The next token, without taking it. -/
def peek : Parser (Token × Nat) := do
  let c ← get
  return c.tokens.headD (.eof, c.lastLine)

/-- Take the next token. -/
def advance : Parser Unit := modify fun c => { c with tokens := c.tokens.drop 1 }

/-- Fail on the next token: it is unexpected, or it is a fault of the text. -/
def unexpected {α : Type} (asKeyword : Bool) (expecting : Option String) : Parser α := do
  let (t, line) ← peek
  match t with
  | .fault m => throw ⟨m, line⟩
  | _ =>
    let wanted := match expecting with
      | some e => " (expecting " ++ e ++ ")"
      | none => ""
    throw ⟨t.describe asKeyword ++ " unexpected" ++ wanted, line⟩

/-- Fail with a message at the next token. -/
def failWith {α : Type} (message : String) : Parser α := do
  let (_, line) ← peek
  throw ⟨message, line⟩

/-- Skip line ends. -/
def skipNewlines : Nat → Parser Unit
  | 0 => pure ()
  | n + 1 => do
    match (← peek).1 with
    | .newline => advance; skipNewlines n
    | _ => pure ()

/-- Whether the next token is the reserved word `k`. -/
def atKeyword (k : String) : Parser Bool := do return keywordOf (← peek).1 == some k

/-- Whether the next token is the operator `s`. -/
def atOp (s : String) : Parser Bool := do
  match (← peek).1 with
  | .op o => return o == s
  | _ => return false

/-- Take the reserved word `k`, or fail expecting it. -/
def expectKeyword (k : String) : Parser Unit := do
  if ← atKeyword k then advance else unexpected true (some ("\"" ++ k ++ "\""))

/-- Take the operator `s`, or fail expecting it. -/
def expectOp (s : String) : Parser Unit := do
  if ← atOp s then advance else unexpected true (some ("\"" ++ s ++ "\""))

/-- Whether the next token ends a list. -/
def atListEnd : Parser Bool := do
  let (t, _) ← peek
  match t with
  | .eof => return true
  | .op o => return o == ")" || o == ";;"
  | _ =>
    match keywordOf t with
    | some k => return ["then", "do", "done", "elif", "else", "fi", "esac", "\x7d"].contains k
    | none => return false

/-- Claim the next here-document body. -/
def takeBody : Parser Word := do
  let c ← get
  match c.bodies with
  | b :: rest => set { c with bodies := rest }; return b
  | [] => return []

/-- The redirection an operator and its target make. -/
def redirectOf (fd : Option Nat) (op : String) (target : Word) : Parser Redirect :=
  match op with
  | ">" | ">|" => pure (.toFile (fd.getD 1) target false)
  | ">>" => pure (.toFile (fd.getD 1) target true)
  | "<" | "<>" => pure (.fromFile (fd.getD 0) target)
  | ">&" => pure (.copy (fd.getD 1) target)
  | "<&" => pure (.copy (fd.getD 0) target)
  | _ => do return .here (fd.getD 0) (← takeBody)

/-- A redirection, its operator next. -/
def redirect : Parser Redirect := do
  match (← peek).1 with
  | .redirect fd op =>
    advance
    match (← peek).1 with
    | .word w _ => advance; redirectOf fd op w
    | _ => unexpected false none
  | _ => unexpected true none

/-- The redirections that follow a compound command. -/
def redirects : Nat → Parser (List Redirect)
  | 0 => pure []
  | n + 1 => do
    match (← peek).1 with
    | .redirect _ _ => do
      let r ← redirect
      return r :: (← redirects n)
    | _ => pure []

/-- Wrap a compound command in the redirections that follow it. -/
def withRedirects (c : Command) (fuel : Nat) : Parser Command := do
  let rs ← redirects fuel
  return if rs.isEmpty then c else .redirected c rs

mutual

/-- A command: compound, a function definition or a simple command. -/
def command : Nat → Parser Command
  | 0 => failWith "too deeply nested"
  | fuel + 1 => do
    let (t, line) ← peek
    match keywordOf t with
    | some "if" => advance; ifRest fuel
    | some "while" => advance; loopRest false fuel
    | some "until" => advance; loopRest true fuel
    | some "for" => advance; forRest fuel
    | some "case" => advance; caseRest fuel
    | some "\x7b" =>
      advance
      let body ← list fuel false
      expectKeyword "\x7d"
      withRedirects (.group body) fuel
    | some _ => unexpected true none
    | none =>
      match t with
      | .op "(" =>
        advance
        let body ← list fuel false
        expectOp ")"
        withRedirects (.subshell body) fuel
      | .word _ _ | .redirect _ _ => simple fuel line [] [] []
      | _ => unexpected true none

/-- The rest of an `if`, after the word `if`. -/
def ifRest : Nat → Parser Command
  | 0 => failWith "too deeply nested"
  | fuel + 1 => do
    let test ← list fuel false
    expectKeyword "then"
    let yes ← list fuel false
    if ← atKeyword "elif" then
      advance
      let no ← ifTail fuel
      withRedirects (.cond test yes (some no)) fuel
    else if ← atKeyword "else" then
      advance
      let no ← list fuel false
      expectKeyword "fi"
      withRedirects (.cond test yes (some no)) fuel
    else
      expectKeyword "fi"
      withRedirects (.cond test yes none) fuel

/-- The rest of an `elif`, which ends with the `fi` of its `if`. -/
def ifTail : Nat → Parser Command
  | 0 => failWith "too deeply nested"
  | fuel + 1 => do
    let test ← list fuel false
    expectKeyword "then"
    let yes ← list fuel false
    if ← atKeyword "elif" then
      advance
      return .cond test yes (some (← ifTail fuel))
    else if ← atKeyword "else" then
      advance
      let no ← list fuel false
      expectKeyword "fi"
      return .cond test yes (some no)
    else
      expectKeyword "fi"
      return .cond test yes none

/-- The rest of a `while` (or an `until` when `negate`). -/
def loopRest (negate : Bool) : Nat → Parser Command
  | 0 => failWith "too deeply nested"
  | fuel + 1 => do
    let test ← list fuel false
    expectKeyword "do"
    let body ← list fuel false
    expectKeyword "done"
    withRedirects (.loop negate test body) fuel

/-- The rest of a `for`, after the word `for`. -/
def forRest : Nat → Parser Command
  | 0 => failWith "too deeply nested"
  | fuel + 1 => do
    let name ← match (← peek).1 with
      | .word _ (some n) =>
        if isName n then do advance; pure n else failWith "Bad for loop variable"
      | _ => failWith "Bad for loop variable"
    skipNewlines fuel
    let items ← if ← atKeyword "in" then do
        advance
        let ws ← words fuel
        match (← peek).1 with
        | .newline | .op ";" => advance
        | _ => unexpected false none
        pure (some ws)
      else do
        if ← atOp ";" then advance
        pure none
    skipNewlines fuel
    expectKeyword "do"
    let body ← list fuel false
    expectKeyword "done"
    withRedirects (.forEach name items body) fuel

/-- Words up to the first token that is not one. -/
def words : Nat → Parser (List Word)
  | 0 => pure []
  | fuel + 1 => do
    match (← peek).1 with
    | .word w _ => advance; return w :: (← words fuel)
    | _ => pure []

/-- The rest of a `case`, after the word `case`. -/
def caseRest : Nat → Parser Command
  | 0 => failWith "too deeply nested"
  | fuel + 1 => do
    let subject ← match (← peek).1 with
      | .word w _ => do advance; pure w
      | _ => unexpected false (some "word")
    skipNewlines fuel
    expectKeyword "in"
    let arms ← caseArms fuel
    withRedirects (.choose subject arms) fuel

/-- The arms of a `case` up to and including `esac`. -/
def caseArms : Nat → Parser (List (List Word × Command))
  | 0 => failWith "too deeply nested"
  | fuel + 1 => do
    skipNewlines fuel
    if ← atKeyword "esac" then advance; return []
    if ← atOp "(" then advance
    let pats ← patterns fuel
    if ← atOp ")" then advance else unexpected false (some "\")\"")
    let body ← list fuel true
    skipNewlines fuel
    if ← atKeyword "esac" then advance; return [(pats, body)]
    else if ← atOp ";;" then
      advance
      return (pats, body) :: (← caseArms fuel)
    else unexpected true (some "\";;\"")

/-- The patterns of a `case` arm, separated by `|`; whatever token stands where a pattern
should is taken as one, so that the error falls on the token after it. -/
def patterns : Nat → Parser (List Word)
  | 0 => pure []
  | fuel + 1 => do
    let w ← match (← peek).1 with
      | .word w _ => do advance; pure w
      | .eof => pure []
      | _ => do advance; pure []
    if ← atOp "|" then advance; return w :: (← patterns fuel)
    else return [w]

/-- A simple command from its start: assignments, words and redirections so far. -/
def simple :
    Nat → Nat → List (String × Word) → List Word → List Redirect → Parser Command
  | 0, line, assigns, ws, rs => pure (.simple assigns ws rs line)
  | fuel + 1, line, assigns, ws, rs => do
    match (← peek).1 with
    | .word w _ =>
      advance
      match (if ws.isEmpty then assignmentOf w else none) with
      | some a => simple fuel line (assigns ++ [a]) ws rs
      | none => simple fuel line assigns (ws ++ [w]) rs
    | .redirect _ _ => do
      let r ← redirect
      simple fuel line assigns ws (rs ++ [r])
    | .op "(" =>
      match ws, assigns, rs with
      | [w], [], [] => do
        advance
        expectOp ")"
        let name := (plainText w).getD ""
        if !isName name || specialBuiltins.contains name then failWith "Bad function name"
        skipNewlines fuel
        return .function name (← command fuel)
      | _, _, _ => pure (.simple assigns ws rs line)
    | _ => pure (.simple assigns ws rs line)

/-- A pipeline, with an optional leading `!`. -/
def pipeline : Nat → Parser Command
  | 0 => failWith "too deeply nested"
  | fuel + 1 => do
    let negate ← if ← atKeyword "!" then do advance; pure true else pure false
    let first ← command fuel
    let rest ← stages fuel
    return if rest.isEmpty && !negate then first else .pipeline negate (first :: rest)

/-- The commands after each `|` of a pipeline. -/
def stages : Nat → Parser (List Command)
  | 0 => pure []
  | fuel + 1 => do
    if ← atOp "|" then
      advance
      skipNewlines fuel
      let c ← command fuel
      return c :: (← stages fuel)
    else return []

/-- An and-or list: pipelines joined by `&&` and `||`, from the left. -/
def andOr : Nat → Parser Command
  | 0 => failWith "too deeply nested"
  | fuel + 1 => do
    let first ← pipeline fuel
    andOrRest fuel first

/-- The rest of an and-or list after `acc`. -/
def andOrRest : Nat → Command → Parser Command
  | 0, acc => pure acc
  | fuel + 1, acc => do
    if ← atOp "&&" then
      advance
      skipNewlines fuel
      andOrRest fuel (.andThen acc (← pipeline fuel))
    else if ← atOp "||" then
      advance
      skipNewlines fuel
      andOrRest fuel (.orElse acc (← pipeline fuel))
    else return acc

/-- A list of and-or lists in a compound command; `mayBeEmpty` for a `case` arm. -/
def list : Nat → Bool → Parser Command
  | 0, _ => failWith "too deeply nested"
  | fuel + 1, mayBeEmpty => do
    skipNewlines fuel
    match (← peek).1 with
    | .eof => return Command.empty
    | _ =>
      if mayBeEmpty && (← atListEnd) then return Command.empty
      return .sequence (← listItems fuel)

/-- The and-or lists of a list, up to its end. -/
def listItems : Nat → Parser (List Command)
  | 0 => failWith "too deeply nested"
  | fuel + 1 => do
    let c ← andOr fuel
    let (t, _) ← peek
    let (item, separated) ← match t with
      | .op "&" => do advance; pure (Command.background c, true)
      | .op ";" => do advance; pure (c, true)
      | .newline => do advance; pure (c, true)
      | _ => pure (c, false)
    if !separated then return [item]
    skipNewlines fuel
    if ← atListEnd then return [item]
    return item :: (← listItems fuel)

end

/-- The and-or lists of a complete command after the first, up to its line end. -/
def completeItems : Nat → Parser (List Command)
  | 0 => failWith "too deeply nested"
  | fuel + 1 => do
    let c ← andOr fuel
    let (t, _) ← peek
    match t with
    | .op "&" | .op ";" =>
      advance
      let item := if t matches .op "&" then Command.background c else c
      match (← peek).1 with
      | .newline => advance; return [item]
      | .eof => return [item]
      | _ => return item :: (← completeItems fuel)
    | .newline => advance; return [c]
    | .eof => return [c]
    | _ => unexpected true none

end Parser

/-- Read the next complete command: none at the end of the text; a blank line is the empty
command. -/
def Cursor.next (c : Cursor) : Except SyntaxError (Option Command × Cursor) :=
  let fuel := 4 * c.tokens.length + 8
  let step : Parser (Option Command) := do
    match (← Parser.peek).1 with
    | .eof => return none
    | .newline => Parser.advance; return some Command.empty
    | _ => return some (.sequence (← Parser.completeItems fuel))
  step.run c

/-- The cursor at the start of a text. -/
def Cursor.ofText (text : String) : Cursor :=
  let (tokens, bodies) := tokenize text
  ⟨tokens, bodies, (tokens.getLast?.map (·.2)).getD 1⟩

/-- Parse a whole text into its complete commands, or the first syntax error. -/
def parseAll (text : String) : Except SyntaxError (List Command) :=
  let rec go : Nat → Cursor → Except SyntaxError (List Command)
    | 0, _ => .ok []
    | fuel + 1, c => do
      match ← c.next with
      | (none, _) => return []
      | (some cmd, c) => return cmd :: (← go fuel c)
  let c := Cursor.ofText text
  go (c.tokens.length + 1) c

end AgentLink.Shell
