/-!
# Shell command syntax

The commands a command shell reads, as a tree. A `Word` is a list of `Part`s: literal text
(unquoted, or quoted so that it is never split or matched as a pattern), a double-quoted group,
a parameter with an optional operation (`${NAME:-default}` and kin), a command substitution or
an arithmetic expansion. A substitution and an arithmetic expression keep their text, read
again when they are expanded.

A `Command` is a simple command (assignments, words and redirections, with the line it starts
on), a pipeline, a conjunction or disjunction, a sequence, a background job, a subshell, a
brace group, a loop, a conditional, a `case`, a function definition, or a command with
redirections around it.
-/

namespace AgentLink.Shell

/-- What a `$` expansion names. -/
inductive Param where
  /-- A variable. -/
  | name (n : String)
  /-- A positional parameter, from 1; `$0` is the shell's name. -/
  | position (k : Nat)
  /-- `$?`: the status of the last command. -/
  | status
  /-- `$$`: the shell's process number. -/
  | pid
  /-- `$#`: the number of positional parameters. -/
  | count
  /-- `$@`: the positional parameters, one field each when quoted. -/
  | all
  /-- `$*`: the positional parameters, joined by a blank when quoted. -/
  | joined
  /-- `$-`: the shell's option letters. -/
  | flags
  /-- `$!`: the process number of the last background job. -/
  | lastJob
  deriving DecidableEq, Inhabited

/-- What a parameter expansion does with the value; `colon` says whether an empty value counts
as unset. -/
inductive ParamOp (α : Type) where
  | plain
  /-- `${p:-w}`: the word when unset. -/
  | orElse (colon : Bool) (w : α)
  /-- `${p:=w}`: the word when unset, which is also assigned. -/
  | assign (colon : Bool) (w : α)
  /-- `${p:?w}`: an error when unset. -/
  | require (colon : Bool) (w : α)
  /-- `${p:+w}`: the word when set. -/
  | ifSet (colon : Bool) (w : α)
  /-- `${#p}`: the length of the value. -/
  | length
  /-- `${p%w}` (`longest` for `%%`): the value without its shortest or longest matching
  suffix. -/
  | dropSuffix (longest : Bool) (w : α)
  /-- `${p#w}` (`longest` for `##`): the value without a matching prefix. -/
  | dropPrefix (longest : Bool) (w : α)
  deriving Inhabited

/-- A piece of a word. -/
inductive Part where
  /-- Unquoted text. -/
  | lit (s : String)
  /-- Quoted text, by single quotes or a backslash. -/
  | quoted (s : String)
  /-- A double-quoted group. -/
  | group (parts : List Part)
  /-- A parameter expansion. -/
  | param (p : Param) (op : ParamOp (List Part))
  /-- A command substitution, `$(text)` or between backquotes. -/
  | command (text : String)
  /-- An arithmetic expansion, `$((text))`. -/
  | arith (text : String)
  /-- A malformed `${...}`, which is an error when it is expanded. -/
  | bad
  deriving Inhabited

/-- A word: its pieces, joined when it is expanded. -/
abbrev Word := List Part

/-- A redirection of a stream of a command. -/
inductive Redirect where
  /-- `n> w` or `n>> w`: write stream `fd` to a file. -/
  | toFile (fd : Nat) (target : Word) (append : Bool)
  /-- `n< w`: read stream `fd` from a file. -/
  | fromFile (fd : Nat) (target : Word)
  /-- `n>&w` or `n<&w`: make stream `fd` a copy of another, or close it with `-`. -/
  | copy (fd : Nat) (target : Word)
  /-- A here-document for stream `fd`: its body, expanded unless its delimiter was quoted. -/
  | here (fd : Nat) (body : Word)
  deriving Inhabited

/-- A command. -/
inductive Command where
  /-- Assignments, words and redirections, starting on line `line`. -/
  | simple (assigns : List (String × Word)) (words : List Word) (redirects : List Redirect)
      (line : Nat)
  /-- Commands joined by `|`; `negate` for a leading `!`. -/
  | pipeline (negate : Bool) (stages : List Command)
  /-- `a && b`. -/
  | andThen (a b : Command)
  /-- `a || b`. -/
  | orElse (a b : Command)
  /-- Commands one after the other. -/
  | sequence (cs : List Command)
  /-- `c &`. -/
  | background (c : Command)
  /-- `( c )`. -/
  | subshell (c : Command)
  /-- `{ c; }`. -/
  | group (c : Command)
  /-- `for name in words; do body; done`; no list means the positional parameters. -/
  | forEach (name : String) (items : Option (List Word)) (body : Command)
  /-- `while cond; do body; done`, or `until` when `negate`. -/
  | loop (negate : Bool) (cond body : Command)
  /-- `if cond; then yes; else no; fi`; `elif` is a nested conditional. -/
  | cond (test yes : Command) (no : Option Command)
  /-- `case w in patterns) body;; esac`. -/
  | choose (subject : Word) (arms : List (List Word × Command))
  /-- `name() body`. -/
  | function (name : String) (body : Command)
  /-- A compound command with redirections. -/
  | redirected (c : Command) (redirects : List Redirect)
  deriving Inhabited

/-- The empty command, which does nothing and keeps the status. -/
def Command.empty : Command := .sequence []

end AgentLink.Shell
