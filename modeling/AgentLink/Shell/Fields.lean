import AgentLink.Shell.Pattern

/-!
# Fields of an expanded word

Expanding a word gives pieces of text, each quoted or not and each open to field splitting or
not: the results of unquoted expansions are split, literal and quoted text is not. Between the
positional parameters of `"$@"` a piece marks a break between fields.

`splitFields` cuts the pieces into fields at the characters of `IFS`: a run of its blanks
(space, tab, line end) separates fields and vanishes at either end; any other of its characters
ends a field, so two in a row give an empty field. A word with quoted text, even empty, gives
a field; one whose only text came from unquoted expansions that were empty gives none.

`splitMarked` keeps with each character whether it was quoted, for pathname expansion.
`joinPieces` keeps a word as one text (for assignments, here-documents, `case` and
redirections), a break becoming a blank; `patternOf` reads the pieces as a pattern in which
quoted characters are themselves.
-/

namespace AgentLink.Shell

/-- A piece of an expanded word. -/
inductive Piece where
  /-- Text; `quoted` keeps it from acting as a pattern, `split` opens it to field splitting. -/
  | text (s : String) (quoted : Bool) (split : Bool)
  /-- A break between fields. -/
  | cut
  deriving Inhabited

/-- A character of a field, with whether quoting protects it from acting as a pattern. -/
abbrev Marked := Char × Bool

/-- The state of field splitting: the fields done (in reverse), the field being built (in
reverse), and whether a blank of `IFS` just ended one. -/
structure Splitting where
  done : List (List Marked)
  current : Option (List Marked)
  afterBlank : Bool

namespace Splitting

/-- End the field being built, if any. -/
def close (s : Splitting) : Splitting :=
  match s.current with
  | some f => { s with done := f.reverse :: s.done, current := none }
  | none => s

/-- Add a character that splitting leaves in place. -/
def keep (s : Splitting) (c : Marked) : Splitting :=
  { s with current := some (c :: s.current.getD []), afterBlank := false }

/-- Read one character of a piece open to splitting. -/
def step (ifs : String) (s : Splitting) (c : Char) : Splitting :=
  if ifs.contains c then
    if c = ' ' || c = '\t' || c = '\n' then
      { s.close with afterBlank := s.current.isSome || s.afterBlank }
    else if s.current.isNone && s.afterBlank then { s with afterBlank := false }
    else { s with done := (s.current.getD []).reverse :: s.done, current := none,
                  afterBlank := false }
  else s.keep (c, false)

end Splitting

/-- The fields of the pieces of a word, each character marked when quoted. -/
def splitMarked (ifs : String) (pieces : List Piece) : List (List Marked) :=
  let s := pieces.foldl (fun (s : Splitting) p =>
    match p with
    | .cut => s.close
    | .text t quoted split =>
      if split && !ifs.isEmpty then t.foldl (Splitting.step ifs) s
      else if split && t.isEmpty then s
      else { s with current := some (t.toList.reverse.map (·, quoted) ++ s.current.getD []),
                    afterBlank := false })
    ⟨[], none, false⟩
  s.close.done.reverse

/-- The fields of the pieces of a word. -/
def splitFields (ifs : String) (pieces : List Piece) : List String :=
  (splitMarked ifs pieces).map fun f => String.ofList (f.map (·.1))

/-- The pieces as one text, a break becoming a blank. -/
def joinPieces (pieces : List Piece) : String :=
  String.join (pieces.map fun
    | .text t _ _ => t
    | .cut => " ")

/-- The pieces read as a pattern. -/
def patternOf (pieces : List Piece) : List Glob :=
  Glob.ofChars (pieces.flatMap fun
    | .text t q _ => t.toList.map (·, q)
    | .cut => [(' ', true)])

example : splitFields " \t\n" [.text " a  b" false true, .text "c" true false] = ["a", "bc"] := by
  cbv
example : splitFields ":" [.text "a::b" false true] = ["a", "", "b"] := by cbv

end AgentLink.Shell
