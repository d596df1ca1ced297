/-!
# Shell patterns

A pattern matches text as in `case` and in `${name%pattern}`: `*` matches any run of
characters, `?` any one character, and `[...]` one character of a set (`[!...]` or `[^...]` one
outside it), where `a-z` is a range and a `]` first is itself. A bracket without its closing
`]` is itself. Quoted characters are always themselves.

`Glob.ofChars` reads a pattern from characters marked quoted or not; `Glob.matchText` decides a
match by backtracking over the positions a `*` may end at.
-/

namespace AgentLink.Shell

/-- An element of a pattern. -/
inductive Glob where
  | char (c : Char)
  | any
  | star
  /-- A set of characters by inclusive ranges, or its complement when `negate`. -/
  | set (negate : Bool) (ranges : List (Char × Char))
  deriving DecidableEq, Inhabited

namespace Glob

/-- The ranges of a bracket's body, and the characters after its closing `]`; none when it
does not close. `first` says whether a `]` here is still the first character. -/
def bracketBody : Nat → Bool → List (Char × Bool) → List (Char × Char) →
    Option (List (Char × Char) × List (Char × Bool))
  | 0, _, _, _ => none
  | _, _, [], _ => none
  | fuel + 1, first, (c, q) :: rest, acc =>
    if c = ']' && !q && !first then some (acc.reverse, rest)
    else match rest with
      | ('-', false) :: (d, dq) :: more =>
        if d = ']' && !dq then bracketBody fuel false rest ((c, c) :: acc)
        else bracketBody fuel false more ((c, d) :: acc)
      | _ => bracketBody fuel false rest ((c, c) :: acc)

/-- The pattern written by characters, each marked whether it was quoted. -/
def ofCharsFor : Nat → List (Char × Bool) → List Glob
  | 0, _ => []
  | _, [] => []
  | fuel + 1, (c, q) :: rest =>
    if q then .char c :: ofCharsFor fuel rest
    else match c with
      | '*' => .star :: ofCharsFor fuel rest
      | '?' => .any :: ofCharsFor fuel rest
      | '[' =>
        let (negate, body) := match rest with
          | ('!', false) :: more | ('^', false) :: more => (true, more)
          | _ => (false, rest)
        match bracketBody (body.length + 1) true body [] with
        | some (ranges, after) => .set negate ranges :: ofCharsFor fuel after
        | none => .char '[' :: ofCharsFor fuel rest
      | _ => .char c :: ofCharsFor fuel rest

/-- The pattern written by marked characters. -/
def ofChars (cs : List (Char × Bool)) : List Glob := ofCharsFor (cs.length + 1) cs

/-- Whether one pattern element other than `*` matches a character. -/
def accepts (g : Glob) (c : Char) : Bool :=
  match g with
  | .char d => c = d
  | .any => true
  | .star => true
  | .set negate ranges => ranges.any (fun (lo, hi) => lo ≤ c && c ≤ hi) != negate

/-- Whether the pattern matches all of the text; each step shortens the pattern or the text,
so their lengths bound the steps. -/
def matchesFor : Nat → List Glob → List Char → Bool
  | 0, _, _ => false
  | _, [], cs => cs.isEmpty
  | fuel + 1, .star :: ps, cs =>
    matchesFor fuel ps cs ||
      match cs with
      | [] => false
      | _ :: rest => matchesFor fuel (.star :: ps) rest
  | fuel + 1, g :: ps, cs =>
    match cs with
    | [] => false
    | c :: rest => accepts g c && matchesFor fuel ps rest

/-- Whether the pattern matches all of the text. -/
def matchText (ps : List Glob) (s : String) : Bool :=
  matchesFor (ps.length + s.length + 1) ps s.toList

end Glob

/-- The text without its shortest (or `longest`) suffix that the pattern matches; the text
itself when none does. -/
def dropSuffix (ps : List Glob) (longest : Bool) (s : String) : String :=
  let cs := s.toList
  let cuts := (List.range (cs.length + 1)).map fun k => cs.length - k
  let cuts := if longest then cuts.reverse else cuts
  match cuts.find? (fun k => Glob.matchText ps (String.ofList (cs.drop k))) with
  | some k => String.ofList (cs.take k)
  | none => s

/-- The text without its shortest (or `longest`) prefix that the pattern matches. -/
def dropPrefix (ps : List Glob) (longest : Bool) (s : String) : String :=
  let cs := s.toList
  let cuts := List.range (cs.length + 1)
  let cuts := if longest then cuts.reverse else cuts
  match cuts.find? (fun k => Glob.matchText ps (String.ofList (cs.take k))) with
  | some k => String.ofList (cs.drop k)
  | none => s

example : Glob.matchText (Glob.ofChars ("a*c".toList.map (·, false))) "abbc" = true := by decide
example : dropSuffix (Glob.ofChars (".*".toList.map (·, false))) false "a.b.c" = "a.b" := by
  decide

end AgentLink.Shell
