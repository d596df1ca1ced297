import AgentLink.Utility.Outcome

/-!
# The last component of a path and the directory above it

`basename NAME [SUFFIX]` writes the last component of `NAME` (after trailing slashes are
dropped; `/` for a name of slashes only) without `SUFFIX` when it ends with it and is longer;
`-a` takes every operand as a name and `-s` gives the suffix. `dirname NAME...` writes each
name without its last component and the slashes before it: `.` when nothing is left, `/` when
only the root is.
-/

namespace AgentLink

/-- A path without the slashes that end it, unless it is only slashes. -/
def trimTrailingSlashes (p : String) : String :=
  let cs := (p.toList.reverse.dropWhile (· = '/')).reverse
  if cs.isEmpty && p.startsWith "/" then "/" else String.ofList cs

/-- The last component of a path, without `suffix` when it ends with it and is longer. -/
def baseName (p : String) (suffix : String) : String :=
  let t := trimTrailingSlashes p
  let last := if t = "/" then t else (t.splitOn "/").getLastD t
  if !suffix.isEmpty && last.endsWith suffix && last ≠ suffix then
    (last.dropEnd suffix.length).toString
  else last

/-- The directory a path names its last component in. -/
def directoryName (p : String) : String :=
  let t := trimTrailingSlashes p
  if t = "/" then "/"
  else
    let parent := (t.toList.reverse.dropWhile (· ≠ '/')).reverse
    if parent.isEmpty then "."
    else
      let parent := (parent.reverse.dropWhile (· = '/')).reverse
      if parent.isEmpty then "/" else String.ofList parent

/-- Run `basename`. -/
def runBaseName (name : String) (args : List String) : Outcome :=
  let specs : List ProgramOption :=
    [⟨some 'a', some "multiple", .nothing, "a"⟩, ⟨some 's', some "suffix", .argument, "s"⟩,
      ⟨some 'z', some "zero", .nothing, "z"⟩]
  match readProgramOptions specs args with
  | .error e => usageError name e 1
  | .ok r =>
    let ending := if r.has "z" then "\x00" else "\n"
    let multiple := r.has "a" || r.has "s"
    match r.operands, multiple with
    | [], _ => usageError name "missing operand" 1
    | names, true =>
      let suffix := (r.last? "s").getD ""
      ⟨[.out (utf8Encode (String.join (names.map (baseName · suffix ++ ending))))], 0⟩
    | [n], false => ⟨[.out (utf8Encode (baseName n "" ++ ending))], 0⟩
    | [n, suffix], false => ⟨[.out (utf8Encode (baseName n suffix ++ ending))], 0⟩
    | _ :: _ :: extra :: _, false => usageError name ("extra operand " ++ quoteName extra) 1

/-- Run `dirname`. -/
def runDirectoryName (name : String) (args : List String) : Outcome :=
  let specs : List ProgramOption := [⟨some 'z', some "zero", .nothing, "z"⟩]
  match readProgramOptions specs args with
  | .error e => usageError name e 1
  | .ok r =>
    let ending := if r.has "z" then "\x00" else "\n"
    match r.operands with
    | [] => usageError name "missing operand" 1
    | names => ⟨[.out (utf8Encode (String.join (names.map (directoryName · ++ ending))))], 0⟩

end AgentLink
