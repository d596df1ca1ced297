/-!
# Process environments

A process receives its environment as a block of `NAME=value` entries. The block of a started
process lists its variables in increasing order of name, one entry each (`environBlock`).

A process reads its block back into variables (`readEnviron`) by splitting each entry at its
first `=` after the first character. An entry without one is skipped, so a variable with an
empty name is lost; a name that holds `=` after its first character reads back as a shorter
name with a longer value; and of two entries that read as one name, the later wins.
-/

namespace AgentLink

/-- The environment block of a process started with the variables `vars`, each name once. -/
def environBlock (vars : List (String × String)) : List String :=
  (vars.mergeSort fun a b => decide (a.1 ≤ b.1)).map fun (k, v) => k ++ "=" ++ v

/-- The variable an entry of a block reads as: split at the first `=` after the first
character, or none when there is no such `=`. -/
def readEntry (entry : String) : Option (String × String) :=
  match entry.toList with
  | [] => none
  | c :: rest =>
    (rest.findIdx? (· == '=')).map fun k =>
      (String.ofList (c :: rest.take k), String.ofList (rest.drop (k + 1)))

/-- The variables a process reads from its block, in the order first read; a later entry of
the same name replaces the value. -/
def readEnviron (block : List String) : List (String × String) :=
  block.foldl (fun acc entry =>
    match readEntry entry with
    | some (k, v) =>
      if acc.any (·.1 == k) then acc.map fun e => if e.1 == k then (k, v) else e
      else acc ++ [(k, v)]
    | none => acc) []

example : readEnviron (environBlock [("Z=", "1"), ("Z", "2"), ("", "x")]) = [("Z", "=1")] := by
  cbv

end AgentLink
