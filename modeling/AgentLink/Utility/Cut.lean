import AgentLink.Utility.Head

/-!
# Selecting parts of lines

`cut` writes, for each line of its operands, the bytes (`-b`, `-c`) or the fields (`-f`) that a
list names. A list is a comma-separated list of numbers and ranges (`N`, `N-M`, `N-`, `-M`),
counted from one; what it selects is written in the order of the line, not of the list, and
`--complement` selects the rest. Fields are separated by `-d`'s byte, a tab by default; a line
without it is written whole, or left out with `-s`. The selected fields are joined by the
separator, or by `--output-delimiter`, which also goes between separate ranges of bytes.
-/

namespace AgentLink

/-- A range of positions from one, with no end for one that runs to the end of the line. -/
structure PositionRange where
  first : Nat
  last : Option Nat

/-- Whether a position lies in one of the ranges. -/
def inPositionRanges (ranges : List PositionRange) (n : Nat) : Bool :=
  ranges.any fun r => r.first ≤ n && (r.last.map fun m => decide (n ≤ m)).getD true

/-- Read a list of positions; `fields` chooses the words of the diagnostics. -/
def readPositionList (fields : Bool) (text : String) : Except String (List PositionRange) :=
  let zero := if fields then "fields are numbered from 1"
    else "byte/character positions are numbered from 1"
  let items := (text.splitOn ",").flatMap (·.splitOn " ")
  let number (s : String) : Except String Nat :=
    if s.toList.all Char.isDigit && !s.isEmpty then
      let n := s.toList.foldl (fun n c => 10 * n + (c.toNat - 48)) 0
      if n > largestCount then
        .error ((if fields then "field number " else "byte/character offset ") ++
          quoteName s ++ " is too large")
      else .ok n
    else .error ((if fields then "invalid field value " else "invalid byte/character position ")
      ++ quoteName s)
  items.mapM fun item =>
    match item.splitOn "-" with
    | [one] => do
      let n ← if one.isEmpty then pure 0 else number one
      if n = 0 then .error zero else pure ⟨n, some n⟩
    | [lo, hi] =>
      if lo.isEmpty && hi.isEmpty then .error "invalid range with no endpoint: -"
      else do
        let a ← if lo.isEmpty then pure 1 else number lo
        let b ← if hi.isEmpty then pure none else some <$> number hi
        if a = 0 || b = some 0 then .error zero
        else if (b.map fun m => decide (m < a)).getD false then .error "invalid decreasing range"
        else pure ⟨a, b⟩
    | _ => .error (if fields then "invalid field range" else "invalid byte or character range")

/-- The options of `cut`. -/
def cutOptions : List ProgramOption :=
  [⟨some 'b', some "bytes", .argument, "b"⟩, ⟨some 'c', some "characters", .argument, "c"⟩,
    ⟨some 'f', some "fields", .argument, "f"⟩, ⟨some 'd', some "delimiter", .argument, "d"⟩,
    ⟨some 's', some "only-delimited", .nothing, "s"⟩, ⟨some 'n', none, .nothing, "n"⟩,
    ⟨none, some "complement", .nothing, "complement"⟩,
    ⟨none, some "output-delimiter", .argument, "output"⟩,
    ⟨some 'z', some "zero-terminated", .nothing, "z"⟩]

/-- The operands `cut` reads, `-` for the input; none when its arguments are wrong. -/
def cutOperands (args : List String) : List String :=
  match readProgramOptions cutOptions args with
  | .ok r => if r.operands.isEmpty then ["-"] else r.operands
  | .error _ => []

/-- The selected bytes of a line, with `between` put between separate runs. -/
def cutBytes (selected : Nat → Bool) (between : Option (List UInt8)) (line : List UInt8) :
    List UInt8 :=
  let (out, _) := line.zipIdx.foldl (fun (out, prevTaken) (b, i) =>
    if selected (i + 1) then
      let gap := match between, prevTaken with
        | some d, false => if out.isEmpty then [] else d
        | _, _ => []
      (out ++ gap ++ [b], true)
    else (out, false)) ([], true)
  out

/-- The selected fields of a line joined by `joiner`, or none for a line without `sep`. -/
def cutFields (selected : Nat → Bool) (sep : UInt8) (joiner : List UInt8) (line : List UInt8) :
    Option (List UInt8) :=
  if !line.contains sep then none
  else
    let fields := (splitAfter sep line).map fun f =>
      if f.getLast? = some sep then f.dropLast else f
    let fields := if line.getLast? = some sep then fields ++ [[]] else fields
    let kept := fields.zipIdx.filterMap fun (f, i) => if selected (i + 1) then some f else none
    some (joiner.intercalate kept)

/-- Run `cut`. -/
def runCut (name : String) (args : List String)
    (source : String → Except IoError (List UInt8)) : Outcome :=
  match readProgramOptions cutOptions args with
  | .error e => usageError name e 1
  | .ok r =>
    let lists := r.given.filter fun (k, _) => k = "b" || k = "c" || k = "f"
    match lists with
    | [] => usageError name "you must specify a list of bytes, characters, or fields" 1
    | _ :: _ :: _ => usageError name "only one list may be specified" 1
    | [(kind, text)] =>
      let fields := kind = "f"
      let delimiter := (r.last? "d").map utf8Encode
      if !fields && delimiter.isSome then
        usageError name "an input delimiter may be specified only when operating on fields" 1
      else if !fields && r.has "s" then
        usageError name ("suppressing non-delimited lines makes sense\n" ++
          "\tonly when operating on fields") 1
      else if (delimiter.map fun d => decide (d.length > 1)).getD false then
        usageError name "the delimiter must be a single character" 1
      else
        match readPositionList fields text with
        | .error e => usageError name e 1
        | .ok ranges =>
          let selected (n : Nat) : Bool := inPositionRanges ranges n != r.has "complement"
          let sep : UInt8 := ((delimiter.getD [9]).head?).getD 0
          let output := (r.last? "output").map utf8Encode
          let lineEnd : UInt8 := if r.has "z" then 0 else 10
          let operands := if r.operands.isEmpty then ["-"] else r.operands
          let step := fun ((emits, status) : List Emit × Nat)
              ((o, got) : String × Except IoError (List UInt8)) =>
            match got with
            | .ok bs =>
              let lines := (splitAfter lineEnd bs).map fun l =>
                if l.getLast? = some lineEnd then l.dropLast else l
              let out := lines.flatMap fun line =>
                if fields then
                  match cutFields selected sep (output.getD [sep]) line with
                  | some kept => kept ++ [lineEnd]
                  | none => if r.has "s" then [] else line ++ [lineEnd]
                else cutBytes selected output line ++ [lineEnd]
              (emits ++ [.out out], status)
            | .error e =>
              (emits ++ [.err (name ++ ": " ++ quoteNameIfNeeded o ++ ": " ++ e.reason ++ "\n")],
                1)
          let (emits, status) := (readInOrder false source operands).foldl step ([], 0)
          ⟨emits, status⟩

end AgentLink
