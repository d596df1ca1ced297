import AgentLink.Utility.Outcome

/-!
# Counting lines, words and bytes

`wc` counts, for each operand (the input when there are none, or for `-`), its newlines, its
words, its characters, its bytes and the width of its longest line, and writes the counts
asked for (`-l`, `-w`, `-m`, `-c`, `-L`; without any, lines, words and bytes) in that order,
then the operand's name. A word is a run of bytes other than the six blanks; characters are
bytes, as in the C locale. The width of a line counts each printable byte as one and a tab as
far as the next multiple of eight; a carriage return or form feed starts the width again.

The counts are right-aligned to one width: the number of digits of the total size of the
regular files among the operands, but at least seven when one of them is not a regular file.
A single count of a single operand, or of the input, is not padded. With several operands a
last line gives the totals (`--total` chooses: `auto`, `always`, `only`, `never`).
-/

namespace AgentLink

/-- The counts of one input. -/
structure Counts where
  lines : Nat
  words : Nat
  bytes : Nat
  longest : Nat

/-- Whether a byte separates words. -/
def isBlankByte (b : UInt8) : Bool := b = 32 || (9 ≤ b && b ≤ 13)

/-- The width of the longest line of bytes. -/
def longestLine (bs : List UInt8) : Nat :=
  let (best, pos) := bs.foldl (fun (best, pos) b =>
    if b = 10 || b = 13 || b = 12 then (max best pos, 0)
    else if b = 9 then (best, pos + 8 - pos % 8)
    else if 32 ≤ b && b < 127 then (best, pos + 1)
    else (best, pos)) (0, 0)
  max best pos

/-- Count the lines, words, bytes and longest line of bytes. -/
def countBytes (bs : List UInt8) : Counts :=
  let (words, _) := bs.foldl (fun (n, inWord) b =>
    if isBlankByte b then (n, false) else if inWord then (n, true) else (n + 1, true)) (0, false)
  ⟨bs.count 10, words, bs.length, longestLine bs⟩

/-- The sum of two counts; the longest line is the longer one. -/
def Counts.add (a b : Counts) : Counts :=
  ⟨a.lines + b.lines, a.words + b.words, a.bytes + b.bytes, max a.longest b.longest⟩

/-- Which counts are written: lines, words, characters, bytes, longest line. -/
structure CountChoice where
  lines : Bool
  words : Bool
  chars : Bool
  bytes : Bool
  longest : Bool

/-- The counts chosen, in their order. -/
def CountChoice.pick (c : CountChoice) (n : Counts) : List Nat :=
  (if c.lines then [n.lines] else []) ++ (if c.words then [n.words] else []) ++
    (if c.chars then [n.bytes] else []) ++ (if c.bytes then [n.bytes] else []) ++
    (if c.longest then [n.longest] else [])

/-- How many counts are chosen. -/
def CountChoice.size (c : CountChoice) : Nat :=
  [c.lines, c.words, c.chars, c.bytes, c.longest].count true

/-- A line of counts, each right-aligned to `width`, and the name after them. -/
def countLine (width : Nat) (counts : List Nat) (name : Option String) : String :=
  let cells := counts.map fun n =>
    let s := toString n
    String.ofList (List.replicate (width - s.length) ' ') ++ s
  " ".intercalate cells ++ (name.map (" " ++ ·)).getD "" ++ "\n"

/-- The options of `wc`. -/
def countOptions : List ProgramOption :=
  [⟨some 'c', some "bytes", .nothing, "c"⟩, ⟨some 'm', some "chars", .nothing, "m"⟩,
    ⟨some 'l', some "lines", .nothing, "l"⟩, ⟨some 'L', some "max-line-length", .nothing, "L"⟩,
    ⟨some 'w', some "words", .nothing, "w"⟩, ⟨none, some "total", .argument, "total"⟩]

/-- The operands `wc` reads, `-` for the input; none when its arguments are wrong. -/
def countOperands (args : List String) : List String :=
  match readProgramOptions countOptions args with
  | .ok r => if r.operands.isEmpty then ["-"] else r.operands
  | .error _ => []

/-- Run `wc`, reading operands through `source` and learning through `regular` whether an
operand is a regular file (none when it does not exist). -/
def runCount (name : String) (args : List String)
    (source : String → Except IoError (List UInt8)) (regular : String → Option Bool) :
    Outcome :=
  match readProgramOptions countOptions args with
  | .error e => usageError name e 1
  | .ok r =>
    let totalMode := r.last? "total"
    let modes := ["auto", "always", "only", "never"]
    match totalMode.filter (!modes.contains ·) with
    | some bad =>
      ⟨[.err (name ++ ": invalid argument " ++ quoteName bad ++ " for '--total'\n" ++
        "Valid arguments are:\n  - 'auto'\n  - 'always'\n  - 'only'\n  - 'never'\n" ++
        tryHelp name)], 1⟩
    | none =>
      let chosen : CountChoice := ⟨r.has "l", r.has "w", r.has "m", r.has "c", r.has "L"⟩
      let choice := if chosen.size = 0 then ⟨true, true, false, true, false⟩ else chosen
      let named := !r.operands.isEmpty
      let operands := if named then r.operands else ["-"]
      let single := operands.length = 1 && choice.size = 1
      let width :=
        if single then 1
        else
          let kinds := operands.map fun o => (o, regular o)
          let total := (kinds.filterMap fun (o, k) =>
            if k = some true then (source o).toOption.map List.length else none).foldl Nat.add 0
          let digits := (toString total).length
          if kinds.any (·.2 == some false) then max digits 7 else digits
      let mode := totalMode.getD "auto"
      let showEach := mode ≠ "only"
      let step := fun ((emits, total, status) : List Emit × Counts × Nat)
          ((o, got) : String × Except IoError (List UInt8)) =>
        let shown := if named then some o else none
        match got with
        | .ok bs =>
          let n := countBytes bs
          let line : List Emit :=
            if showEach then [.out (utf8Encode (countLine width (choice.pick n) shown))] else []
          (emits ++ line, total.add n, status)
        | .error .isADirectory =>
          let line : List Emit := if showEach then
              [.out (utf8Encode (countLine width (choice.pick ⟨0, 0, 0, 0⟩) shown))] else []
          (emits ++ [.err (name ++ ": " ++ quoteNameIfNeeded o ++ ": Is a directory\n")] ++ line,
            total, 1)
        | .error e =>
          (emits ++ [.err (name ++ ": " ++ quoteNameIfNeeded o ++ ": " ++ e.reason ++ "\n")],
            total, 1)
      let (emits, total, status) :=
        (readInOrder false source operands).foldl step ([], ⟨0, 0, 0, 0⟩, 0)
      let totalLine : List Emit :=
        if mode = "always" || (mode = "auto" && operands.length > 1) then
          [.out (utf8Encode (countLine width (choice.pick total) (some "total")))]
        else if mode = "only" then
          [.out (utf8Encode (countLine 1 (choice.pick total) none))]
        else []
      ⟨emits ++ totalLine, status⟩

end AgentLink
