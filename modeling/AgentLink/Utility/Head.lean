import AgentLink.Utility.Outcome

/-!
# The first and the last part of files

`head` writes the first lines (`-n`) or bytes (`-c`) of each file, ten lines by default; a
count written with a leading `-` keeps all but that many at the end. `tail` writes the last
lines or bytes; a count with a leading `+` starts from that line or byte instead. The operand
`-`, or none, is the input. With several operands each part comes under a heading
`==> NAME <==`, a blank line setting it off from the part before; `-q` leaves the headings
out and `-v` puts them in even for one operand.

A count is decimal, after optional blanks and `+`, and may carry a size suffix: `b` is 512,
a letter of `kMGTPEZYRQ` (or `K`) a power of 1024, and with `B` after the letter a power of
1000. A count beyond `2^64 - 1` is too large.
-/

namespace AgentLink

/-- A count as read: its value, or why it is refused. -/
inductive CountRead where
  | ok (n : Nat)
  | invalid
  | tooLarge

/-- The power a size letter stands for. -/
def sizePower : Char → Option Nat
  | 'k' | 'K' => some 1
  | 'm' | 'M' => some 2
  | 'G' => some 3
  | 'T' => some 4
  | 'P' => some 5
  | 'E' => some 6
  | 'Z' => some 7
  | 'Y' => some 8
  | 'R' => some 9
  | 'Q' => some 10
  | _ => none

/-- The multiplier a size suffix stands for. -/
def sizeSuffix : List Char → Option Nat
  | [] => some 1
  | ['b'] => some 512
  | [c] => (sizePower c).map (Nat.pow 1024 ·)
  | [c, 'B'] => (sizePower c).map (Nat.pow 1000 ·)
  | [c, 'i', 'B'] => (sizePower c).map (Nat.pow 1024 ·)
  | _ => none

/-- The largest count: `2^64 - 1`. -/
def largestCount : Nat := 18446744073709551615

/-- Read a count with an optional size suffix. -/
def readSizeCount (s : String) : CountRead :=
  let cs := s.toList.dropWhile isCSpace
  let cs := match cs with
    | '+' :: more => more
    | _ => cs
  let digits := cs.takeWhile Char.isDigit
  if digits.isEmpty then .invalid
  else
    match sizeSuffix (cs.drop digits.length) with
    | none => .invalid
    | some m =>
      let n := digits.foldl (fun n c => 10 * n + (c.toNat - 48)) 0 * m
      if n > largestCount then .tooLarge else .ok n

/-- What `head` or `tail` was asked: bytes rather than lines, the count, whether it is
measured from the other end (a leading `-` for `head`, `+` for `tail`), the headings (none
for the default), the separator of lines, and the operands. -/
structure PartRequest where
  bytes : Bool
  count : Nat
  fromOtherEnd : Bool
  headings : Option Bool
  separator : UInt8
  operands : List String

/-- The part `head` keeps of bytes. -/
def PartRequest.headOf (r : PartRequest) (bs : List UInt8) : List UInt8 :=
  if r.bytes then
    if r.fromOtherEnd then bs.take (bs.length - r.count) else bs.take r.count
  else
    let lines := splitAfter r.separator bs
    (if r.fromOtherEnd then lines.take (lines.length - r.count) else lines.take r.count).flatten

/-- The part `tail` keeps of bytes. -/
def PartRequest.tailOf (r : PartRequest) (bs : List UInt8) : List UInt8 :=
  if r.bytes then
    if r.fromOtherEnd then bs.drop (r.count - 1) else bs.drop (bs.length - r.count)
  else
    let lines := splitAfter r.separator bs
    (if r.fromOtherEnd then lines.drop (r.count - 1)
      else lines.drop (lines.length - r.count)).flatten

/-- The options of `head`. -/
def headOptions : List ProgramOption :=
  [⟨some 'c', some "bytes", .argument, "c"⟩, ⟨some 'n', some "lines", .argument, "n"⟩,
    ⟨some 'q', some "quiet", .nothing, "q"⟩, ⟨none, some "silent", .nothing, "q"⟩,
    ⟨some 'v', some "verbose", .nothing, "v"⟩,
    ⟨some 'z', some "zero-terminated", .nothing, "z"⟩]

/-- The options of `tail`. -/
def tailOptions : List ProgramOption :=
  [⟨some 'c', some "bytes", .argument, "c"⟩, ⟨some 'n', some "lines", .argument, "n"⟩,
    ⟨some 'q', some "quiet", .nothing, "q"⟩, ⟨none, some "silent", .nothing, "q"⟩,
    ⟨some 'v', some "verbose", .nothing, "v"⟩,
    ⟨some 'z', some "zero-terminated", .nothing, "z"⟩]

/-- Read the options of `head` or `tail` (`sign` is the mark of a count from the other end):
the request, or the usage error. -/
def readPartRequest (name : String) (specs : List ProgramOption) (sign : Char)
    (args : List String) : Except Outcome PartRequest := do
  let opts ← (readProgramOptions specs args).mapError (usageError name · 1)
  let start : PartRequest := ⟨false, 10, false, none, newlineByte, opts.operands⟩
  opts.given.foldlM (fun r (key, value) =>
    match key with
    | "q" => .ok { r with headings := some false }
    | "v" => .ok { r with headings := some true }
    | "z" => .ok { r with separator := 0 }
    | _ =>
      let bytes := key == "c"
      let (other, digits) := match value.toList with
        | c :: more => if c = sign then (true, String.ofList more)
          else if c = '-' || c = '+' then (false, String.ofList more) else (false, value)
        | [] => (false, value)
      let what := if bytes then "invalid number of bytes" else "invalid number of lines"
      match readSizeCount digits with
      | .ok n => .ok { r with bytes, count := n, fromOtherEnd := other }
      | .invalid => .error ⟨[.err (name ++ ": " ++ what ++ ": " ++ quoteName value ++ "\n")], 1⟩
      | .tooLarge => .error ⟨[.err (name ++ ": " ++ what ++ ": " ++ quoteName value ++
          ": Value too large for defined data type\n")], 1⟩) start

/-- The arguments with an old-style count first (`-5`, or `+5` for `tail`) written as the
option it stands for. -/
def oldStyleCount (sign : Option Char) : List String → List String
  | a :: rest =>
    match a.toList with
    | c :: d :: more =>
      if (c = '-' || some c = sign) && d.isDigit && (d :: more).all Char.isDigit then
        (if c = '-' then "-n" ++ String.ofList (d :: more)
          else "-n+" ++ String.ofList (d :: more)) :: rest
      else a :: rest
    | _ => a :: rest
  | [] => []

/-- Write the part of each operand, read in order through `source` (`-` being the input): the
heading, the part or the reason it cannot be read. -/
def writeParts (name : String) (r : PartRequest) (part : List UInt8 → List UInt8)
    (source : String → Except IoError (List UInt8)) : Outcome :=
  let operands := if r.operands.isEmpty then ["-"] else r.operands
  let headings := r.headings.getD (operands.length > 1)
  let step := fun ((emits, status, first) : List Emit × Nat × Bool)
      ((o, got) : String × Except IoError (List UInt8)) =>
    let shown := if o = "-" then "standard input" else o
    let heading : List Emit :=
      if headings then [.out (utf8Encode ((if first then "" else "\n") ++ "==> " ++ shown ++
        " <==\n"))] else []
    match got with
    | .ok bs => (emits ++ heading ++ [.out (part bs)], status, false)
    | .error .isADirectory =>
      (emits ++ heading ++ [.err (name ++ ": error reading " ++ quoteName shown ++
        ": Is a directory\n")], 1, false)
    | .error e =>
      (emits ++ [.err (name ++ ": cannot open " ++ quoteName shown ++ " for reading: " ++
        e.reason ++ "\n")], 1, first)
  let (emits, status, _) := (readInOrder false source operands).foldl step ([], 0, true)
  ⟨emits, status⟩

/-- Run `head` with its arguments. -/
def runHead (name : String) (args : List String)
    (source : String → Except IoError (List UInt8)) : Outcome :=
  match readPartRequest name headOptions '-' (oldStyleCount none args) with
  | .error o => o
  | .ok r => writeParts name r r.headOf source

/-- Run `tail` with its arguments. -/
def runTail (name : String) (args : List String)
    (source : String → Except IoError (List UInt8)) : Outcome :=
  match readPartRequest name tailOptions '+' (oldStyleCount (some '+') args) with
  | .error o => o
  | .ok r => writeParts name r r.tailOf source

/-- The operands a `head` or `tail` reads, `-` for the input, before it runs; none when its
arguments are wrong. -/
def partOperands (specs : List ProgramOption) (args : List String) : List String :=
  match readProgramOptions specs (oldStyleCount (some '+') args) with
  | .ok r => if r.operands.isEmpty then ["-"] else r.operands
  | .error _ => []

end AgentLink
