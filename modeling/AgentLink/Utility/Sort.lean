import AgentLink.Utility.Head
import AgentLink.Text.CharClass

/-!
# Sorting lines and folding repeated lines

`sort` writes the lines of all its operands in order. Lines compare byte by byte, or by the
number they start with (`-n`: blanks, an optional `-`, digits and a fraction; no number counts
as zero), or with lower case read as upper case (`-f`). A key (`-k F[.C][,F[.C]]`) compares
only part of each line: fields are separated by `-t`'s character or, without it, each field is
a run of blanks and the word after them. Keys compare in turn; lines equal on every key
compare as whole lines, unless `-s` keeps them in their first order. `-r` reverses, `-u` keeps
the first of each run of equal lines, `-c` only checks that the lines are in order.

`uniq` writes its input with each run of equal adjacent lines folded into one: `-c` puts the
length of the run before it, `-d` writes only the runs longer than one line, `-u` only the
others. Lines compare after skipping `-f` fields and `-s` bytes, on at most `-w` bytes, and
with `-i` ignoring case.
-/

namespace AgentLink

/-- Whether a byte is a blank that separates fields: a space or a tab. -/
def isFieldBlank (b : UInt8) : Bool := b = 32 || b = 9

/-- Compare byte strings in byte order, a prefix first. -/
def compareBytes : List UInt8 → List UInt8 → Ordering
  | [], [] => .eq
  | [], _ => .lt
  | _, [] => .gt
  | a :: as, b :: bs => if a < b then .lt else if b < a then .gt else compareBytes as bs

/-- The number a line starts with, as its sign, its whole digits without leading zeros and
its fraction digits without trailing zeros. -/
def numberKey (bs : List UInt8) : Bool × List UInt8 × List UInt8 :=
  let bs := bs.dropWhile isFieldBlank
  let (neg, bs) := match bs with
    | 45 :: more => (true, more)
    | _ => (false, bs)
  let isDigitByte (b : UInt8) : Bool := 48 ≤ b && b ≤ 57
  let whole := (bs.takeWhile isDigitByte).dropWhile (· = 48)
  let frac := match bs.dropWhile isDigitByte with
    | 46 :: more => ((more.takeWhile isDigitByte).reverse.dropWhile (· = 48)).reverse
    | _ => []
  (neg && !(whole.isEmpty && frac.isEmpty), whole, frac)

/-- Compare the numbers two lines start with. -/
def compareNumbers (a b : List UInt8) : Ordering :=
  let (na, wa, fa) := numberKey a
  let (nb, wb, fb) := numberKey b
  let magnitude :=
    if wa.length < wb.length then Ordering.lt
    else if wb.length < wa.length then .gt
    else (compareBytes wa wb).then (compareBytes fa fb)
  match na, nb with
  | false, true => .gt
  | true, false => .lt
  | false, false => magnitude
  | true, true => magnitude.swap

/-- How a key, or a whole line, compares: by number, ignoring case, reversed, and skipping
blanks at the start of the key or at its end. -/
structure LineOrder where
  numeric : Bool
  fold : Bool
  reverse : Bool
  blanksStart : Bool
  blanksEnd : Bool

/-- A sort key: the field and byte it starts at (from one), and the field and byte it ends
at (byte zero for the end of the field, no field for the end of the line). -/
structure SortKey where
  startField : Nat
  startByte : Nat
  endField : Option Nat
  endByte : Nat
  order : LineOrder
  /-- Whether the key had options of its own, else it takes the global ones. -/
  own : Bool

/-- Skip `n` fields of a line: past `n` separators, or past `n` runs of blanks and words. -/
def dropFields (tab : Option UInt8) (lastKeepsTab : Bool) : Nat → List UInt8 → List UInt8
  | 0, bs => bs
  | n + 1, bs =>
    match tab with
    | some t =>
      let rest := bs.dropWhile (· ≠ t)
      let rest := if !rest.isEmpty && (n > 0 || lastKeepsTab) then rest.drop 1 else rest
      dropFields tab lastKeepsTab n rest
    | none =>
      dropFields tab lastKeepsTab n ((bs.dropWhile isFieldBlank).dropWhile (!isFieldBlank ·))

/-- The bytes of a line a key covers. -/
def SortKey.extract (k : SortKey) (tab : Option UInt8) (line : List UInt8) : List UInt8 :=
  let fromStart := dropFields tab true (k.startField - 1) line
  let fromStart := if k.order.blanksStart then fromStart.dropWhile isFieldBlank else fromStart
  let fromStart := fromStart.drop (k.startByte - 1)
  let startAt := line.length - fromStart.length
  let endAt := match k.endField with
    | none => line.length
    | some f =>
      let words := if k.endByte = 0 then f else f - 1
      let rest := dropFields tab (k.endByte ≠ 0) words line
      let rest := if k.endByte ≠ 0 && k.order.blanksEnd then rest.dropWhile isFieldBlank
        else rest
      let rest := rest.drop k.endByte
      line.length - rest.length
  (line.take endAt).drop startAt

/-- Compare two keys' bytes under an ordering. -/
def LineOrder.compare (o : LineOrder) (a b : List UInt8) : Ordering :=
  let r := if o.numeric then compareNumbers a b
    else if o.fold then compareBytes (a.map upperByte) (b.map upperByte)
    else compareBytes a b
  if o.reverse then r.swap else r

/-- What `sort` was asked. -/
structure SortRequest where
  order : LineOrder
  keys : List SortKey
  tab : Option UInt8
  unique : Bool
  stable : Bool
  check : Option Bool
  separator : UInt8
  /-- Whether the lines go to a file named by `-o` rather than to the output. -/
  toFile : Bool
  operands : List String

/-- Compare two lines by the keys, then as whole lines. -/
def SortRequest.compare (r : SortRequest) (lastResort : Bool) (a b : List UInt8) : Ordering :=
  let byKeys := match r.keys with
    | [] =>
      let o := r.order
      let (a', b') := if o.blanksStart then (a.dropWhile isFieldBlank, b.dropWhile isFieldBlank)
        else (a, b)
      o.compare a' b'
    | keys => keys.foldl (fun acc k =>
        let o := if k.own then k.order else { r.order with
          blanksStart := k.order.blanksStart || r.order.blanksStart,
          blanksEnd := k.order.blanksEnd || r.order.blanksEnd }
        acc.then (o.compare (k.extract r.tab a) (k.extract r.tab b))) .eq
  if byKeys ≠ .eq || !lastResort then byKeys
  else
    let whole := compareBytes a b
    if r.order.reverse then whole.swap else whole

/-- The options of `sort`. -/
def sortOptions : List ProgramOption :=
  [⟨some 'b', some "ignore-leading-blanks", .nothing, "b"⟩,
    ⟨some 'f', some "ignore-case", .nothing, "f"⟩,
    ⟨some 'n', some "numeric-sort", .nothing, "n"⟩, ⟨some 'r', some "reverse", .nothing, "r"⟩,
    ⟨some 'u', some "unique", .nothing, "u"⟩, ⟨some 's', some "stable", .nothing, "s"⟩,
    ⟨some 'c', none, .nothing, "c"⟩, ⟨some 'C', none, .nothing, "C"⟩,
    ⟨some 'z', some "zero-terminated", .nothing, "z"⟩,
    ⟨some 'k', some "key", .argument, "k"⟩, ⟨some 't', some "field-separator", .argument, "t"⟩,
    ⟨some 'o', some "output", .argument, "o"⟩]

/-- Read a field or byte number of a key: its value and the rest. -/
def readKeyNumber (cs : List Char) : Option Nat × List Char :=
  let ds := cs.takeWhile Char.isDigit
  (if ds.isEmpty then none else some (ds.foldl (fun n d => 10 * n + (d.toNat - 48)) 0),
    cs.drop ds.length)

/-- Read the ordering letters of a key onto an ordering; the letters left over. -/
def readKeyLetters (o : LineOrder) (atEnd : Bool) : List Char → LineOrder × List Char
  | 'n' :: more => readKeyLetters { o with numeric := true } atEnd more
  | 'f' :: more => readKeyLetters { o with fold := true } atEnd more
  | 'r' :: more => readKeyLetters { o with reverse := true } atEnd more
  | 'b' :: more =>
    let o := if atEnd then { o with blanksEnd := true } else { o with blanksStart := true }
    readKeyLetters o atEnd more
  | cs => (o, cs)

/-- Read a key given to `-k`, or the text of what is wrong with it. -/
def readSortKey (text : String) : Except String SortKey := do
  let plain : LineOrder := ⟨false, false, false, false, false⟩
  let bad (what : String) : Except String SortKey :=
    .error (what ++ ": invalid field specification " ++ quoteName text)
  match readKeyNumber text.toList with
  | (none, _) => .error ("invalid number at field start: invalid count at start of " ++
      quoteName text)
  | (some 0, _) => bad "field number is zero"
  | (some f, rest) =>
    let (c, rest) ← match rest with
      | '.' :: more =>
        match readKeyNumber more with
        | (some 0, _) => .error ("character offset is zero: invalid field specification " ++
            quoteName text)
        | (some c, after) => pure (c, after)
        | (none, _) => .error ("invalid number after '.': invalid count at start of " ++
            quoteName (String.ofList more))
      | _ => pure (1, rest)
    let (o, rest) := readKeyLetters plain false rest
    match rest with
    | [] => return ⟨f, c, none, 0, o, o.numeric || o.fold || o.reverse || o.blanksStart⟩
    | ',' :: more =>
      match readKeyNumber more with
      | (some 0, _) => bad "field number is zero"
      | (none, _) => .error ("invalid number after ',': invalid count at start of " ++
          quoteName (String.ofList more))
      | (some e, rest) =>
        let (ec, rest) := match rest with
          | '.' :: more => match readKeyNumber more with
            | (some n, after) => (n, after)
            | (none, after) => (0, after)
          | _ => (0, rest)
        let (o, rest) := readKeyLetters o true rest
        if rest.isEmpty then
          return ⟨f, c, some e, ec, o,
            o.numeric || o.fold || o.reverse || o.blanksStart || o.blanksEnd⟩
        else bad "stray character in field spec"
    | _ => bad "stray character in field spec"

/-- Read the arguments of `sort`. -/
def readSortRequest (name : String) (args : List String) : Except Outcome SortRequest := do
  let r ← (readProgramOptions sortOptions args).mapError (usageError name · 2)
  let order : LineOrder := ⟨r.has "n", r.has "f", r.has "r", r.has "b", r.has "b"⟩
  let failure (text : String) : Outcome := ⟨[.err (name ++ ": " ++ text ++ "\n")], 2⟩
  let keys ← (r.given.filter (·.1 == "k")).mapM fun (_, k) =>
    (readSortKey k).mapError fun e => (⟨[.err (name ++ ": " ++ e ++ "\n")], 2⟩ : Outcome)
  let tab ← match r.last? "t" with
    | none => pure none
    | some t =>
      match utf8Encode t with
      | [b] => pure (some b)
      | [] => .error (failure "empty tab")
      | _ => .error (failure ("multi-character tab " ++ quoteName t))
  let check := if r.has "c" then some true else if r.has "C" then some false else none
  return ⟨order, keys, tab, r.has "u", r.has "s", check, if r.has "z" then 0 else 10,
    r.has "o", r.operands⟩

/-- The operands `sort` reads, `-` for the input; none when its arguments are wrong. -/
def sortOperands (args : List String) : List String :=
  match readProgramOptions sortOptions args with
  | .ok r => if r.operands.isEmpty then ["-"] else r.operands
  | .error _ => []

/-- Run `sort`. -/
def runSort (name : String) (args : List String)
    (source : String → Except IoError (List UInt8)) : Outcome :=
  match readSortRequest name args with
  | .error o => o
  | .ok r =>
    let operands := if r.operands.isEmpty then ["-"] else r.operands
    let read := (readInOrder false source operands).foldl
      (fun (acc : Except Outcome (List (List UInt8))) (o, got) =>
      acc.bind fun lines =>
        match got with
        | .ok bs => .ok (lines ++ (splitAfter r.separator bs).map fun l =>
            if l.getLast? = some r.separator then l.dropLast else l)
        | .error .isADirectory =>
          .error ⟨[.err (name ++ ": read failed: " ++ quoteNameIfNeeded o ++
            ": Is a directory\n")], 2⟩
        | .error e =>
          .error ⟨[.err (name ++ ": cannot read: " ++ quoteNameIfNeeded o ++ ": " ++ e.reason ++
            "\n")], 2⟩) (.ok [])
    match read with
    | .error o => o
    | .ok lines =>
      let lastResort := !(r.stable || r.unique)
      match r.check with
      | some loud =>
        if operands.length > 1 then
          usageError name ("extra operand " ++ quoteName (operands.getD 1 "")) 2
        else
          let pairs := lines.zip (lines.drop 1)
          let wrong := pairs.zipIdx.find? fun ((a, b), _) =>
            let c := r.compare lastResort a b
            c = .gt || (r.unique && c = .eq)
          match wrong with
          | none => ⟨[], 0⟩
          | some ((_, b), i) =>
            if loud then
              ⟨[.err (name ++ ": " ++ operands.headD "-" ++ ":" ++ toString (i + 2) ++
                ": disorder: " ++ utf8DecodeLossy b ++ "\n")], 1⟩
            else ⟨[], 1⟩
      | none =>
        let sorted := lines.mergeSort fun a b => r.compare lastResort a b != .gt
        let kept := if r.unique then
            (sorted.foldl (fun (acc : List (List UInt8)) l =>
              match acc with
              | prev :: _ => if r.compare false prev l = .eq then acc else l :: acc
              | [] => [l]) []).reverse
          else sorted
        let out := kept.flatMap (· ++ [r.separator])
        if r.toFile then ⟨[], 0⟩ else ⟨[.out out], 0⟩

/-! ## `uniq` -/

/-- What `uniq` was asked: which runs to write, counts, case, and what to skip. -/
structure UniqRequest where
  counts : Bool
  repeated : Bool
  single : Bool
  fold : Bool
  skipFields : Nat
  skipBytes : Nat
  width : Option Nat
  separator : UInt8
  operands : List String

/-- The options of `uniq`. -/
def uniqOptions : List ProgramOption :=
  [⟨some 'c', some "count", .nothing, "c"⟩, ⟨some 'd', some "repeated", .nothing, "d"⟩,
    ⟨some 'u', some "unique", .nothing, "u"⟩, ⟨some 'i', some "ignore-case", .nothing, "i"⟩,
    ⟨some 'f', some "skip-fields", .argument, "f"⟩, ⟨some 's', some "skip-chars", .argument, "s"⟩,
    ⟨some 'w', some "check-chars", .argument, "w"⟩,
    ⟨some 'z', some "zero-terminated", .nothing, "z"⟩]

/-- The part of a line `uniq` compares. -/
def UniqRequest.part (r : UniqRequest) (line : List UInt8) : List UInt8 :=
  let rest := dropFields none false r.skipFields line
  let rest := rest.drop r.skipBytes
  let rest := match r.width with
    | some w => rest.take w
    | none => rest
  if r.fold then rest.map upperByte else rest

/-- Read the arguments of `uniq`. -/
def readUniqRequest (name : String) (args : List String) : Except Outcome UniqRequest := do
  let r ← (readProgramOptions uniqOptions args).mapError (usageError name · 1)
  let number (key what : String) : Except Outcome (Option Nat) :=
    match r.last? key with
    | none => pure none
    | some v =>
      let wrong : Outcome := ⟨[.err (name ++ ": " ++ v ++ ": invalid number of " ++ what ++
        "\n")], 1⟩
      match readSizeCount v with
      | .ok n => if v.toList.all Char.isDigit then pure (some n) else .error wrong
      | _ => .error wrong
  let fields ← number "f" "fields to skip"
  let bytes ← number "s" "bytes to skip"
  let width ← number "w" "bytes to compare"
  match r.operands with
  | _ :: _ :: extra :: _ => .error (usageError name ("extra operand " ++ quoteName extra) 1)
  | _ =>
    return ⟨r.has "c", r.has "d", r.has "u", r.has "i", fields.getD 0, bytes.getD 0, width,
      if r.has "z" then 0 else 10, r.operands⟩

/-- The operands `uniq` reads: its input. -/
def uniqOperands (args : List String) : List String :=
  match readProgramOptions uniqOptions args with
  | .ok r => [r.operands.headD "-"]
  | .error _ => []

/-- The runs of equal adjacent lines: each first line and the length of its run. -/
def UniqRequest.runs (r : UniqRequest) (lines : List (List UInt8)) : List (List UInt8 × Nat) :=
  (lines.foldl (fun (acc : List (List UInt8 × Nat)) l =>
    match acc with
    | (first, n) :: rest => if r.part first = r.part l then (first, n + 1) :: rest
      else (l, 1) :: acc
    | [] => [(l, 1)]) []).reverse

/-- Run `uniq`. -/
def runUniq (name : String) (args : List String)
    (source : String → Except IoError (List UInt8)) : Outcome :=
  match readUniqRequest name args with
  | .error o => o
  | .ok r =>
    let input := r.operands.headD "-"
    match source input with
    | .error .isADirectory =>
      ⟨[.err (name ++ ": error reading " ++ quoteName input ++ ": Is a directory\n")], 1⟩
    | .error e => ⟨[.err (name ++ ": " ++ quoteNameIfNeeded input ++ ": " ++ e.reason ++ "\n")], 1⟩
    | .ok bs =>
      let lines := (splitAfter r.separator bs).map fun l =>
        if l.getLast? = some r.separator then l.dropLast else l
      let kept := (r.runs lines).filter fun (_, n) =>
        (!r.repeated || n > 1) && (!r.single || n = 1)
      let out := kept.flatMap fun (l, n) =>
        (if r.counts then
          let s := toString n
          utf8Encode (String.ofList (List.replicate (7 - s.length) ' ') ++ s ++ " ")
        else []) ++ l ++ [r.separator]
      ⟨[.out out], 0⟩

end AgentLink
