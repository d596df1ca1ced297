import AgentLink.Utility.Outcome
import AgentLink.Text.CharClass

/-!
# Translating and deleting bytes

`tr SET1 SET2` copies its input to its output with each byte of the first set replaced by
the byte at the same place in the second, which is lengthened by repeating its last byte (or,
with `-t`, the first set is cut to its length). `-d` deletes the bytes of the first set
instead, `-s` squeezes each run of a byte of the last set given into one, and `-c` takes the
bytes outside the first set, in ascending order.

A set is written with escapes (`\n`, `\t`, `\\`, up to three octal digits, ...), ranges
`a-z`, the classes `[:alpha:]` and the like (of the C locale), `[=c=]` for `c`, and, in the
second set only, `[c*n]` for `n` copies of `c` (octal when `n` starts with `0`; none or zero
fills the set to the first set's length). In the second set of a translation the only classes
are `[:upper:]` and `[:lower:]`, each at the place of the other in the first set.
-/

namespace AgentLink

/-- A part of a set as written. -/
inductive SetPart where
  | byte (b : UInt8)
  | range (lo hi : UInt8)
  | cls (name : String)
  | equiv (b : UInt8)
  /-- `[c*n]`; no count fills the set. -/
  | repeated (b : UInt8) (count : Option Nat)
  deriving DecidableEq

/-- The value of an octal digit byte. -/
def octalValue (b : UInt8) : Option Nat := if 48 ≤ b && b ≤ 55 then some (b.toNat - 48) else none

/-- The bytes of a set with escapes read, each marked when it was escaped; the warnings. -/
def unescapeSet : Nat → List UInt8 → List (UInt8 × Bool) × List String
  | 0, _ => ([], [])
  | _, [] => ([], [])
  | fuel + 1, 92 :: rest =>
    match rest with
    | [] => ([(92, true)], ["an unescaped backslash at end of string is not portable"])
    | c :: more =>
      match octalValue c with
      | some d1 =>
        let (v, more) := match more with
          | c2 :: m2 =>
            match octalValue c2 with
            | some d2 =>
              match m2 with
              | c3 :: m3 =>
                match octalValue c3 with
                | some d3 =>
                  if 64 * d1 + 8 * d2 + d3 ≤ 255 then (64 * d1 + 8 * d2 + d3, m3)
                  else (8 * d1 + d2, m2)
                | none => (8 * d1 + d2, m2)
              | [] => (8 * d1 + d2, m2)
            | none => (d1, more)
          | [] => (d1, more)
        let (r, w) := unescapeSet fuel more
        ((v.toUInt8, true) :: r, w)
      | none =>
        let v : UInt8 := match c with
          | 97 => 7 | 98 => 8 | 102 => 12 | 110 => 10 | 114 => 13 | 116 => 9 | 118 => 11
          | _ => c
        let (r, w) := unescapeSet fuel more
        ((v, true) :: r, w)
  | fuel + 1, c :: rest =>
    let (r, w) := unescapeSet fuel rest
    ((c, false) :: r, w)

/-- A byte as `tr` shows it in a diagnostic: printable as itself, else as an octal escape. -/
def showSetByte (b : UInt8) : String :=
  if 32 ≤ b && b < 127 then (Char.ofNat b.toNat).toString
  else
    let ds := Nat.toDigits 8 b.toNat
    "\\" ++ String.ofList (List.replicate (3 - ds.length) '0' ++ ds)

/-- The bytes of a marked list up to the first unescaped `close` pair, and the rest after it. -/
def markedUntil (a b : UInt8) : List (UInt8 × Bool) → Option (List UInt8 × List (UInt8 × Bool))
  | [] => none
  | (x, false) :: (y, false) :: rest =>
    if x = a && y = b then some ([], rest)
    else (markedUntil a b ((y, false) :: rest)).map fun (body, r) => (x :: body, r)
  | (x, _) :: rest => (markedUntil a b rest).map fun (body, r) => (x :: body, r)

/-- Read a repeat count: octal after a leading zero, else decimal. -/
def readRepeatCount (ds : List UInt8) : Option Nat :=
  if ds.isEmpty then some 0
  else if ds.head? = some 48 then
    ds.foldl (fun acc d => acc.bind fun n => (octalValue d).map (8 * n + ·)) (some 0)
  else if ds.all (fun d => 48 ≤ d && d ≤ 57) then
    some (ds.foldl (fun n d => 10 * n + (d.toNat - 48)) 0)
  else none

/-- Read the parts of a set from its marked bytes, or the text of what is wrong. -/
def readSetParts : Nat → List (UInt8 × Bool) → Except String (List SetPart)
  | 0, _ => .ok []
  | _, [] => .ok []
  | fuel + 1, (91, false) :: (58, false) :: rest =>
    match markedUntil 58 93 rest with
    | some (body, after) =>
      let name := String.ofList (body.map fun b => Char.ofNat b.toNat)
      if classNames.contains name then
        (readSetParts fuel after).map (.cls name :: ·)
      else .error ("invalid character class " ++ quoteName name)
    | none => (readSetParts fuel ((58, false) :: rest)).map (.byte 91 :: ·)
  | fuel + 1, (91, false) :: (61, false) :: (c, _) :: (61, false) :: (93, false) :: rest =>
    (readSetParts fuel rest).map (.equiv c :: ·)
  | fuel + 1, (91, false) :: (c, _) :: (42, false) :: rest =>
    let digits := rest.takeWhile fun (b, e) => !e && b ≠ 93
    match rest.drop digits.length with
    | (93, false) :: after =>
      match readRepeatCount (digits.map (·.1)) with
      | some n =>
        (readSetParts fuel after).map (.repeated c (if n = 0 then none else some n) :: ·)
      | none => .error ("invalid repeat count " ++
          quoteName (String.ofList (digits.map fun (b, _) => Char.ofNat b.toNat)) ++
          " in [c*n] construct")
    | _ => (readSetParts fuel ((c, false) :: (42, false) :: rest)).map (.byte 91 :: ·)
  | fuel + 1, (lo, _) :: (45, false) :: (hi, _) :: rest =>
    if hi < lo then
      .error ("range-endpoints of '" ++ showSetByte lo ++ "-" ++ showSetByte hi ++
        "' are in reverse collating sequence order")
    else (readSetParts fuel rest).map (.range lo hi :: ·)
  | fuel + 1, (c, _) :: rest => (readSetParts fuel rest).map (.byte c :: ·)

/-- The bytes a set stands for, a fill repeat spread to reach `target` bytes. -/
def expandSet (target : Nat) (parts : List SetPart) : List UInt8 :=
  let fixedLength := (parts.map fun
    | .byte _ | .equiv _ => 1
    | .range lo hi => hi.toNat - lo.toNat + 1
    | .cls n => (classBytes n).length
    | .repeated _ (some n) => n
    | .repeated _ none => 0).foldl Nat.add 0
  parts.flatMap fun
    | .byte b | .equiv b => [b]
    | .range lo hi => (List.range (hi.toNat - lo.toNat + 1)).map fun i => (lo.toNat + i).toUInt8
    | .cls n => classBytes n
    | .repeated b (some n) => List.replicate n b
    | .repeated b none => List.replicate (target - fixedLength) b

/-- The places where the classes `[:upper:]` and `[:lower:]` start in the bytes of a set. -/
def caseClassPlaces (parts : List SetPart) : List (Nat × String) :=
  let (_, found) := parts.foldl (fun (offset, found) p =>
    let found := match p with
      | .cls n => if n = "upper" || n = "lower" then found ++ [(offset, n)] else found
      | _ => found
    (offset + (expandSet 0 [p]).length, found)) (0, [])
  found

/-- What `tr` was asked: complement, delete, squeeze, truncate, and its sets. -/
structure TrRequest where
  complement : Bool
  delete : Bool
  squeeze : Bool
  truncate : Bool
  sets : List String

/-- The options of `tr`. -/
def trOptions : List ProgramOption :=
  [⟨some 'c', some "complement", .nothing, "c"⟩, ⟨some 'C', none, .nothing, "c"⟩,
    ⟨some 'd', some "delete", .nothing, "d"⟩, ⟨some 's', some "squeeze-repeats", .nothing, "s"⟩,
    ⟨some 't', some "truncate-set1", .nothing, "t"⟩]

/-- Squeeze the runs of bytes of a set into one byte each. -/
def squeezeRuns (set : List UInt8) (bs : List UInt8) : List UInt8 :=
  (bs.foldl (fun (acc : List UInt8) b =>
    match acc with
    | prev :: _ => if prev = b && set.contains b then acc else b :: acc
    | [] => [b]) []).reverse

/-- Run `tr` on its input. -/
def runTranslate (name : String) (args : List String) (input : List UInt8) : Outcome :=
  let fail (text : String) : Outcome := ⟨[.err (name ++ ": " ++ text ++ "\n")], 1⟩
  match readProgramOptions trOptions args with
  | .error e => usageError name e 1
  | .ok r =>
    let req : TrRequest := ⟨r.has "c", r.has "d", r.has "s", r.has "t", r.operands⟩
    let onlyOne := req.delete && !req.squeeze
    match req.sets with
    | [] => usageError name "missing operand" 1
    | [s] =>
      if !req.delete && !req.squeeze then
        usageError name ("missing operand after " ++ quoteName s ++
          "\nTwo strings must be given when translating.") 1
      else if req.delete && req.squeeze then
        usageError name ("missing operand after " ++ quoteName s ++
          "\nTwo strings must be given when both deleting and squeezing repeats.") 1
      else translateWith fail req [s]
    | s1 :: s2 :: more =>
      if onlyOne then
        usageError name ("extra operand " ++ quoteName s2 ++
          "\nOnly one string may be given when deleting without squeezing repeats.") 1
      else match more with
        | extra :: _ => usageError name ("extra operand " ++ quoteName extra) 1
        | [] => translateWith fail req [s1, s2]
where
  /-- Carry out a request with its one or two sets. -/
  translateWith (fail : String → Outcome) (req : TrRequest) (sets : List String) : Outcome :=
    let read (s : String) : Except String (List SetPart) × List String :=
      let bytes := utf8Encode s
      let (marked, warnings) := unescapeSet (bytes.length + 1) bytes
      (readSetParts (marked.length + 1) marked, warnings)
    let warn (ws : List String) : List Emit := ws.map fun w => .err (name ++ ": warning: " ++ w ++
      "\n")
    match sets with
    | [] => fail "missing operand"
    | s1 :: rest =>
      let (p1, w1) := read s1
      let (p2, w2) := match rest with
        | s2 :: _ => read s2
        | [] => (.ok [], [])
      let warnings := warn (w1 ++ w2)
      match p1, p2 with
      | .error e, _ => ⟨warnings ++ (fail e).emits, 1⟩
      | _, .error e => ⟨warnings ++ (fail e).emits, 1⟩
      | .ok parts1, .ok parts2 =>
        let translating := !req.delete && rest.length = 1
        let isRepeat (p : SetPart) : Bool := match p with
          | .repeated _ _ => true
          | _ => false
        let badClass := parts2.any fun p => match p with
          | .cls n => n ≠ "upper" && n ≠ "lower"
          | _ => false
        let equivIn2 := parts2.any fun p => match p with
          | .equiv _ => true
          | _ => false
        let fills := parts2.filter fun p => match p with
          | .repeated _ none => true
          | _ => false
        let places2 := caseClassPlaces parts2
        let places1 := caseClassPlaces parts1
        let aligned := places2.all fun (offset, n) =>
          places1.any fun (start, n1) => start = offset && n1 ≠ n
        let set1 := expandSet 0 parts1
        let domain := if req.complement then
            ((List.range 256).map Nat.toUInt8).filter (!set1.contains ·)
          else set1
        let refuse (text : String) : Outcome := ⟨warnings ++ (fail text).emits, 1⟩
        if parts1.any isRepeat then refuse "the [c*] repeat construct may not appear in string1"
        else if translating && equivIn2 then
          refuse "[=c=] expressions may not appear in string2 when translating"
        else if translating && badClass then
          refuse ("when translating, the only character classes that may appear in\n" ++
            "string2 are 'upper' and 'lower'")
        else if fills.length > 1 then
          refuse "only one [c*] repeat construct may appear in string2"
        else if translating && !aligned then
          refuse "misaligned [:upper:] and/or [:lower:] construct"
        else
          let set2 := expandSet domain.length parts2
          if translating && set2.isEmpty && !domain.isEmpty && !req.truncate then
            refuse "when not truncating set1, string2 must be non-empty"
          else
            let out :=
              if translating then
                let domain := if req.truncate then domain.take set2.length else domain
                let last := set2.getLast?.getD 0
                let target := set2 ++ List.replicate (domain.length - set2.length) last
                let pairs := domain.zip target
                let mapped := input.map fun b =>
                  ((pairs.reverse.find? (·.1 == b)).map (·.2)).getD b
                if req.squeeze then squeezeRuns set2 mapped else mapped
              else if req.delete then
                let kept := input.filter (!domain.contains ·)
                if req.squeeze then squeezeRuns set2 kept else kept
              else squeezeRuns domain input
            ⟨warnings ++ [.out out], 0⟩

end AgentLink
