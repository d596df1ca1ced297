import AgentLink.Utility.Outcome
import AgentLink.Utility.Printf

/-!
# Sequences of numbers

`seq LAST`, `seq FIRST LAST` and `seq FIRST INCREMENT LAST` write the numbers from `FIRST` (one
by default) by steps of `INCREMENT` (one by default) as long as they do not pass `LAST`, one a
line, or joined by `-s`'s separator. A number is decimal with an optional fraction and
exponent; the numbers are written with as many fraction digits as `FIRST` and `INCREMENT` have
(an exponent moving the point), and `-w` pads them with zeros to one width. `-f` writes each
through a `printf` format with one floating-point directive.

Options come before the numbers, and a word that starts with `-` and a digit or a point is a
negative number, not an option.
-/

namespace AgentLink

/-- A decimal number: its digits as an integer and how many of them follow the point. -/
structure ScaledDecimal where
  mantissa : Int
  scale : Nat

/-- The same number with `k` more digits after the point. -/
def ScaledDecimal.widen (d : ScaledDecimal) (k : Nat) : ScaledDecimal :=
  ⟨d.mantissa * (Nat.pow 10 k : Nat), d.scale + k⟩

/-- Two numbers brought to the same scale. -/
def ScaledDecimal.align (a b : ScaledDecimal) : ScaledDecimal × ScaledDecimal :=
  (a.widen (b.scale - a.scale), b.widen (a.scale - b.scale))

/-- The number written with `prec` digits after the point, rounding half to even. -/
def ScaledDecimal.fixed (d : ScaledDecimal) (prec : Nat) : String :=
  let m := if prec ≥ d.scale then d.mantissa * (Nat.pow 10 (prec - d.scale) : Nat)
    else
      let den : Nat := Nat.pow 10 (d.scale - prec)
      let n := d.mantissa.natAbs
      let r := Binary64.roundHalfEven (n / den) (n % den) den
      if d.mantissa < 0 then -(r : Int) else r
  let digits := toString m.natAbs
  let digits := String.ofList (List.replicate (prec + 1 - digits.length) '0') ++ digits
  let whole := (digits.dropEnd prec).toString
  let frac := (digits.takeEnd prec).toString
  (if m < 0 then "-" else "") ++ whole ++ (if prec > 0 then "." ++ frac else "")

/-- A number as `seq` reads it, and how many fraction digits it asks for. -/
def readSeqNumber (s : String) : Option (ScaledDecimal × Nat) :=
  let cs := s.toList.dropWhile isCSpace
  let (neg, cs) := match cs with
    | '-' :: more => (true, more)
    | '+' :: more => (false, more)
    | _ => (false, cs)
  let whole := cs.takeWhile Char.isDigit
  let rest := cs.drop whole.length
  let (frac, rest) := match rest with
    | '.' :: more => (more.takeWhile Char.isDigit, more.dropWhile Char.isDigit)
    | _ => ([], rest)
  if whole.isEmpty && frac.isEmpty then none
  else
    let exp : Option Int := match rest with
      | [] => some 0
      | e :: more =>
        if e = 'e' || e = 'E' then
          let (eneg, ds) := match more with
            | '-' :: ds => (true, ds)
            | '+' :: ds => (false, ds)
            | ds => (false, ds)
          if ds.isEmpty || !ds.all Char.isDigit then none
          else
            let v : Int := ds.foldl (fun n c => 10 * n + (c.toNat - 48)) 0
            some (if eneg then -v else v)
        else none
    exp.map fun e =>
      let m : Int := (whole ++ frac).foldl (fun n c => 10 * n + (c.toNat - 48)) 0
      let m := if neg then -m else m
      let scaled : Int := frac.length - e
      let d : ScaledDecimal := if scaled ≥ 0 then ⟨m, scaled.toNat⟩
        else ⟨m * (Nat.pow 10 (-scaled).toNat : Nat), 0⟩
      let prec := if e < 0 then frac.length + e.natAbs else frac.length - min frac.length e.toNat
      (d, prec)

/-- Whether a word is a negative number rather than an option. -/
def isNegativeNumber (w : String) : Bool :=
  match w.toList with
  | '-' :: c :: _ => c.isDigit || c = '.'
  | _ => false

/-- The options of `seq`. -/
def seqOptions : List ProgramOption :=
  [⟨some 'f', some "format", .argument, "f"⟩, ⟨some 's', some "separator", .argument, "s"⟩,
    ⟨some 'w', some "equal-width", .nothing, "w"⟩]

/-- Read the options of `seq`, which stop at the first number: the options and the numbers;
or the usage error. -/
def readSeqOptions (name : String) :
    Nat → List (String × String) → List String →
      Except Outcome (List (String × String) × List String)
  | 0, given, words => .ok (given, words)
  | _, given, [] => .ok (given, [])
  | fuel + 1, given, a :: rest =>
    if a = "--" then .ok (given, rest)
    else if !a.startsWith "-" || a = "-" || isNegativeNumber a then .ok (given, a :: rest)
    else
      match readOptionWord seqOptions a rest with
      | .error e => .error (usageError name e 1)
      | .ok (more, rest') => readSeqOptions name fuel (given ++ more) rest'

/-- The directive of a `seq` format: the format is fine, or what is wrong with it. -/
def checkSeqFormat (fmt : String) : Option String :=
  let cs := fmt.toList
  let rec directives : Nat → List Char → List Char
    | 0, _ => []
    | _, [] => []
    | fuel + 1, '%' :: '%' :: more => directives fuel more
    | fuel + 1, '%' :: more =>
      let body := more.dropWhile fun c => "-+ #0'".contains c || c.isDigit || c = '.'
      match body with
      | c :: rest => c :: directives fuel rest
      | [] => ['%']
    | fuel + 1, _ :: more => directives fuel more
  match directives (cs.length + 1) cs with
  | [] => some ("format " ++ quoteName fmt ++ " has no % directive")
  | [c] =>
    if "aAeEfFgG".contains c then none
    else if c = '%' then some ("format " ++ quoteName fmt ++ " ends in %")
    else some ("format " ++ quoteName fmt ++ " has unknown %" ++ c.toString ++ " directive")
  | _ => some ("format " ++ quoteName fmt ++ " has too many % directives")

/-- Run `seq`. -/
def runNumberSequence (name : String) (args : List String) : Outcome :=
  match readSeqOptions name (args.length + 1) [] args with
  | .error o => o
  | .ok (given, operands) =>
    let last? (key : String) : Option String :=
      (given.filter (·.1 == key)).getLast?.map (·.2)
    let format := last? "f"
    let separator := (last? "s").getD "\n"
    let equalWidth := given.any (·.1 == "w")
    let invalid (w : String) : Outcome :=
      usageError name ("invalid floating point argument: " ++ quoteName w) 1
    match operands with
    | [] => usageError name "missing operand" 1
    | _ :: _ :: _ :: extra :: _ => usageError name ("extra operand " ++ quoteName extra) 1
    | _ =>
      let read := operands.map fun w => (w, readSeqNumber w)
      match read.find? (·.2.isNone) with
      | some (w, _) => invalid w
      | none =>
        let values := read.filterMap (·.2)
        let one : ScaledDecimal × Nat := (⟨1, 0⟩, 0)
        let (first, step, last) := match values with
          | [l] => (one, one, l)
          | [f, l] => (f, one, l)
          | [f, s, l] => (f, s, l)
          | _ => (one, one, one)
        if step.1.mantissa = 0 then
          usageError name ("invalid Zero increment value: " ++ quoteName (operands.getD 1 "")) 1
        else if equalWidth && format.isSome then
          usageError name
            "format string may not be specified when printing equal width strings" 1
        else
          match format.bind checkSeqFormat with
          | some problem => ⟨[.err (name ++ ": " ++ problem ++ "\n")], 1⟩
          | none =>
            let prec := max first.2 step.2
            let (f0, s0) := first.1.align step.1
            let (f0, l0) := f0.align last.1
            let (s0, _) := s0.align l0
            let up := s0.mantissa > 0
            let count : Nat :=
              if up then
                if l0.mantissa < f0.mantissa then 0
                else ((l0.mantissa - f0.mantissa) / s0.mantissa).toNat + 1
              else
                if l0.mantissa > f0.mantissa then 0
                else ((f0.mantissa - l0.mantissa) / (-s0.mantissa)).toNat + 1
            let count := min count 10000000
            let numbers := (List.range count).map fun (i : Nat) =>
              (⟨f0.mantissa + (i : Int) * s0.mantissa, f0.scale⟩ : ScaledDecimal)
            let texts := numbers.map fun d => d.fixed prec
            let width := max ((first.1.fixed prec).length) ((last.1.fixed prec).length)
            let pad (t : String) : String :=
              if t.length ≥ width then t
              else if t.startsWith "-" then
                "-" ++ String.ofList (List.replicate (width - t.length) '0') ++ (t.drop 1).toString
              else String.ofList (List.replicate (width - t.length) '0') ++ t
            let texts := if equalWidth then texts.map pad else texts
            let out := match format with
              | some fmt => texts.map fun t => utf8DecodeLossy (printf fmt [t]).bytes
              | none => texts
            if out.isEmpty then ⟨[], 0⟩
            else ⟨[.out (utf8Encode (separator.intercalate out ++ "\n"))], 0⟩

end AgentLink
