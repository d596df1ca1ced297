import AgentLink.Utility.Integer
import AgentLink.Utility.Echo
import AgentLink.Utility.Floating

/-!
# Formatting with `printf`

`printf FORMAT ARGS` writes the format with each conversion replaced by the next argument. In
the format a backslash starts an escape: `\\`, `\a`, `\b`, `\f`, `\n`, `\r`, `\t`, `\v`, or one to
three octal digits for a byte; before anything else the backslash is itself. `%%` is a percent
sign. A conversion is `%`, flags among `#-+ 0`, a width, a precision after `.`, and a letter:
`s` (text), `b` (text with the escapes of the shell's `echo`, where `\c` ends all output), `c`
(the first byte), `d` and `i` (signed decimal), `u`, `o`, `x` and `X` (unsigned decimal, octal
and hexadecimal), and `f`, `e`, `g`, `a` and their capitals (floating point, as C writes a
binary64). A width or precision written `*` is taken from the arguments.

A missing or empty argument is empty text or zero. A numeric argument is read as in C, an
integer with the base chosen by the text; one that starts with a quote stands for the code of
the byte after it. An argument that is not entirely a number is reported, and the status
becomes 1. The format is
used again from its start while arguments remain and the last pass used some.

Any other conversion letter, or a format that ends inside a conversion, is an error with
status 2 after what was written so far.
-/

namespace AgentLink

/-- What `printf` wrote, the complaints it made (each without the command's name), its status,
and whether an error stopped it. -/
structure Printed where
  bytes : List UInt8
  complaints : List String
  status : Nat

/-- The arguments not yet used and what has been reported about them. -/
structure PrintfArgs where
  rest : List String
  complaints : List String
  status : Nat
  /-- Whether any argument was used in this pass of the format. -/
  used : Bool

namespace PrintfArgs

/-- The next argument as text; empty when there is none. -/
def text (a : PrintfArgs) : String × PrintfArgs :=
  match a.rest with
  | s :: rest => (s, { a with rest, used := true })
  | [] => ("", a)

/-- The next argument as an integer, with `unsigned` wrapping a negative value as C does. -/
def integer (a : PrintfArgs) (unsigned : Bool) : Int × PrintfArgs :=
  match a.rest with
  | [] => (0, a)
  | "" :: rest => (0, { a with rest, used := true })
  | s :: rest =>
    let a := { a with rest, used := true }
    match s.toList with
    | q :: c :: _ =>
      if q = '"' || q = '\'' then ((utf8Encode c.toString).headD 0 |>.toNat, a)
      else convert s a
    | [q] => if q = '"' || q = '\'' then (0, a) else convert s a
    | [] => convert s a
where
  convert (s : String) (a : PrintfArgs) : Int × PrintfArgs :=
    let r := readInteger s true
    let v := if unsigned && r.value < 0 then r.value + 18446744073709551616 else r.value
    let complain (text : String) : PrintfArgs :=
      { a with complaints := a.complaints ++ [s ++ ": " ++ text], status := 1 }
    if !r.digits then (0, complain "expected numeric value")
    else if !r.rest.isEmpty then (v, complain "not completely converted")
    else if r.overflow then (v, complain "Numerical result out of range")
    else (v, a)

/-- The next argument as a binary64, read as `strtod` reads it. -/
def float (a : PrintfArgs) : Binary64 × PrintfArgs :=
  match a.rest with
  | [] => (Binary64.zero false, a)
  | "" :: rest => (Binary64.zero false, { a with rest, used := true })
  | s :: rest =>
    let a := { a with rest, used := true }
    let complain (text : String) : PrintfArgs :=
      { a with complaints := a.complaints ++ [s ++ ": " ++ text], status := 1 }
    match s.toList with
    | q :: c :: _ =>
      if q = '"' || q = '\'' then (Binary64.ofNat ((utf8Encode c.toString).headD 0).toNat, a)
      else convert s complain a
    | [q] => if q = '"' || q = '\'' then (Binary64.zero false, a) else convert s complain a
    | [] => convert s complain a
where
  convert (s : String) (complain : String → PrintfArgs) (a : PrintfArgs) :
      Binary64 × PrintfArgs :=
    let r := readFloat s
    if !r.digits then (r.value, complain "expected numeric value")
    else if !r.rest.isEmpty then (r.value, complain "not completely converted")
    else if r.outOfRange then (r.value, complain "Numerical result out of range")
    else (r.value, a)

end PrintfArgs

/-- A conversion's flags, width and precision. -/
structure Conversion where
  flags : List Char
  width : Nat
  precision : Option Nat

/-- Pad `body` to the width: on the right with `-`, else on the left with blanks. -/
def Conversion.pad (c : Conversion) (body : List UInt8) : List UInt8 :=
  let fill := List.replicate (c.width - body.length) (32 : UInt8)
  if c.flags.contains '-' then body ++ fill else fill ++ body

/-- The digits of `n` in `base`, lower or upper case. -/
def digitsIn (base : Nat) (upper : Bool) (n : Nat) : List Char :=
  (Nat.toDigits base n).map fun d => if upper then d.toUpper else d

/-- An integer as a conversion writes it: `sign` and `prefix` before the digits, which are at
least `precision` long, zeros or blanks filling the width. -/
def Conversion.number (c : Conversion) (sign pre : String) (digits : List Char) : List UInt8 :=
  let digits := match c.precision with
    | some 0 => if digits = ['0'] then [] else digits
    | some p => List.replicate (p - digits.length) '0' ++ digits
    | none => digits
  let body := sign.toList ++ pre.toList ++ digits
  let zeroFill := c.flags.contains '0' && !c.flags.contains '-' && c.precision.isNone
  if zeroFill then
    let zeros := List.replicate (c.width - body.length) '0'
    utf8Encode (String.ofList (sign.toList ++ pre.toList ++ zeros ++ digits))
  else c.pad (utf8Encode (String.ofList body))

/-- A binary64 as the conversion with letter `letter` writes it: the sign, then infinity and
NaN as words, padded with blanks, or the digits, which zeros may pad after the sign. -/
def Conversion.floating (c : Conversion) (letter : Char) (x : Binary64) : List UInt8 :=
  let upper := letter.isUpper
  let sign := if x.negative then "-" else if c.flags.contains '+' then "+"
    else if c.flags.contains ' ' then " " else ""
  let point := c.flags.contains '#'
  if !x.isFinite then
    let word := if x.fraction = 0 then "inf" else "nan"
    c.pad (utf8Encode (sign ++ (if upper then word.toUpper else word)))
  else
    let (num, den) := x.magnitude
    let digits := match letter.toLower with
      | 'f' => fixedText num den (c.precision.getD 6) point
      | 'e' => scientificText num den (c.precision.getD 6) point upper
      | 'g' => generalText num den (c.precision.getD 6) point upper
      | _ => hexFloatText x c.precision point upper
    let body := sign ++ digits
    if c.flags.contains '0' && !c.flags.contains '-' then
      let zeros := String.ofList (List.replicate (c.width - body.length) '0')
      let pre := if letter.toLower = 'a' then (if upper then "0X" else "0x") else ""
      let rest := (digits.drop pre.length).toString
      utf8Encode (sign ++ pre ++ zeros ++ rest)
    else c.pad (utf8Encode body)

/-- Write one conversion with letter `letter`: the bytes, the arguments left, and whether `\c`
in a `%b` argument ended the output. -/
def convert (c : Conversion) (letter : Char) (a : PrintfArgs) :
    Option (List UInt8 × PrintfArgs × Bool) :=
  match letter with
  | 's' =>
    let (s, a) := a.text
    let bytes := utf8Encode s
    let bytes := match c.precision with
      | some p => bytes.take p
      | none => bytes
    some (c.pad bytes, a, false)
  | 'b' =>
    let (s, a) := a.text
    let (bytes, stop) := shellEscapes (utf8Encode s)
    let bytes := match c.precision with
      | some p => bytes.take p
      | none => bytes
    some (c.pad bytes, a, stop)
  | 'c' =>
    match a.rest with
    | s :: rest =>
      some (c.pad (((utf8Encode s).take 1).headD 0 :: []), { a with rest, used := true }, false)
    | [] => some (c.pad [0], a, false)
  | 'd' | 'i' =>
    let (v, a) := a.integer false
    let sign := if v < 0 then "-" else if c.flags.contains '+' then "+"
      else if c.flags.contains ' ' then " " else ""
    some (c.number sign "" (digitsIn 10 false v.natAbs), a, false)
  | 'u' =>
    let (v, a) := a.integer true
    some (c.number "" "" (digitsIn 10 false v.toNat), a, false)
  | 'o' =>
    let (v, a) := a.integer true
    let ds := digitsIn 8 false v.toNat
    let ds := if c.flags.contains '#' && ds.headD '0' != '0' then '0' :: ds else ds
    some (c.number "" "" ds, a, false)
  | 'x' | 'X' =>
    let (v, a) := a.integer true
    let upper := letter = 'X'
    let pre := if c.flags.contains '#' && v != 0 then (if upper then "0X" else "0x") else ""
    some (c.number "" pre (digitsIn 16 upper v.toNat), a, false)
  | 'f' | 'F' | 'e' | 'E' | 'g' | 'G' | 'a' | 'A' =>
    let (x, a) := a.float
    some (c.floating letter x, a, false)
  | _ => none

/-- Read a run of decimal digits as a number, and the rest. -/
def readCount (cs : List Char) : Option Nat × List Char :=
  let ds := cs.takeWhile Char.isDigit
  (if ds.isEmpty then none else some (ds.foldl (fun n d => 10 * n + (d.toNat - 48)) 0),
    cs.dropWhile Char.isDigit)

/-- The outcome of one pass over the format. -/
inductive Pass where
  /-- The pass ended; go on while arguments remain. -/
  | done (out : List UInt8) (a : PrintfArgs)
  /-- `\c` ended all output. -/
  | stopped (out : List UInt8) (a : PrintfArgs)
  /-- An error ended the command. -/
  | failed (out : List UInt8) (a : PrintfArgs) (message : String)

/-- One pass over the format bytes, onto `out` (reversed). -/
def formatPass : Nat → List Char → PrintfArgs → List UInt8 → Pass
  | 0, _, a, out => .done out.reverse a
  | _, [], a, out => .done out.reverse a
  | fuel + 1, ch :: rest, a, out =>
    match ch, rest with
    | '\\', more =>
      match more with
      | [] => formatPass fuel [] a (92 :: out)
      | e :: after =>
        if '0' ≤ e && e ≤ '7' then
          let (v, tail) := octalPrefix 3 (utf8Encode (String.ofList (e :: after))) 0
          let after := match utf8Decode tail with
            | some t => t.toList
            | none => []
          formatPass fuel after a (UInt8.ofNat v :: out)
        else match simpleEscape (UInt8.ofNat e.toNat) with
          | some b => if e.toNat < 128 then formatPass fuel after a (b :: out)
              else formatPass fuel more a (92 :: out)
          | none => formatPass fuel more a (92 :: out)
    | '%', '%' :: after => formatPass fuel after a (37 :: out)
    | '%', spec =>
      let flags := spec.takeWhile fun c => c = '#' || c = '-' || c = '+' || c = ' ' || c = '0'
      let spec := spec.dropWhile fun c => c = '#' || c = '-' || c = '+' || c = ' ' || c = '0'
      let (width, spec, a) := match spec with
        | '*' :: more => let (v, a) := a.integer false; (v.toNat, more, a)
        | _ => let (w, more) := readCount spec; (w.getD 0, more, a)
      let (precision, spec, a) := match spec with
        | '.' :: '*' :: more =>
          let (v, a) := a.integer false
          (if v < 0 then none else some v.toNat, more, a)
        | '.' :: more => let (p, more) := readCount more; (some (p.getD 0), more, a)
        | _ => (none, spec, a)
      match spec with
      | [] => .failed (out.reverse) a "missing format character"
      | letter :: after =>
        match convert ⟨flags, width, precision⟩ letter a with
        | some (bytes, a, stop) =>
          if stop then .stopped ((out.reverse) ++ bytes) a
          else formatPass fuel after a (bytes.reverse ++ out)
        | none =>
          let text := String.ofList ('%' :: (rest.take (rest.length - after.length)))
          .failed (out.reverse) a (text ++ ": invalid directive")
    | _, _ => formatPass fuel rest a ((utf8Encode ch.toString).reverse ++ out)

/-- Format the arguments, passing over the format again while arguments remain. -/
def printfFor : Nat → List Char → PrintfArgs → List UInt8 → Printed
  | 0, _, a, out => ⟨out, a.complaints, a.status⟩
  | fuel + 1, fmt, a, out =>
    match formatPass (fmt.length + 1) fmt { a with used := false } [] with
    | .done bytes a =>
      if a.used && !a.rest.isEmpty then printfFor fuel fmt a (out ++ bytes)
      else ⟨out ++ bytes, a.complaints, a.status⟩
    | .stopped bytes a => ⟨out ++ bytes, a.complaints, a.status⟩
    | .failed bytes a message => ⟨out ++ bytes, a.complaints ++ [message], 2⟩

/-- What `printf` writes for a format and its arguments. -/
def printf (format : String) (args : List String) : Printed :=
  printfFor (args.length + 1) format.toList ⟨args, [], 0, false⟩ []

example : (printf "%s-%d\\n" ["a", "7", "b"]).bytes = utf8Encode "a-7\nb-0\n" := by cbv
example : (printf "%05.1s|%-3x|" ["xyz", "255"]).bytes = utf8Encode "    x|ff |" := by cbv

end AgentLink
