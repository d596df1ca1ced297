import AgentLink.Text.Utf8

/-!
# Echoing arguments

Two `echo`s print their arguments joined by blanks and ended by a line end.

The shell's own (`shellEcho`) takes `-n` as its first argument to drop the line end, and always
reads backslash escapes: `\a`, `\b`, `\f`, `\n`, `\r`, `\t`, `\v` and `\\` stand for their
characters, `\0` followed by up to three octal digits and `\` followed by one to three octal
digits for that byte, and `\c` ends the output at once, line end included. A backslash before
anything else is itself.

The standalone program (`programEcho`) takes leading arguments made only of the letters `n`,
`e` and `E` after a `-` as options: `n` drops the line end, `e` turns escapes on and `E` off
(off at first). Its escapes are those above and `\e` (escape), `\xHH` (one or two hexadecimal
digits), and `\0` with up to three octal digits; `\c` ends the output.

Both work on bytes, as an octal escape may stand for a byte that is not a character.
-/

namespace AgentLink

/-- Whether a byte is an octal digit. -/
def isOctal (b : UInt8) : Bool := 48 ≤ b && b ≤ 55

/-- Up to `n` octal digits at the start of the bytes, as a number, and the rest. -/
def octalPrefix : Nat → List UInt8 → Nat → Nat × List UInt8
  | 0, bs, v => (v, bs)
  | _, [], v => (v, [])
  | n + 1, b :: rest, v =>
    if isOctal b then octalPrefix n rest (v * 8 + (b.toNat - 48)) else (v, b :: rest)

/-- The byte a simple escape letter stands for. -/
def simpleEscape (b : UInt8) : Option UInt8 :=
  match b.toNat with
  | 92 => some 92 -- backslash
  | 97 => some 7 -- a
  | 98 => some 8 -- b
  | 102 => some 12 -- f
  | 110 => some 10 -- n
  | 114 => some 13 -- r
  | 116 => some 9 -- t
  | 118 => some 11 -- v
  | _ => none

/-- Read the escapes of the shell's `echo` and of `%b` in `printf`: the bytes, in reverse onto
`acc`, and whether `\c` stopped the output. Each step reads at least one byte, so the number of
bytes bounds the steps. -/
def shellEscapesFor : Nat → List UInt8 → List UInt8 → List UInt8 × Bool
  | 0, _, acc => (acc.reverse, false)
  | _, [], acc => (acc.reverse, false)
  | fuel + 1, b :: rest, acc =>
    if b != 92 then shellEscapesFor fuel rest (b :: acc)
    else match rest with
      | [] => (((92 : UInt8) :: acc).reverse, false)
      | c :: more =>
        if c = 99 then (acc.reverse, true)
        else if c = 48 then
          let (v, after) := octalPrefix 3 more 0
          shellEscapesFor fuel after (UInt8.ofNat v :: acc)
        else if isOctal c then
          let (v, after) := octalPrefix 3 (c :: more) 0
          shellEscapesFor fuel after (UInt8.ofNat v :: acc)
        else match simpleEscape c with
          | some e => shellEscapesFor fuel more (e :: acc)
          | none => shellEscapesFor fuel (c :: more) (92 :: acc)
/-- The escapes of the shell's `echo` read over the bytes. -/
def shellEscapes (bs : List UInt8) : List UInt8 × Bool := shellEscapesFor (bs.length + 1) bs []

/-- What the shell's `echo` prints for its arguments. -/
def shellEcho (args : List String) : List UInt8 :=
  let (newline, words) := match args with
    | "-n" :: rest => (false, rest)
    | _ => (true, args)
  let (body, stopped) := shellEscapes (utf8Encode (" ".intercalate words))
  body ++ (if newline && !stopped then [10] else [])

/-- The value of a hexadecimal digit byte. -/
def hexValue (b : UInt8) : Option Nat :=
  let n := b.toNat
  if 48 ≤ n && n ≤ 57 then some (n - 48)
  else if 97 ≤ n && n ≤ 102 then some (n - 87)
  else if 65 ≤ n && n ≤ 70 then some (n - 55)
  else none

/-- Read the escapes of the standalone `echo -e`: the bytes in reverse onto `acc`, and whether
`\c` stopped the output. -/
def programEscapesFor : Nat → List UInt8 → List UInt8 → List UInt8 × Bool
  | 0, _, acc => (acc.reverse, false)
  | _, [], acc => (acc.reverse, false)
  | fuel + 1, b :: rest, acc =>
    if b != 92 then programEscapesFor fuel rest (b :: acc)
    else match rest with
      | [] => (((92 : UInt8) :: acc).reverse, false)
      | c :: more =>
        if c = 99 then (acc.reverse, true)
        else if c = 101 then programEscapesFor fuel more (27 :: acc)
        else if c = 120 then
          match more with
          | h :: more' =>
            match hexValue h with
            | some v =>
              match more' with
              | l :: more'' =>
                match hexValue l with
                | some w => programEscapesFor fuel more'' (UInt8.ofNat (v * 16 + w) :: acc)
                | none => programEscapesFor fuel more' (UInt8.ofNat v :: acc)
              | [] => programEscapesFor fuel more' (UInt8.ofNat v :: acc)
            | none => programEscapesFor fuel more (c :: 92 :: acc)
          | [] => programEscapesFor fuel more (c :: 92 :: acc)
        else if c = 48 then
          let (v, after) := octalPrefix 3 more 0
          programEscapesFor fuel after (UInt8.ofNat v :: acc)
        else if isOctal c then
          let (v, after) := octalPrefix 3 (c :: more) 0
          programEscapesFor fuel after (UInt8.ofNat v :: acc)
        else match simpleEscape c with
          | some e => programEscapesFor fuel more (e :: acc)
          | none => programEscapesFor fuel more (c :: 92 :: acc)
/-- The escapes of the standalone `echo -e` read over the bytes. -/
def programEscapes (bs : List UInt8) : List UInt8 × Bool := programEscapesFor (bs.length + 1) bs []

/-- Whether an argument is a set of options of the standalone `echo`. -/
def isEchoOptions (arg : String) : Bool :=
  match arg.toList with
  | '-' :: letters => !letters.isEmpty && letters.all fun c => c = 'n' || c = 'e' || c = 'E'
  | _ => false

/-- What the standalone `echo` prints for its arguments. -/
def programEcho (args : List String) : List UInt8 :=
  let opts := args.takeWhile isEchoOptions
  let words := args.dropWhile isEchoOptions
  let letters := opts.flatMap fun o => (o.drop 1).toString.toList
  let newline := !letters.contains 'n'
  let escapes := letters.foldl (fun on c => if c = 'e' then true else if c = 'E' then false else on)
    false
  let text := utf8Encode (" ".intercalate words)
  let (body, stopped) := if escapes then programEscapes text else (text, false)
  body ++ (if newline && !stopped then [10] else [])

example : shellEcho ["\\0101"] = [65, 10] := by decide
example : programEcho ["-e", "x"] = [120, 10] := by decide

end AgentLink
