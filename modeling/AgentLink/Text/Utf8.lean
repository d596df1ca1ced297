/-!
# UTF-8 bytes

`utf8Decode` reads a byte list as well-formed UTF-8 or refuses it: every sequence is checked
against the table of well-formed byte sequences (Unicode, table 3-7), so overlong forms,
surrogates and values past U+10FFFF are refused. `utf8Encode` is its inverse on strings.
Both are structural recursions over lists, so facts about them go by induction on the bytes.
-/

namespace AgentLink

/-- A continuation byte, `0x80` to `0xBF`. -/
def isTail (b : UInt8) : Bool := 0x80 ≤ b && b ≤ 0xBF

/-- The six payload bits of a continuation byte. -/
def tailBits (b : UInt8) : Nat := (b &&& 0x3F).toNat

/-- Decode well-formed UTF-8 into characters, or `none` at the first ill-formed sequence. -/
def utf8DecodeChars : List UInt8 → Option (List Char)
  | [] => some []
  | b :: rest =>
    if b < 0x80 then (Char.ofNat b.toNat :: ·) <$> utf8DecodeChars rest
    else if 0xC2 ≤ b ∧ b ≤ 0xDF then
      match rest with
      | c :: rest' =>
        if isTail c then
          (Char.ofNat (((b &&& 0x1F).toNat <<< 6) + tailBits c) :: ·) <$> utf8DecodeChars rest'
        else none
      | [] => none
    else if 0xE0 ≤ b ∧ b ≤ 0xEF then
      match rest with
      | c :: d :: rest' =>
        let lo : UInt8 := if b = 0xE0 then 0xA0 else 0x80
        let hi : UInt8 := if b = 0xED then 0x9F else 0xBF
        if lo ≤ c ∧ c ≤ hi ∧ isTail d then
          (Char.ofNat (((b &&& 0x0F).toNat <<< 12) + (tailBits c <<< 6) + tailBits d) :: ·) <$>
            utf8DecodeChars rest'
        else none
      | _ => none
    else if 0xF0 ≤ b ∧ b ≤ 0xF4 then
      match rest with
      | c :: d :: e :: rest' =>
        let lo : UInt8 := if b = 0xF0 then 0x90 else 0x80
        let hi : UInt8 := if b = 0xF4 then 0x8F else 0xBF
        if lo ≤ c ∧ c ≤ hi ∧ isTail d ∧ isTail e then
          (Char.ofNat (((b &&& 0x07).toNat <<< 18) + (tailBits c <<< 12) + (tailBits d <<< 6)
              + tailBits e) :: ·) <$> utf8DecodeChars rest'
        else none
      | _ => none
    else none

/-- Decode well-formed UTF-8 into a string. -/
def utf8Decode (bytes : List UInt8) : Option String := String.ofList <$> utf8DecodeChars bytes

/-- The number of continuation bytes a lead byte announces; zero for a byte that leads no
longer sequence. -/
def tailCount (b : UInt8) : Nat :=
  if 0xC2 ≤ b && b ≤ 0xDF then 1
  else if 0xE0 ≤ b && b ≤ 0xEF then 2
  else if 0xF0 ≤ b && b ≤ 0xF4 then 3
  else 0

/-- Decode bytes, each ill-formed sequence read as U+FFFD one byte at a time. -/
def utf8DecodeLossyFor : Nat → List UInt8 → List Char
  | 0, _ => []
  | _, [] => []
  | fuel + 1, b :: rest =>
    let n := tailCount b
    match utf8DecodeChars (b :: rest.take n) with
    | some [c] => c :: utf8DecodeLossyFor fuel (rest.drop n)
    | _ => '\uFFFD' :: utf8DecodeLossyFor fuel rest

/-- Decode bytes as UTF-8, reading each byte of an ill-formed sequence as U+FFFD: text that
came from outside, such as a program's output, always has a reading. -/
def utf8DecodeLossy (bytes : List UInt8) : String :=
  String.ofList (utf8DecodeLossyFor (bytes.length + 1) bytes)

/-- The UTF-8 bytes of one character. -/
def charUtf8 (c : Char) : List UInt8 :=
  let n := c.toNat
  if n < 0x80 then [n.toUInt8]
  else if n < 0x800 then [(0xC0 + (n >>> 6)).toUInt8, (0x80 + n % 64).toUInt8]
  else if n < 0x10000 then
    [(0xE0 + (n >>> 12)).toUInt8, (0x80 + (n >>> 6) % 64).toUInt8, (0x80 + n % 64).toUInt8]
  else
    [(0xF0 + (n >>> 18)).toUInt8, (0x80 + (n >>> 12) % 64).toUInt8,
      (0x80 + (n >>> 6) % 64).toUInt8, (0x80 + n % 64).toUInt8]

/-- The UTF-8 bytes of a character list. -/
def charsUtf8 : List Char → List UInt8
  | [] => []
  | c :: cs => charUtf8 c ++ charsUtf8 cs

/-- The UTF-8 bytes of a string. -/
def utf8Encode (s : String) : List UInt8 := charsUtf8 s.toList

/-- The number of UTF-8 bytes of a string. -/
def byteLength (s : String) : Nat := s.utf8ByteSize

example : utf8Decode [0x68, 0xC3, 0xA9] = some "hé" := by decide
example : utf8Decode [0xED, 0xA0, 0x80] = none := by decide
example : utf8DecodeLossy [0x61, 0xFF, 0xC3, 0xA9] = "a\uFFFDé" := by decide
example : utf8Encode "hé" = [0x68, 0xC3, 0xA9] := by decide

end AgentLink
