import Mathlib
import AgentLink.Text.Utf8

/-!
# Decoding what was encoded

`utf8Decode` reads back every string `utf8Encode` writes (`utf8Decode_utf8Encode`). The proof is
one lemma per length of a character's byte sequence: each lead byte falls in the range the
decoder expects for that length, the continuation bytes pass its checks (including the tighter
second-byte bounds that exclude overlong forms, surrogates and values past U+10FFFF), and the
payload bits put back together give the code point. A byte below `0x80` only ever stands for
itself, so the encoded text holds a newline byte only where the text holds a newline.
-/

namespace AgentLink

theorem toNat_toUInt8 {n : Nat} (h : n < 256) : n.toUInt8.toNat = n := by
  simp [Nat.toUInt8, Nat.mod_eq_of_lt h]

/-- A byte under a mask of `k` low ones keeps its `k` low bits. -/
theorem toNat_and_low (b m : UInt8) (k : Nat) (hm : m.toNat = 2 ^ k - 1) :
    (b &&& m).toNat = b.toNat % 2 ^ k := by
  rw [UInt8.toNat_and, hm, Nat.and_two_pow_sub_one_eq_mod]

theorem tailBits_of_toNat {b : UInt8} {x : Nat} (hb : b.toNat = 0x80 + x) (hx : x < 64) :
    tailBits b = x := by
  rw [tailBits, toNat_and_low b 0x3F 6 rfl, hb]
  omega

theorem isTail_of_toNat {b : UInt8} {x : Nat} (hb : b.toNat = 0x80 + x) (hx : x < 64) :
    isTail b = true := by
  simp only [isTail, Bool.and_eq_true, decide_eq_true_eq, UInt8.le_iff_toNat_le, hb]
  constructor
  · simp
  · simp
    omega

/-! ## One character -/

/-- An ASCII character is its own byte. -/
theorem decode_one {n : Nat} (h : n < 0x80) (rest : List UInt8) :
    utf8DecodeChars (n.toUInt8 :: rest) = (Char.ofNat n :: ·) <$> utf8DecodeChars rest := by
  have hb : n.toUInt8.toNat = n := toNat_toUInt8 (by omega)
  have hlt : n.toUInt8 < 0x80 := by rw [UInt8.lt_iff_toNat_lt, hb]; exact h
  rw [utf8DecodeChars.eq_def]
  simp only [if_pos hlt, hb]

/-- A character from U+0080 to U+07FF takes two bytes. -/
theorem decode_two {n : Nat} (h1 : 0x80 ≤ n) (h2 : n < 0x800) (rest : List UInt8) :
    utf8DecodeChars ((0xC0 + (n >>> 6)).toUInt8 :: (0x80 + n % 64).toUInt8 :: rest) =
      (Char.ofNat n :: ·) <$> utf8DecodeChars rest := by
  have hs : n >>> 6 = n / 64 := by simp [Nat.shiftRight_eq_div_pow]
  have hb : (0xC0 + (n >>> 6)).toUInt8.toNat = 0xC0 + n / 64 := by
    rw [hs]; exact toNat_toUInt8 (by omega)
  have hc : (0x80 + n % 64).toUInt8.toNat = 0x80 + n % 64 := toNat_toUInt8 (by omega)
  have hlt : ¬ (0xC0 + (n >>> 6)).toUInt8 < 0x80 := by
    rw [UInt8.lt_iff_toNat_lt, hb]; simp; omega
  have hrange : (0xC2 : UInt8) ≤ (0xC0 + (n >>> 6)).toUInt8 ∧ (0xC0 + (n >>> 6)).toUInt8 ≤ 0xDF := by
    rw [UInt8.le_iff_toNat_le, UInt8.le_iff_toNat_le, hb]; simp; omega
  have hval : (((0xC0 + (n >>> 6)).toUInt8 &&& 0x1F).toNat <<< 6) +
      tailBits (0x80 + n % 64).toUInt8 = n := by
    rw [toNat_and_low _ 0x1F 5 rfl, hb, tailBits_of_toNat hc (by omega), Nat.shiftLeft_eq]
    omega
  rw [utf8DecodeChars, if_neg hlt, if_pos hrange]
  simp only [isTail_of_toNat hc (by omega), if_true, hval]

/-- A character from U+0800 to U+FFFF, surrogates excepted, takes three bytes; the decoder's
bounds on the second byte hold because the code point is neither overlong nor a surrogate. -/
theorem decode_three {n : Nat} (h1 : 0x800 ≤ n) (h2 : n < 0x10000) (hs : n < 0xD800 ∨ 0xDFFF < n)
    (rest : List UInt8) :
    utf8DecodeChars ((0xE0 + (n >>> 12)).toUInt8 :: (0x80 + (n >>> 6) % 64).toUInt8 ::
      (0x80 + n % 64).toUInt8 :: rest) = (Char.ofNat n :: ·) <$> utf8DecodeChars rest := by
  have hs12 : n >>> 12 = n / 4096 := by simp [Nat.shiftRight_eq_div_pow]
  have hs6 : n >>> 6 = n / 64 := by simp [Nat.shiftRight_eq_div_pow]
  have hb : (0xE0 + (n >>> 12)).toUInt8.toNat = 0xE0 + n / 4096 := by
    rw [hs12]; exact toNat_toUInt8 (by omega)
  have hc : (0x80 + (n >>> 6) % 64).toUInt8.toNat = 0x80 + n / 64 % 64 := by
    rw [hs6]; exact toNat_toUInt8 (by omega)
  have hd : (0x80 + n % 64).toUInt8.toNat = 0x80 + n % 64 := toNat_toUInt8 (by omega)
  have hlt : ¬ (0xE0 + (n >>> 12)).toUInt8 < 0x80 := by
    rw [UInt8.lt_iff_toNat_lt, hb]; simp; omega
  have hr2 : ¬ ((0xC2 : UInt8) ≤ (0xE0 + (n >>> 12)).toUInt8 ∧ (0xE0 + (n >>> 12)).toUInt8 ≤ 0xDF) := by
    rw [UInt8.le_iff_toNat_le, UInt8.le_iff_toNat_le, hb]; simp; omega
  have hr3 : (0xE0 : UInt8) ≤ (0xE0 + (n >>> 12)).toUInt8 ∧ (0xE0 + (n >>> 12)).toUInt8 ≤ 0xEF := by
    rw [UInt8.le_iff_toNat_le, UInt8.le_iff_toNat_le, hb]; simp; omega
  have hval : (((0xE0 + (n >>> 12)).toUInt8 &&& 0x0F).toNat <<< 12) +
      (tailBits (0x80 + (n >>> 6) % 64).toUInt8 <<< 6) + tailBits (0x80 + n % 64).toUInt8 = n := by
    rw [toNat_and_low _ 0x0F 4 rfl, hb, tailBits_of_toNat hc (by omega),
      tailBits_of_toNat hd (by omega), Nat.shiftLeft_eq, Nat.shiftLeft_eq]
    omega
  have hlo : (if (0xE0 + (n >>> 12)).toUInt8 = 0xE0 then (0xA0 : UInt8) else 0x80) ≤
      (0x80 + (n >>> 6) % 64).toUInt8 := by
    split_ifs with he
    · rw [UInt8.le_iff_toNat_le, hc]
      rw [← UInt8.toNat_inj, hb] at he
      simp at he ⊢; omega
    · rw [UInt8.le_iff_toNat_le, hc]; simp
  have hhi : (0x80 + (n >>> 6) % 64).toUInt8 ≤
      (if (0xE0 + (n >>> 12)).toUInt8 = 0xED then (0x9F : UInt8) else 0xBF) := by
    split_ifs with he
    · rw [UInt8.le_iff_toNat_le, hc]
      rw [← UInt8.toNat_inj, hb] at he
      simp at he ⊢; omega
    · rw [UInt8.le_iff_toNat_le, hc]; simp; omega
  rw [utf8DecodeChars, if_neg hlt, if_neg hr2, if_pos hr3]
  simp only [hlo, hhi, isTail_of_toNat hd (by omega), and_self, if_true, hval]

/-- A character from U+10000 to U+10FFFF takes four bytes. -/
theorem decode_four {n : Nat} (h1 : 0x10000 ≤ n) (h2 : n < 0x110000) (rest : List UInt8) :
    utf8DecodeChars ((0xF0 + (n >>> 18)).toUInt8 :: (0x80 + (n >>> 12) % 64).toUInt8 ::
      (0x80 + (n >>> 6) % 64).toUInt8 :: (0x80 + n % 64).toUInt8 :: rest) =
      (Char.ofNat n :: ·) <$> utf8DecodeChars rest := by
  have hs18 : n >>> 18 = n / 262144 := by simp [Nat.shiftRight_eq_div_pow]
  have hs12 : n >>> 12 = n / 4096 := by simp [Nat.shiftRight_eq_div_pow]
  have hs6 : n >>> 6 = n / 64 := by simp [Nat.shiftRight_eq_div_pow]
  have hb : (0xF0 + (n >>> 18)).toUInt8.toNat = 0xF0 + n / 262144 := by
    rw [hs18]; exact toNat_toUInt8 (by omega)
  have hc : (0x80 + (n >>> 12) % 64).toUInt8.toNat = 0x80 + n / 4096 % 64 := by
    rw [hs12]; exact toNat_toUInt8 (by omega)
  have hd : (0x80 + (n >>> 6) % 64).toUInt8.toNat = 0x80 + n / 64 % 64 := by
    rw [hs6]; exact toNat_toUInt8 (by omega)
  have he : (0x80 + n % 64).toUInt8.toNat = 0x80 + n % 64 := toNat_toUInt8 (by omega)
  have hlt : ¬ (0xF0 + (n >>> 18)).toUInt8 < 0x80 := by
    rw [UInt8.lt_iff_toNat_lt, hb]; simp; omega
  have hr2 : ¬ ((0xC2 : UInt8) ≤ (0xF0 + (n >>> 18)).toUInt8 ∧ (0xF0 + (n >>> 18)).toUInt8 ≤ 0xDF) := by
    rw [UInt8.le_iff_toNat_le, UInt8.le_iff_toNat_le, hb]; simp; omega
  have hr3 : ¬ ((0xE0 : UInt8) ≤ (0xF0 + (n >>> 18)).toUInt8 ∧ (0xF0 + (n >>> 18)).toUInt8 ≤ 0xEF) := by
    rw [UInt8.le_iff_toNat_le, UInt8.le_iff_toNat_le, hb]; simp; omega
  have hr4 : (0xF0 : UInt8) ≤ (0xF0 + (n >>> 18)).toUInt8 ∧ (0xF0 + (n >>> 18)).toUInt8 ≤ 0xF4 := by
    rw [UInt8.le_iff_toNat_le, UInt8.le_iff_toNat_le, hb]; simp; omega
  have hval : (((0xF0 + (n >>> 18)).toUInt8 &&& 0x07).toNat <<< 18) +
      (tailBits (0x80 + (n >>> 12) % 64).toUInt8 <<< 12) +
      (tailBits (0x80 + (n >>> 6) % 64).toUInt8 <<< 6) + tailBits (0x80 + n % 64).toUInt8 = n := by
    rw [toNat_and_low _ 0x07 3 rfl, hb, tailBits_of_toNat hc (by omega),
      tailBits_of_toNat hd (by omega), tailBits_of_toNat he (by omega), Nat.shiftLeft_eq,
      Nat.shiftLeft_eq, Nat.shiftLeft_eq]
    omega
  have hlo : (if (0xF0 + (n >>> 18)).toUInt8 = 0xF0 then (0x90 : UInt8) else 0x80) ≤
      (0x80 + (n >>> 12) % 64).toUInt8 := by
    split_ifs with h
    · rw [UInt8.le_iff_toNat_le, hc]
      rw [← UInt8.toNat_inj, hb] at h
      simp at h ⊢; omega
    · rw [UInt8.le_iff_toNat_le, hc]; simp
  have hhi : (0x80 + (n >>> 12) % 64).toUInt8 ≤
      (if (0xF0 + (n >>> 18)).toUInt8 = 0xF4 then (0x8F : UInt8) else 0xBF) := by
    split_ifs with h
    · rw [UInt8.le_iff_toNat_le, hc]
      rw [← UInt8.toNat_inj, hb] at h
      simp at h ⊢; omega
    · rw [UInt8.le_iff_toNat_le, hc]; simp; omega
  rw [utf8DecodeChars, if_neg hlt, if_neg hr2, if_neg hr3, if_pos hr4]
  simp only [hlo, hhi, isTail_of_toNat hd (by omega), isTail_of_toNat he (by omega), and_self,
    if_true, hval]

/-! ## Texts -/

/-- The code point of a character is a Unicode scalar value. -/
theorem toNat_valid (c : Char) : c.toNat < 0xD800 ∨ (0xDFFF < c.toNat ∧ c.toNat < 0x110000) := by
  have hv : c.val < 0xD800 ∨ (0xDFFF < c.val ∧ c.val < 0x110000) := c.valid
  simp only [UInt32.lt_iff_toNat_lt] at hv
  exact hv

/-- A character's bytes decode to the character. -/
theorem decode_charUtf8 (c : Char) (rest : List UInt8) :
    utf8DecodeChars (charUtf8 c ++ rest) = (c :: ·) <$> utf8DecodeChars rest := by
  have hv := toNat_valid c
  unfold charUtf8
  dsimp only
  split_ifs with h1 h2 h3
  · rw [List.singleton_append, decode_one h1 rest, Char.ofNat_toNat]
  · rw [List.cons_append, List.singleton_append, decode_two (by omega) h2 rest, Char.ofNat_toNat]
  · simp only [List.cons_append, List.nil_append]
    rw [decode_three (by omega) h3 (by omega) rest, Char.ofNat_toNat]
  · simp only [List.cons_append, List.nil_append]
    rw [decode_four (by omega) (by omega) rest, Char.ofNat_toNat]

theorem decode_charsUtf8 (cs : List Char) : utf8DecodeChars (charsUtf8 cs) = some cs := by
  induction cs with
  | nil => rfl
  | cons c cs ih => rw [charsUtf8, decode_charUtf8, ih]; rfl

/-- Decoding is the inverse of encoding. -/
theorem utf8Decode_utf8Encode (s : String) : utf8Decode (utf8Encode s) = some s := by
  simp [utf8Decode, utf8Encode, decode_charsUtf8]

theorem charsUtf8_append (a b : List Char) : charsUtf8 (a ++ b) = charsUtf8 a ++ charsUtf8 b := by
  induction a with
  | nil => rfl
  | cons c cs ih => rw [List.cons_append, charsUtf8, charsUtf8, ih, List.append_assoc]

theorem utf8Encode_append (s t : String) : utf8Encode (s ++ t) = utf8Encode s ++ utf8Encode t := by
  rw [utf8Encode, String.toList_append, charsUtf8_append]; rfl

/-- A byte below `0x80` in a character's bytes is the character itself: the bytes of a longer
sequence all have the high bit set. -/
theorem toNat_of_mem_charUtf8 {c : Char} {b : UInt8} (hb : b ∈ charUtf8 c) (h : b.toNat < 0x80) :
    b.toNat = c.toNat := by
  have hv := toNat_valid c
  unfold charUtf8 at hb
  dsimp only at hb
  split_ifs at hb with h1 h2 h3
  · rw [List.mem_singleton] at hb
    subst hb
    exact toNat_toUInt8 (by omega)
  all_goals
    simp only [List.mem_cons, List.not_mem_nil, or_false] at hb
    rcases hb with rfl | rfl | rfl | rfl <;> rw [toNat_toUInt8 (by omega)] at h <;> omega

/-- The bytes of a text hold a newline only where the text does. -/
theorem newline_not_mem_charsUtf8 {cs : List Char} (h : '\n' ∉ cs) : (10 : UInt8) ∉ charsUtf8 cs := by
  induction cs with
  | nil => simp [charsUtf8]
  | cons c cs ih =>
    rw [List.mem_cons, not_or] at h
    rw [charsUtf8, List.mem_append, not_or]
    refine ⟨fun hc => h.1 ?_, ih h.2⟩
    have := toNat_of_mem_charUtf8 hc (by decide)
    exact (Char.toNat_inj.1 this.symm).symm

end AgentLink
