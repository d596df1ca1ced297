import Mathlib
import AgentLink.Json.Reader
import AgentLink.Json.Writer

/-!
# What the JSON scanner reads

`Scan.Reads s text rest a` says that the scanner step `s`, started on `text` from any position
and with a size bound covering the text, succeeds with `a` and leaves `rest`. Reads compose
along `>>=` (`Reads.bind`), so a reading of a whole text is put together from one lemma per
token: the characters of a string with their escapes, the digits of an integer, and the
punctuation between items and members.

These are the lemmas the round trip of the writer's text through the reader is built from
(`AgentLink.Json.Scan.value_render`).
-/

namespace AgentLink.Json

/-- `s` reads `a` from the front of `text` and leaves `rest`, from any position and for any size
bound that covers the text. -/
def Scan.Reads {α : Type} (s : Scan α) (text rest : List Char) (a : α) : Prop :=
  rest.length ≤ text.length ∧ ∀ pos size, text.length ≤ size →
    ∃ pos', (s.run).run ⟨text, pos, size⟩ = (.ok a, ⟨rest, pos', size⟩)

namespace Scan
variable {α β : Type}

/-! ## Running the scanner's primitives -/

theorem run_get (c : Cursor) : StateT.run (ExceptT.run (get : Scan Cursor)) c = (.ok c, c) := rfl
theorem run_set (c c' : Cursor) : StateT.run (ExceptT.run (set c' : Scan Unit)) c = (.ok (), c') := rfl
theorem run_pure (c : Cursor) (a : α) : StateT.run (ExceptT.run (pure a : Scan α)) c = (.ok a, c) :=
  rfl
theorem run_eat (c : Char) (t : List Char) (pos size : Nat) :
    StateT.run (ExceptT.run eat) ⟨c :: t, pos, size⟩ = (.ok (), ⟨t, pos + 1, size⟩) := rfl
theorem id_bind {γ δ : Type} (x : γ) (f : γ → Id δ) : (x >>= f : Id δ) = f x := rfl

namespace Reads

/-! ## Reading step by step -/

/-- Reading `s` and then `f` of what it read reads through both texts. -/
theorem bind {s : Scan α} {f : α → Scan β} {t t' t'' : List Char} {a : α} {b : β}
    (h : s.Reads t t' a) (hf : (f a).Reads t' t'' b) : (s >>= f).Reads t t'' b := by
  refine ⟨hf.1.trans h.1, fun pos size hs => ?_⟩
  obtain ⟨p₁, h₁⟩ := h.2 pos size hs
  obtain ⟨p₂, h₂⟩ := hf.2 p₁ size (h.1.trans hs)
  refine ⟨p₂, ?_⟩
  simp only [ExceptT.run_bind, StateT.run_bind, h₁]
  exact h₂

theorem pure (a : α) (t : List Char) : (Pure.pure a : Scan α).Reads t t a :=
  ⟨le_rfl, fun pos _ _ => ⟨pos, rfl⟩⟩

theorem eat (c : Char) (t : List Char) : Scan.eat.Reads (c :: t) t () :=
  ⟨by simp, fun pos _ _ => ⟨pos + 1, rfl⟩⟩

theorem peek (t : List Char) : Scan.peek.Reads t t t.head? :=
  ⟨le_rfl, fun pos _ _ => ⟨pos, rfl⟩⟩

theorem next (c : Char) (t : List Char) : Scan.next.Reads (c :: t) t (some c) :=
  (peek _).bind ((eat c t).bind (pure _ _))

/-- A step that looks at the cursor reads as its continuation does from every cursor on the
same text. -/
theorem get_bind {t r : List Char} {a : α} {k : Cursor → Scan α} (hr : r.length ≤ t.length)
    (h : ∀ pos size, t.length ≤ size → (k ⟨t, pos, size⟩).Reads t r a) :
    (get >>= k).Reads t r a := by
  refine ⟨hr, fun pos size hs => ?_⟩
  obtain ⟨p, hp⟩ := (h pos size hs).2 pos size hs
  refine ⟨p, ?_⟩
  simp only [ExceptT.run_bind, StateT.run_bind, run_get, id_bind]
  exact hp

theorem skip (l t : List Char) : (Scan.skip l.length).Reads (l ++ t) t () :=
  ⟨by simp, fun pos size _ => ⟨pos + l.length, by
    show (Except.ok (), (⟨(l ++ t).drop l.length, pos + l.length, size⟩ : Cursor)) = _
    rw [List.drop_left]⟩⟩

/-- Placing faults changes nothing on a successful reading. -/
theorem placeHere {s : Scan α} {t r : List Char} {a : α} (h : s.Reads t r a) :
    (Scan.placeHere s).Reads t r a := by
  refine ⟨h.1, fun pos size hs => ?_⟩
  obtain ⟨p, hp⟩ := h.2 pos size hs
  refine ⟨p, ?_⟩
  unfold Scan.placeHere
  have hp' : StateT.run s ⟨t, pos, size⟩ = (.ok a, ⟨r, p, size⟩) := hp
  change StateT.run (ExceptT.tryCatch s _).run _ = _
  simp only [ExceptT.tryCatch, ExceptT.run_mk, StateT.run_bind, hp']
  rfl

end Reads

/-! ## Strings -/

/-- The closing quote ends a string's body with the characters read so far. -/
theorem stringBody_quote (f : Nat) (acc r : List Char) :
    (stringBody (f + 1) acc).Reads ('"' :: r) r (String.ofList acc.reverse) :=
  ⟨by simp, fun pos _ _ => ⟨pos + 1, rfl⟩⟩

/-- A character that needs no escape is read as itself. -/
theorem stringBody_plain {f : Nat} {acc t r : List Char} {s : String} {ch : Char}
    (hq : ch ≠ '"') (hb : ch ≠ '\\') (hc : 0x20 ≤ ch.toNat)
    (h : (stringBody f (ch :: acc)).Reads t r s) :
    (stringBody (f + 1) acc).Reads (ch :: t) r s := by
  refine ⟨h.1.trans (by simp), fun pos size hs => ?_⟩
  obtain ⟨p, hp⟩ := h.2 (pos + ch.utf8Size) size (le_trans (by simp) hs)
  refine ⟨p, ?_⟩
  have hlt : ¬ ch.toNat < 32 := by omega
  simp only [stringBody, ExceptT.run_bind, StateT.run_bind, run_get, id_bind]
  split
  · contradiction
  · simp only [ExceptT.run_bind, StateT.run_bind, run_set, id_bind]
    exact hp

/-- A backslash starts an escape, read by `escape`. -/
theorem stringBody_escape {f : Nat} {acc t t' r : List Char} {s : String} {e : Char}
    (he : escape.Reads t t' e) (h : (stringBody f (e :: acc)).Reads t' r s) :
    (stringBody (f + 1) acc).Reads ('\\' :: t) r s := by
  have hrest : (Scan.escape >>= fun e => stringBody f (e :: acc)).Reads t r s := he.bind h
  refine ⟨hrest.1.trans (by simp), fun pos size hs => ?_⟩
  obtain ⟨p, hp⟩ := hrest.2 (pos + 1) size (le_trans (by simp) hs)
  refine ⟨p, ?_⟩
  simp only [stringBody, ExceptT.run_bind, StateT.run_bind, run_get, id_bind, run_set]
  exact hp

theorem escape_named {c e : Char} (t : List Char)
    (h : c = '"' ∧ e = '"' ∨ c = '\\' ∧ e = '\\' ∨ c = 'b' ∧ e = '\x08' ∨ c = 't' ∧ e = '\t' ∨
      c = 'n' ∧ e = '\n' ∨ c = 'f' ∧ e = '\x0c' ∨ c = 'r' ∧ e = '\r') :
    escape.Reads (c :: t) t e := by
  rcases h with ⟨rfl, rfl⟩ | ⟨rfl, rfl⟩ | ⟨rfl, rfl⟩ | ⟨rfl, rfl⟩ | ⟨rfl, rfl⟩ | ⟨rfl, rfl⟩ |
    ⟨rfl, rfl⟩ <;> exact (Reads.next _ _).bind (Reads.pure _ _)

theorem hex4_reads {a b d e : Char} {w x y z : Nat} (t : List Char) (ha : hexVal a = some w)
    (hb : hexVal b = some x) (hd : hexVal d = some y) (he : hexVal e = some z) :
    hex4.Reads (a :: b :: d :: e :: t) t (w * 4096 + x * 256 + y * 16 + z) := by
  refine ⟨by simp only [List.length_cons]; omega, fun pos size _ => ⟨pos + 4, ?_⟩⟩
  simp only [hex4, ExceptT.run_bind, StateT.run_bind, run_get, id_bind, ha, hb, hd, he, run_set]
  rfl

/-- The two hexadecimal digits a control character is written with after `\u00`. -/
def hexPair (n : Nat) : List Char :=
  let h := Nat.toDigits 16 n
  if h.length < 2 then '0' :: h else h

theorem hexVal_hexPair : ∀ n < 32, (hexPair n).map hexVal = [some (n / 16), some (n % 16)] := by
  decide

/-- A control character written as `u00` and its two hex digits is read back. -/
theorem escape_control {c : Char} (hc : c.toNat < 32) (t : List Char) :
    escape.Reads ('u' :: '0' :: '0' :: hexPair c.toNat ++ t) t c := by
  have hp := hexVal_hexPair c.toNat hc
  obtain ⟨a, b, hab⟩ : ∃ a b, hexPair c.toNat = [a, b] :=
    List.length_eq_two.1 (by simpa using congrArg List.length hp)
  rw [hab] at hp ⊢
  simp only [List.map_cons, List.map_nil, List.cons.injEq] at hp
  have h4 := hex4_reads (a := '0') (b := '0') t rfl rfl hp.1 hp.2.1
  have hn : ('0'.toNat - 48) * 4096 + ('0'.toNat - 48) * 256 + c.toNat / 16 * 16 +
      c.toNat % 16 = c.toNat := by
    rw [show '0'.toNat - 48 = 0 from rfl]
    omega
  rw [hn] at h4
  have hu : unicodeEscape.Reads ('0' :: '0' :: [a, b] ++ t) t c := by
    refine h4.bind ?_
    have h1 : ¬ (0xDC00 ≤ c.toNat ∧ c.toNat ≤ 0xDFFF) := by omega
    have h2 : c.toNat < 0xD800 ∨ 0xDBFF < c.toNat := by omega
    simp only [h1, h2, if_false, if_true, Char.ofNat_toNat]
    exact Reads.pure _ _
  exact (Reads.next _ _).bind hu

/-- An escape named by a letter, or a quote or backslash escaped, reads as its character. -/
theorem stringBody_named {f : Nat} {acc t r : List Char} {s : String} {c e : Char}
    (hce : c = '"' ∧ e = '"' ∨ c = '\\' ∧ e = '\\' ∨ c = 'b' ∧ e = '\x08' ∨ c = 't' ∧ e = '\t' ∨
      c = 'n' ∧ e = '\n' ∨ c = 'f' ∧ e = '\x0c' ∨ c = 'r' ∧ e = '\r')
    (h : (stringBody f (e :: acc)).Reads t r s) :
    (stringBody (f + 1) acc).Reads ('\\' :: c :: t) r s :=
  stringBody_escape (escape_named t hce) h

/-- Whatever `escapeChar` writes for a character is read back as that character. -/
theorem stringBody_escapeChar {f : Nat} {acc t r : List Char} {s : String} (c : Char)
    (h : (stringBody f (c :: acc)).Reads t r s) :
    (stringBody (f + 1) acc).Reads ((escapeChar c).toList ++ t) r s := by
  unfold escapeChar
  split_ifs with h1 h2 h3 h4 h5 h6 h7 h8
  · subst h1; exact stringBody_named (c := '"') (by simp) h
  · subst h2; exact stringBody_named (c := '\\') (by simp) h
  · subst h4; exact stringBody_named (c := 'b') (by simp) h
  · subst h5; exact stringBody_named (c := 't') (by simp) h
  · subst h6; exact stringBody_named (c := 'n') (by simp) h
  · subst h7; exact stringBody_named (c := 'f') (by simp) h
  · subst h8; exact stringBody_named (c := 'r') (by simp) h
  · have hx : (("\\u00" : String) ++ String.ofList (hexPair c.toNat)).toList ++ t =
        '\\' :: ('u' :: '0' :: '0' :: hexPair c.toNat ++ t) := by
      simp [String.toList_append]
    exact hx ▸ stringBody_escape (escape_control h3 t) h
  · rw [String.toList_singleton]
    exact stringBody_plain h1 h2 (by omega) h

/-- The characters of a string as they are written between its quotes. -/
def escaped (cs : List Char) : List Char := cs.flatMap fun c => (escapeChar c).toList

theorem length_le_escaped (cs : List Char) : cs.length ≤ (escaped cs).length := by
  induction cs with
  | nil => simp [escaped]
  | cons c cs ih =>
    have hc : 1 ≤ (escapeChar c).toList.length := by
      unfold escapeChar
      split_ifs <;> simp [String.toList_append]
    simp only [escaped, List.flatMap_cons, List.length_append, List.length_cons] at ih ⊢
    omega

theorem foldl_escapeChar (cs : List Char) (init : String) :
    (cs.foldl (fun acc c => acc ++ escapeChar c) init).toList = init.toList ++ escaped cs := by
  induction cs generalizing init with
  | nil => simp [escaped]
  | cons c cs ih => simp [ih, escaped, String.toList_append]

theorem quoteString_toList (s : String) :
    (quoteString s).toList = '"' :: escaped s.toList ++ ['"'] := by
  simp [quoteString, String.toList_append, foldl_escapeChar]

/-- A string body is read back character by character, with fuel for each. -/
theorem stringBody_escaped (r : List Char) :
    ∀ (cs acc : List Char) (fuel : Nat), cs.length < fuel →
      (stringBody fuel acc).Reads (escaped cs ++ '"' :: r) r (String.ofList (acc.reverse ++ cs))
  | [], acc, fuel + 1, _ => by simpa [escaped] using stringBody_quote fuel acc r
  | c :: cs, acc, fuel + 1, h => by
    have ih := stringBody_escaped r cs (c :: acc) fuel (by simp at h; omega)
    simp only [List.reverse_cons, List.append_assoc, List.singleton_append] at ih
    simpa [escaped, List.append_assoc] using stringBody_escapeChar c ih

theorem string_reads (s : String) (r : List Char) :
    string.Reads (escaped s.toList ++ '"' :: r) r s := by
  have hlen := length_le_escaped s.toList
  refine ⟨by simp only [List.length_append, List.length_cons]; omega, fun pos size hs => ?_⟩
  have hfuel : s.toList.length < size + 1 := by
    simp only [List.length_append, List.length_cons] at hs
    omega
  obtain ⟨p, hp⟩ := (stringBody_escaped r s.toList [] (size + 1) hfuel).2 pos size hs
  refine ⟨p, ?_⟩
  simp only [string, ExceptT.run_bind, StateT.run_bind, run_get, id_bind]
  simpa using hp

/-! ## Numbers -/

/-- A number cannot go on into `r`: it ends there, or at a character that is no digit, point or
exponent mark. -/
def EndsNumber (r : List Char) : Prop :=
  ∀ c u, r = c :: u → c.isDigit = false ∧ c ≠ '.' ∧ c ≠ 'e' ∧ c ≠ 'E'

theorem digitVal_of_isDigit {c : Char} (h : c.isDigit = true) : digitVal c = some (c.toNat - 48) := by
  simp [digitVal, h]

theorem le_ofDigitChars (l : List Char) (init : Nat) : init ≤ Nat.ofDigitChars 10 l init := by
  rw [Nat.ofDigitChars_eq_ofDigitChars_zero]
  have : 1 ≤ 10 ^ l.length := Nat.one_le_pow _ _ (by omega)
  nlinarith

/-- Accumulating a run of digits that stays within the limit takes all of them. -/
theorem accumulate_digits (limit : Nat) {r : List Char} (hr : EndsNumber r) :
    ∀ (ds : List Char) (sig n : Nat), (∀ c ∈ ds, c.isDigit = true) →
      Nat.ofDigitChars 10 ds sig ≤ limit →
      accumulate limit sig n (ds ++ r) = (Nat.ofDigitChars 10 ds sig, n + ds.length, false)
  | [], sig, n, _, _ => by
    cases r with
    | nil => simp [accumulate]
    | cons c u =>
      have hc := (hr c u rfl).1
      simp [accumulate, digitVal, hc]
  | c :: cs, sig, n, hd, hle => by
    have hc : c.isDigit = true := hd c (by simp)
    have hstep : Nat.ofDigitChars 10 (c :: cs) sig = Nat.ofDigitChars 10 cs (sig * 10 + (c.toNat - 48)) := by
      rw [Nat.ofDigitChars_cons, Nat.mul_comm]; rfl
    rw [hstep] at hle ⊢
    have hlim : ¬ limit < sig * 10 + (c.toNat - 48) :=
      Nat.not_lt.2 ((le_ofDigitChars cs _).trans hle)
    simp only [List.cons_append, accumulate, digitVal_of_isDigit hc, hlim, if_false]
    rw [accumulate_digits limit hr cs _ (n + 1) (fun x hx => hd x (by simp [hx])) hle]
    simp only [List.length_cons, Prod.mk.injEq, and_true, true_and]
    omega

/-- After the digits of an integer that nothing continues, the integer is done: a natural
number, a negative integer in range, or else a float. -/
theorem afterInteger_ends {r : List Char} (hr : EndsNumber r) (positive : Bool) (sig : Nat) :
    (afterInteger positive sig).Reads r r
      (if positive then .nat sig
        else if 1 ≤ sig ∧ sig ≤ Nat.pow 2 63 then .neg (-(sig : Int))
        else .float (Binary64.ofNat sig).negate) := by
  have hd : ∀ c, r.head? = some c → c ≠ '.' ∧ c ≠ 'e' ∧ c ≠ 'E' := by
    intro c hc
    obtain ⟨u, rfl⟩ : ∃ u, r = c :: u := by
      cases r with
      | nil => cases hc
      | cons c' u => cases hc; exact ⟨u, rfl⟩
    exact (hr c u rfl).2
  refine (Reads.peek r).bind ?_
  split
  · exact absurd rfl (hd _ ‹_›).1
  · exact absurd rfl (hd _ ‹_›).2.1
  · exact absurd rfl (hd _ ‹_›).2.2
  · cases positive
    · split_ifs <;> exact Reads.pure _ _
    · exact Reads.pure _ _

/-- The decimal digits of a positive number do not start with zero. -/
theorem toDigits_head_ne_zero : ∀ n : Nat, 0 < n → ∃ c cs, Nat.toDigits 10 n = c :: cs ∧ c ≠ '0'
  | n, hn => by
    rw [Nat.toDigits_eq_if (by omega)]
    split
    · refine ⟨n.digitChar, [], rfl, ?_⟩
      simp only [ne_eq, Nat.digitChar_eq_zero]
      omega
    · have hpos : 0 < n / 10 := by omega
      obtain ⟨c, cs, hcs, hc⟩ := toDigits_head_ne_zero (n / 10) hpos
      exact ⟨c, cs ++ [(n % 10).digitChar], by rw [hcs]; rfl, hc⟩

/-- A number's digits are read as the number, and reading goes on after them. -/
theorem number_digits {r : List Char} (hr : EndsNumber r) (positive : Bool) {n : Nat}
    (hn : n ≤ u64Max) {x : Number} (hafter : (afterInteger positive n).Reads r r x) :
    (number positive).Reads (Nat.toDigits 10 n ++ r) r x := by
  rcases Nat.eq_zero_or_pos n with rfl | hpos
  · rw [Nat.toDigits_zero]
    refine (Reads.next _ _).bind ?_
    refine (Reads.peek r).bind ?_
    cases r with
    | nil => exact hafter
    | cons c u =>
      have hc := (hr c u rfl).1
      simp only [List.head?_cons, hc]
      exact hafter
  · obtain ⟨c, cs, hcs, hc0⟩ := toDigits_head_ne_zero n hpos
    have hdig : ∀ d ∈ Nat.toDigits 10 n, d.isDigit = true :=
      fun d hd => Nat.isDigit_of_mem_toDigits (by omega) (by omega) hd
    have hc : c.isDigit = true := hdig c (by simp [hcs])
    have hval : Nat.ofDigitChars 10 cs (c.toNat - 48) = n := by
      have := Nat.ofDigitChars_ten_toDigits (n := n)
      rw [hcs, Nat.ofDigitChars_cons] at this
      simpa using this
    have hacc := accumulate_digits u64Max hr cs (c.toNat - 48) 0
      (fun d hd => hdig d (by simp [hcs, hd])) (hval ▸ hn)
    rw [hcs, List.cons_append]
    refine (Reads.next _ _).bind ?_
    simp only [digitVal_of_isDigit hc]
    refine Reads.get_bind (by simp) fun pos size _ => ?_
    simp only [hacc, hval, zero_add]
    exact (Reads.skip cs r).bind (by simpa using hafter)

/-! ## Structure -/

/-- A character the reader skips between tokens. -/
def IsSpace (c : Char) : Prop := c = ' ' ∨ c = '\n' ∨ c = '\t' ∨ c = '\r'

/-- Skipping blanks stops at once at a character that is not one. -/
theorem skipSpace_at {c : Char} (hc : ¬ IsSpace c) (t : List Char) :
    skipSpace.Reads (c :: t) (c :: t) (some c) := by
  refine ⟨le_rfl, fun pos size _ => ⟨pos, ?_⟩⟩
  have hd : dropSpace (c :: t) = (c :: t, 0) := by
    simp only [dropSpace, IsSpace] at hc ⊢
    simp [hc]
  simp only [skipSpace, ExceptT.run_bind, StateT.run_bind, run_get, id_bind, hd]
  rfl

theorem skipSpace_end : skipSpace.Reads [] [] none :=
  ⟨le_rfl, fun pos _ _ => ⟨pos, rfl⟩⟩

theorem ident_reads : ∀ (es t : List Char), (ident es).Reads (es ++ t) t ()
  | [], t => Reads.pure () t
  | e :: es, t => by
    refine (Reads.next e (es ++ t)).bind ?_
    simp only [if_true]
    exact ident_reads es t

theorem nest_reads {depth : Nat} (hd : 1 < depth) (c : Char) (t : List Char) :
    (nest depth).Reads (c :: t) t () := by
  have : ¬ depth ≤ 1 := by omega
  simp only [nest, this, if_false]
  exact Reads.eat c t

theorem colon_reads (t : List Char) : colon.Reads (':' :: t) t () :=
  (skipSpace_at (by simp [IsSpace]) t).bind (Reads.eat _ _)

theorem endArray_reads (t : List Char) : endArray.Reads (']' :: t) t () :=
  (skipSpace_at (by simp [IsSpace]) t).bind (Reads.eat _ _)

theorem endObject_reads (t : List Char) : endObject.Reads ('}' :: t) t () :=
  (skipSpace_at (by simp [IsSpace]) t).bind (Reads.eat _ _)

theorem nextItem_close (first : Bool) (t : List Char) :
    (nextItem first).Reads (']' :: t) (']' :: t) none :=
  ⟨le_rfl, fun pos _ _ => ⟨pos, rfl⟩⟩

/-- The first item of an array starts at once. -/
theorem nextItem_first {b : Char} (hb : ¬ IsSpace b) (h1 : b ≠ ']') (h2 : b ≠ ',') (t : List Char) :
    (nextItem true).Reads (b :: t) (b :: t) (some b) := by
  refine ⟨le_rfl, fun pos size _ => ⟨pos, ?_⟩⟩
  have hd : dropSpace (b :: t) = (b :: t, 0) := by
    simp only [dropSpace, IsSpace] at hb ⊢
    simp [hb]
  simp only [nextItem, skipSpace, ExceptT.run_bind, StateT.run_bind, run_get, id_bind, hd, run_set,
    run_pure, List.head?_cons, if_true, Nat.add_zero]

/-- A later item starts after its comma. -/
theorem nextItem_comma {b : Char} (hb : ¬ IsSpace b) (h1 : b ≠ ']') (t : List Char) :
    (nextItem false).Reads (',' :: b :: t) (b :: t) (some b) := by
  refine ⟨by simp, fun pos size _ => ⟨pos + 1, ?_⟩⟩
  have hd : dropSpace (b :: t) = (b :: t, 0) := by
    simp only [dropSpace, IsSpace] at hb ⊢
    simp [hb]
  have hc : dropSpace (',' :: b :: t) = (',' :: b :: t, 0) := by simp [dropSpace]
  simp only [nextItem, skipSpace, ExceptT.run_bind, StateT.run_bind, run_get, id_bind, hd, hc,
    run_set, run_pure, run_eat, List.head?_cons, Bool.false_eq_true, if_false, Nat.add_zero]

theorem nextKey_close (first : Bool) (t : List Char) :
    (nextKey first).Reads ('}' :: t) ('}' :: t) false :=
  ⟨le_rfl, fun pos _ _ => ⟨pos, rfl⟩⟩

theorem nextKey_first (t : List Char) : (nextKey true).Reads ('"' :: t) ('"' :: t) true :=
  ⟨le_rfl, fun pos _ _ => ⟨pos, rfl⟩⟩

theorem nextKey_comma (t : List Char) : (nextKey false).Reads (',' :: '"' :: t) ('"' :: t) true :=
  ⟨by simp, fun pos _ _ => ⟨pos + 1, rfl⟩⟩

/-! ## Characters that open values -/

theorem isDigit_ne {c d : Char} (hc : c.isDigit = true) (hd : d.isDigit = false) : c ≠ d := by
  rintro rfl
  simp [hc] at hd

theorem not_isSpace_of_isDigit {c : Char} (hc : c.isDigit = true) : ¬ IsSpace c := by
  rintro (h | h | h | h) <;> exact isDigit_ne hc (by decide) h

theorem endsNumber_of_not_digit {c : Char} (u : List Char) (h : c = ',' ∨ c = ']' ∨ c = '}') :
    EndsNumber (c :: u) := by
  rintro d w ⟨rfl, rfl⟩
  rcases h with rfl | rfl | rfl <;> decide

/-- The decimal digits of a number. -/
theorem toDigits_cons (n : Nat) : ∃ c cs, Nat.toDigits 10 n = c :: cs ∧ c.isDigit = true := by
  rcases Nat.eq_zero_or_pos n with rfl | hpos
  · exact ⟨'0', [], Nat.toDigits_zero 10, rfl⟩
  · obtain ⟨c, cs, hcs, -⟩ := toDigits_head_ne_zero n hpos
    have hmem : c ∈ Nat.toDigits 10 n := by simp [hcs]
    exact ⟨c, cs, hcs, Nat.isDigit_of_mem_toDigits (by omega) (by omega) hmem⟩

end Scan

end AgentLink.Json
