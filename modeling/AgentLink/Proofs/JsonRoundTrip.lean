import Mathlib
import AgentLink.Proofs.ScanReads

/-!
# Reading back the writer's JSON text

Every value of the wire's type (`Value.isWire`: integers in the ranges of the wire's number
type, objects with strictly increasing keys) without floats is read back from its compact text
(`Scan.value_render`), given fuel beyond the text's length and more nesting levels than the
value's depth (`Value.depth`). The proof is one nesting level at a time (`value_render_step`),
by well-founded recursion on the value; arrays and objects are read item by item and member by
member. The text of such a value holds no line end (`newline_not_mem_render`).
-/

namespace AgentLink.Json

/-! ## Values of the wire's type -/

/-- Whether a number is one the wire's number type holds: an unsigned integer below `2^64`, a
negative integer down to `-2^63`, or a finite float. -/
def Number.isWire : Number → Bool
  | .nat n => decide (n ≤ Scan.u64Max)
  | .neg i => decide (-(Nat.pow 2 63 : Int) ≤ i ∧ i < 0)
  | .float x => x.isFinite

namespace Value

mutual
/-- Whether a value is one the wire's value type holds: numbers in their ranges, and every
object a map, its keys strictly increasing. -/
def isWire : Value → Bool
  | .number n => n.isWire
  | .array xs => itemsWire xs
  | .object kvs => decide (kvs.Pairwise fun a b => keyBefore a.1 b.1 = true) && fieldsWire kvs
  | _ => true
/-- Whether every item is of the wire's type. -/
def itemsWire : List Value → Bool
  | [] => true
  | x :: xs => isWire x && itemsWire xs
/-- Whether every member's value is of the wire's type. -/
def fieldsWire : List (String × Value) → Bool
  | [] => true
  | (_, v) :: kvs => isWire v && fieldsWire kvs
end

mutual
/-- Whether a float occurs anywhere in a value. -/
def hasFloat : Value → Bool
  | .number (.float _) => true
  | .array xs => itemsHaveFloat xs
  | .object kvs => fieldsHaveFloat kvs
  | _ => false
/-- Whether a float occurs in some item. -/
def itemsHaveFloat : List Value → Bool
  | [] => false
  | x :: xs => hasFloat x || itemsHaveFloat xs
/-- Whether a float occurs in some member's value. -/
def fieldsHaveFloat : List (String × Value) → Bool
  | [] => false
  | (_, v) :: kvs => hasFloat v || fieldsHaveFloat kvs
end

mutual
/-- How deeply arrays and objects nest in a value: none for a scalar. -/
def depth : Value → Nat
  | .array xs => depthItems xs + 1
  | .object kvs => depthFields kvs + 1
  | _ => 0
/-- The deepest nesting among items. -/
def depthItems : List Value → Nat
  | [] => 0
  | x :: xs => max (depth x) (depthItems xs)
/-- The deepest nesting among members' values. -/
def depthFields : List (String × Value) → Nat
  | [] => 0
  | (_, v) :: kvs => max (depth v) (depthFields kvs)
end

theorem itemsWire_iff : ∀ {xs : List Value}, itemsWire xs = true ↔ ∀ x ∈ xs, isWire x = true
  | [] => by simp [itemsWire]
  | x :: xs => by simp [itemsWire, itemsWire_iff]

theorem fieldsWire_iff : ∀ {kvs : List (String × Value)},
    fieldsWire kvs = true ↔ ∀ kv ∈ kvs, isWire kv.2 = true
  | [] => by simp [fieldsWire]
  | (k, v) :: kvs => by simp [fieldsWire, fieldsWire_iff]

theorem itemsHaveFloat_eq_false : ∀ {xs : List Value},
    itemsHaveFloat xs = false ↔ ∀ x ∈ xs, hasFloat x = false
  | [] => by simp [itemsHaveFloat]
  | x :: xs => by simp [itemsHaveFloat, itemsHaveFloat_eq_false]

theorem fieldsHaveFloat_eq_false : ∀ {kvs : List (String × Value)},
    fieldsHaveFloat kvs = false ↔ ∀ kv ∈ kvs, hasFloat kv.2 = false
  | [] => by simp [fieldsHaveFloat]
  | (k, v) :: kvs => by simp [fieldsHaveFloat, fieldsHaveFloat_eq_false]

theorem depth_le_depthItems : ∀ {xs : List Value} {x : Value}, x ∈ xs → depth x ≤ depthItems xs
  | y :: ys, x, h => by
    rcases List.mem_cons.1 h with rfl | h
    · exact le_max_left _ _
    · exact (depth_le_depthItems h).trans (le_max_right _ _)

theorem depth_le_depthFields : ∀ {kvs : List (String × Value)} {kv : String × Value}, kv ∈ kvs →
    depth kv.2 ≤ depthFields kvs
  | (k, v) :: kvs, kv, h => by
    rcases List.mem_cons.1 h with rfl | h
    · exact le_max_left _ _
    · exact (depth_le_depthFields h).trans (le_max_right _ _)

end Value

/-! ## Maps keep their order -/

namespace Value

theorem charsBefore_irrefl : ∀ a : List Char, charsBefore a a = false
  | [] => rfl
  | c :: cs => by simp [charsBefore, charsBefore_irrefl cs]

theorem charsBefore_asymm : ∀ {a b : List Char}, charsBefore a b = true → charsBefore b a = false
  | [], [], h => by simp [charsBefore] at h
  | [], _ :: _, _ => rfl
  | _ :: _, [], h => by simp [charsBefore] at h
  | x :: xs, y :: ys, h => by
    unfold charsBefore at h ⊢
    by_cases hxy : x < y
    · have hyx : ¬ y < x := fun h' => absurd (lt_trans hxy h') (lt_irrefl x)
      have hne : y ≠ x := fun e => by subst e; exact lt_irrefl _ hxy
      simp [hyx, hne]
    · by_cases he : x = y
      · subst he
        simp only [lt_irrefl, if_false, if_true] at h ⊢
        exact charsBefore_asymm h
      · simp [hxy, he] at h

theorem keyBefore_ne {a b : String} (h : keyBefore a b = true) : a ≠ b := by
  rintro rfl
  simp [keyBefore, charsBefore_irrefl] at h

theorem keepLast_of_pairwise : ∀ {kvs : List (String × Value)},
    kvs.Pairwise (fun a b => keyBefore a.1 b.1 = true) → keepLast kvs = kvs
  | [], _ => rfl
  | [_], _ => rfl
  | kv :: kv' :: rest, h => by
    have hne : kv.1 ≠ kv'.1 := keyBefore_ne (List.rel_of_pairwise_cons h (by simp))
    rw [keepLast, if_neg hne, keepLast_of_pairwise (List.Pairwise.of_cons h)]

/-- A map's members are already in the order the reader sorts them into. -/
theorem sortFields_of_pairwise {kvs : List (String × Value)}
    (h : kvs.Pairwise (fun a b => keyBefore a.1 b.1 = true)) : sortFields kvs = kvs := by
  have hle : kvs.Pairwise (fun a b => (!keyBefore b.1 a.1) = true) :=
    h.imp fun hab => by simp [keyBefore] at hab ⊢; exact charsBefore_asymm hab
  rw [sortFields, List.mergeSort_of_pairwise hle, keepLast_of_pairwise h]

end Value

namespace Scan

open Json.Value

/-! ## The text of a value -/

theorem text_nat (n : Nat) : (Number.text (.nat n)).toList = Nat.toDigits 10 n := by
  simp [Number.text, Nat.toList_repr]

theorem text_neg {i : Int} (h : i < 0) :
    (Number.text (.neg i)).toList = '-' :: Nat.toDigits 10 i.natAbs := by
  have hn : (-i).toNat = i.natAbs := by omega
  simp [Number.text, Int.repr_eq_if, Int.not_le.2 h, hn, String.toList_append, Nat.toList_repr]

theorem text_neg_nonneg {i : Int} (h : ¬ i < 0) :
    (Number.text (.neg i)).toList = Nat.toDigits 10 i.toNat := by
  simp [Number.text, Int.repr_eq_if, Int.not_lt.1 h, Nat.toList_repr]

/-- The items after the first, each after its comma. -/
def commaItems (xs : List Value) : List Char := xs.flatMap fun x => ',' :: (render x).toList

/-- A member as written: its quoted key, a colon and its value. -/
def fieldText (kv : String × Value) : List Char := (quoteString kv.1).toList ++ ':' :: (render kv.2).toList

/-- The members after the first, each after its comma. -/
def commaFields (kvs : List (String × Value)) : List Char := kvs.flatMap fun kv => ',' :: fieldText kv

theorem renderItems_cons (x : Value) (xs : List Value) :
    (renderItems (x :: xs)).toList = (render x).toList ++ commaItems xs := by
  induction xs generalizing x with
  | nil => simp [renderItems, commaItems]
  | cons y ys ih =>
    simp only [renderItems, String.toList_append, ih y]
    simp [commaItems]

theorem renderFields_cons (kv : String × Value) (kvs : List (String × Value)) :
    (renderFields (kv :: kvs)).toList = fieldText kv ++ commaFields kvs := by
  induction kvs generalizing kv with
  | nil => simp [renderFields, commaFields, fieldText, String.toList_append]
  | cons kv' kvs ih =>
    obtain ⟨k, v⟩ := kv
    simp only [renderFields, String.toList_append, ih kv']
    simp [commaFields, fieldText]

theorem render_array (xs : List Value) :
    (render (.array xs)).toList = '[' :: (renderItems xs).toList ++ [']'] := by
  simp [render, String.toList_append]

theorem render_object (kvs : List (String × Value)) :
    (render (.object kvs)).toList = '{' :: (renderFields kvs).toList ++ ['}'] := by
  simp [render, String.toList_append]

/-- The text of a value without floats starts with a character that opens a value, an `n`
only for `null`. -/
theorem render_head {v : Value} (hf : v.hasFloat = false) :
    ∃ c cs, (render v).toList = c :: cs ∧ ¬ IsSpace c ∧ c ≠ ']' ∧ c ≠ ',' ∧ (c = 'n' → v = .null) := by
  cases v with
  | null => exact ⟨'n', _, rfl, by simp [IsSpace], by decide, by decide, fun _ => rfl⟩
  | bool b =>
    cases b
    · exact ⟨'f', _, rfl, by simp [IsSpace], by decide, by decide, by decide⟩
    · exact ⟨'t', _, rfl, by simp [IsSpace], by decide, by decide, by decide⟩
  | number n =>
    cases n with
    | nat k =>
      obtain ⟨c, cs, hcs, hc⟩ := toDigits_cons k
      exact ⟨c, cs, by rw [render, text_nat, hcs], not_isSpace_of_isDigit hc,
        isDigit_ne hc (by decide), isDigit_ne hc (by decide),
        fun h => absurd h (isDigit_ne hc (by decide))⟩
    | neg i =>
      by_cases hi : i < 0
      · exact ⟨'-', _, by rw [render, text_neg hi], by simp [IsSpace], by decide, by decide,
          fun h => absurd h (by decide)⟩
      · obtain ⟨c, cs, hcs, hc⟩ := toDigits_cons i.toNat
        exact ⟨c, cs, by rw [render, text_neg_nonneg hi, hcs], not_isSpace_of_isDigit hc,
          isDigit_ne hc (by decide), isDigit_ne hc (by decide),
          fun h => absurd h (isDigit_ne hc (by decide))⟩
    | float x => simp [hasFloat] at hf
  | string s =>
    exact ⟨'"', _, by rw [render, quoteString_toList]; rfl, by simp [IsSpace], by decide,
      by decide, fun h => absurd h (by decide)⟩
  | array xs =>
    exact ⟨'[', _, by rw [render_array]; rfl, by simp [IsSpace], by decide, by decide,
      fun h => absurd h (by decide)⟩
  | object kvs =>
    exact ⟨'{', _, by rw [render_object]; rfl, by simp [IsSpace], by decide, by decide,
      fun h => absurd h (by decide)⟩

/-! ## Reading a value back -/

/-- Reading a value back from its text with `depth` nesting levels, whatever follows that a
number cannot go on into. -/
def ReadsAt (depth : Nat) (v : Value) : Prop :=
  ∀ fuel r, (render v).toList.length < fuel → EndsNumber r →
    (value fuel depth).Reads ((render v).toList ++ r) r v

section Lists

variable {depth : Nat} {r : List Char}

/-- The items after the first are read one per comma, up to the closing bracket. -/
theorem items_rest : ∀ (xs acc : List Value) (fuel : Nat),
    (∀ x ∈ xs, x.hasFloat = false ∧ ReadsAt depth x) → (commaItems xs).length < fuel →
    (items fuel depth false acc).Reads (commaItems xs ++ ']' :: r) (']' :: r) (acc.reverse ++ xs)
  | [], acc, f + 1, _, _ => by
    rw [items, List.append_nil]
    exact (nextItem_close false r).bind (Reads.pure _ _)
  | x :: xs, acc, f + 1, h, hlen => by
    obtain ⟨hxf, hx⟩ := h x List.mem_cons_self
    obtain ⟨c, cs, hcs, hsp, hb, -⟩ := render_head hxf
    have hlen' : (render x).toList.length < f ∧ (commaItems xs).length < f := by
      simp only [commaItems, List.flatMap_cons, List.length_append, List.length_cons] at hlen ⊢
      omega
    have htext : commaItems (x :: xs) ++ ']' :: r = ',' :: c :: (cs ++ (commaItems xs ++ ']' :: r)) := by
      simp [commaItems, hcs]
    rw [htext, items]
    refine (nextItem_comma hsp hb _).bind ?_
    rw [← List.cons_append, ← hcs]
    refine (hx f _ hlen'.1 ?_).bind ?_
    · cases xs <;> exact endsNumber_of_not_digit _ (by simp)
    · have := items_rest xs (x :: acc) f (fun y hy => h y (List.mem_cons_of_mem x hy)) hlen'.2
      simpa using this

/-- An array's items are read up to its closing bracket. -/
theorem items_all (xs : List Value) (fuel : Nat) (h : ∀ x ∈ xs, x.hasFloat = false ∧ ReadsAt depth x)
    (hlen : (renderItems xs).toList.length + 1 < fuel) :
    (items fuel depth true []).Reads ((renderItems xs).toList ++ ']' :: r) (']' :: r) xs := by
  obtain ⟨f, rfl⟩ : ∃ f, fuel = f + 1 := ⟨fuel - 1, by omega⟩
  cases xs with
  | nil =>
    rw [items]
    exact (nextItem_close true r).bind (Reads.pure _ _)
  | cons x xs =>
    obtain ⟨hxf, hx⟩ := h x List.mem_cons_self
    obtain ⟨c, cs, hcs, hsp, hb, hcomma, -⟩ := render_head hxf
    rw [renderItems_cons] at hlen ⊢
    simp only [List.length_append] at hlen
    rw [items, hcs, List.cons_append, List.cons_append]
    refine (nextItem_first hsp hb hcomma _).bind ?_
    rw [← List.cons_append, ← List.cons_append, ← hcs, List.append_assoc]
    refine (hx f _ (by omega) ?_).bind ?_
    · cases xs <;> exact endsNumber_of_not_digit _ (by simp)
    · simpa using items_rest xs [x] f (fun y hy => h y (List.mem_cons_of_mem x hy)) (by omega)

/-- The members after the first are read one per comma, up to the closing brace, last first. -/
theorem members_rest : ∀ (kvs acc : List (String × Value)) (fuel : Nat),
    (∀ kv ∈ kvs, ReadsAt depth kv.2) → (commaFields kvs).length < fuel →
    (members fuel depth false acc).Reads (commaFields kvs ++ '}' :: r) ('}' :: r) (kvs.reverse ++ acc)
  | [], acc, f + 1, _, _ => by
    rw [members]
    exact (nextKey_close false r).bind (Reads.pure _ _)
  | (k, v) :: kvs, acc, f + 1, h, hlen => by
    have hv : ReadsAt depth v := h (k, v) List.mem_cons_self
    have hlen' : (render v).toList.length < f ∧ (commaFields kvs).length < f := by
      simp only [commaFields, fieldText, List.flatMap_cons, List.length_append,
        List.length_cons] at hlen ⊢
      omega
    have htext : commaFields ((k, v) :: kvs) ++ '}' :: r =
        ',' :: '"' :: (escaped k.toList ++ '"' :: ':' :: ((render v).toList ++ (commaFields kvs ++ '}' :: r))) := by
      simp [commaFields, fieldText, quoteString_toList]
    rw [htext, members]
    refine (nextKey_comma _).bind ?_
    refine (Reads.eat _ _).bind ((string_reads k _).bind ((colon_reads _).bind ?_))
    refine (hv f _ hlen'.1 ?_).bind ?_
    · cases kvs <;> exact endsNumber_of_not_digit _ (by simp)
    · simpa using members_rest kvs ((k, v) :: acc) f (fun kv hkv => h kv (List.mem_cons_of_mem _ hkv)) hlen'.2

/-- An object's members are read up to its closing brace, last first. -/
theorem members_all (kvs : List (String × Value)) (fuel : Nat) (h : ∀ kv ∈ kvs, ReadsAt depth kv.2)
    (hlen : (renderFields kvs).toList.length + 1 < fuel) :
    (members fuel depth true []).Reads ((renderFields kvs).toList ++ '}' :: r) ('}' :: r) kvs.reverse := by
  obtain ⟨f, rfl⟩ : ∃ f, fuel = f + 1 := ⟨fuel - 1, by omega⟩
  cases kvs with
  | nil =>
    rw [members]
    exact (nextKey_close true r).bind (Reads.pure _ _)
  | cons kv kvs =>
    obtain ⟨k, v⟩ := kv
    have hv : ReadsAt depth v := h (k, v) List.mem_cons_self
    rw [renderFields_cons] at hlen ⊢
    simp only [fieldText, List.length_append, List.length_cons] at hlen
    have htext : fieldText (k, v) ++ commaFields kvs ++ '}' :: r =
        '"' :: (escaped k.toList ++ '"' :: ':' :: ((render v).toList ++ (commaFields kvs ++ '}' :: r))) := by
      simp [fieldText, quoteString_toList]
    rw [htext, members]
    refine (nextKey_first _).bind ?_
    refine (Reads.eat _ _).bind ((string_reads k _).bind ((colon_reads _).bind ?_))
    refine (hv f _ (by omega) ?_).bind ?_
    · cases kvs <;> exact endsNumber_of_not_digit _ (by simp)
    · simpa using members_rest kvs [(k, v)] f (fun kv hkv => h kv (List.mem_cons_of_mem _ hkv)) (by omega)

end Lists

/-- One nesting level of reading back: a value is read back from its text when the values it
holds are, one level down. -/
theorem value_render_step (v : Value) (hw : v.isWire = true) (hf : v.hasFloat = false) {depth : Nat}
    (hd : v.depth < depth) (ih : ∀ x : Value, sizeOf x < sizeOf v → x.isWire = true →
      x.hasFloat = false → x.depth < depth - 1 → ReadsAt (depth - 1) x) :
    ReadsAt depth v := by
  intro fuel r hfuel hr
  obtain ⟨f, rfl⟩ : ∃ f, fuel = f + 1 := ⟨fuel - 1, by omega⟩
  rw [value]
  apply Reads.placeHere
  cases v with
  | null =>
    rw [show (render .null).toList = ['n', 'u', 'l', 'l'] from rfl]
    refine (skipSpace_at (by simp [IsSpace]) _).bind ?_
    exact (Reads.eat _ _).bind ((ident_reads _ _).bind (Reads.pure _ _))
  | bool b =>
    cases b
    · rw [show (render (.bool false)).toList = ['f', 'a', 'l', 's', 'e'] from rfl]
      refine (skipSpace_at (by simp [IsSpace]) _).bind ?_
      exact (Reads.eat _ _).bind ((ident_reads _ _).bind (Reads.pure _ _))
    · rw [show (render (.bool true)).toList = ['t', 'r', 'u', 'e'] from rfl]
      refine (skipSpace_at (by simp [IsSpace]) _).bind ?_
      exact (Reads.eat _ _).bind ((ident_reads _ _).bind (Reads.pure _ _))
  | number n =>
    cases n with
    | nat k =>
      have hk : k ≤ u64Max := by simpa [isWire, Number.isWire] using hw
      obtain ⟨c, cs, hcs, hc⟩ := toDigits_cons k
      have hread := number_digits hr true hk (afterInteger_ends hr true k)
      rw [if_pos rfl, hcs, List.cons_append] at hread
      rw [render, text_nat, hcs, List.cons_append]
      refine (skipSpace_at (not_isSpace_of_isDigit hc) _).bind ?_
      -- the digit is none of the characters that open other values
      have h1 := isDigit_ne hc (d := 'n') (by decide)
      have h2 := isDigit_ne hc (d := 't') (by decide)
      have h3 := isDigit_ne hc (d := 'f') (by decide)
      have h4 := isDigit_ne hc (d := '-') (by decide)
      have h5 := isDigit_ne hc (d := '"') (by decide)
      have h6 := isDigit_ne hc (d := '[') (by decide)
      have h7 := isDigit_ne hc (d := '{') (by decide)
      simp only [hc, if_true]
      exact hread.bind (Reads.pure _ _)
    | neg i =>
      have hi : -(Nat.pow 2 63 : Int) ≤ i ∧ i < 0 := by simpa [isWire, Number.isWire] using hw
      have hk : i.natAbs ≤ Nat.pow 2 63 := by omega
      have hread := number_digits hr false (hk.trans (by decide)) (afterInteger_ends hr false i.natAbs)
      rw [if_neg Bool.false_ne_true, if_pos ⟨by omega, hk⟩, show -(i.natAbs : Int) = i by omega]
        at hread
      rw [render, text_neg hi.2, List.cons_append]
      refine (skipSpace_at (by simp [IsSpace]) _).bind ?_
      exact (Reads.eat _ _).bind (hread.bind (Reads.pure _ _))
    | float x => simp [hasFloat] at hf
  | string s =>
    rw [render, quoteString_toList]
    simp only [List.cons_append, List.append_assoc]
    refine (skipSpace_at (by simp [IsSpace]) _).bind ?_
    exact (Reads.eat _ _).bind ((string_reads s r).bind (Reads.pure _ _))
  | array xs =>
    have hw' : ∀ x ∈ xs, x.isWire = true := itemsWire_iff.1 (by simpa [isWire] using hw)
    have hf' : ∀ x ∈ xs, x.hasFloat = false :=
      itemsHaveFloat_eq_false.1 (by simpa [hasFloat] using hf)
    have hd' : depthItems xs + 1 < depth := by simpa [Value.depth] using hd
    have hlen : (renderItems xs).toList.length + 1 < f := by
      simp only [render_array, List.length_cons, List.length_append] at hfuel
      simp at hfuel
      omega
    rw [render_array]
    simp only [List.cons_append, List.append_assoc]
    refine (skipSpace_at (by simp [IsSpace]) _).bind ?_
    have hsize : ∀ x ∈ xs, sizeOf x < sizeOf (Value.array xs) := fun x hx => by
      have := List.sizeOf_lt_of_mem hx
      simp only [Value.array.sizeOf_spec]
      omega
    refine (nest_reads (by omega) '[' _).bind ((items_all xs f (fun x hx => ⟨hf' x hx,
      ih x (hsize x hx) (hw' x hx) (hf' x hx) ?_⟩) hlen).bind
      ((endArray_reads r).bind (Reads.pure _ _)))
    have := depth_le_depthItems hx
    omega
  | object kvs =>
    have hw2 : (kvs.Pairwise fun a b => keyBefore a.1 b.1 = true) ∧ fieldsWire kvs = true := by
      simpa [isWire] using hw
    have hw' : ∀ kv ∈ kvs, kv.2.isWire = true := fieldsWire_iff.1 hw2.2
    have hf' : ∀ kv ∈ kvs, kv.2.hasFloat = false :=
      fieldsHaveFloat_eq_false.1 (by simpa [hasFloat] using hf)
    have hd' : depthFields kvs + 1 < depth := by simpa [Value.depth] using hd
    have hlen : (renderFields kvs).toList.length + 1 < f := by
      simp only [render_object, List.length_cons, List.length_append] at hfuel
      simp at hfuel
      omega
    rw [render_object]
    simp only [List.cons_append, List.append_assoc]
    refine (skipSpace_at (by simp [IsSpace]) _).bind ?_
    have hsize : ∀ kv ∈ kvs, sizeOf kv.2 < sizeOf (Value.object kvs) := fun kv hkv => by
      have := List.sizeOf_lt_of_mem hkv
      obtain ⟨k, v⟩ := kv
      simp only [Value.object.sizeOf_spec, Prod.mk.sizeOf_spec] at this ⊢
      omega
    refine (nest_reads (by omega) '{' _).bind ((members_all kvs f (fun kv hkv =>
      ih kv.2 (hsize kv hkv) (hw' kv hkv) (hf' kv hkv) ?_) hlen).bind
      ((endObject_reads r).bind ?_))
    · have := depth_le_depthFields hkv
      omega
    · rw [List.reverse_reverse, sortFields_of_pairwise hw2.1]
      exact Reads.pure _ _

/-- A value of the wire's type without floats is read back from its compact text, given fuel
beyond the text's length and nesting levels beyond the value's depth, whatever follows that a
number cannot go on into. -/
theorem value_render (v : Value) (hw : v.isWire = true) (hf : v.hasFloat = false) (depth : Nat)
    (hd : v.depth < depth) : ReadsAt depth v :=
  value_render_step v hw hf hd fun x _ hw' hf' hd' => value_render x hw' hf' (depth - 1) hd'
termination_by v

/-! ## No line ends in a value's text -/

theorem newline_not_mem_toDigits (n : Nat) : '\n' ∉ Nat.toDigits 10 n := fun h =>
  absurd (Nat.isDigit_of_mem_toDigits (by omega) (by omega) h) (by decide)

theorem newline_not_mem_escapeChar (c : Char) : '\n' ∉ (escapeChar c).toList := by
  unfold escapeChar
  split_ifs with h1 h2 h3 h4 h5 h6 h7 h8
  any_goals decide
  · -- a control character as `\u00` and two hex digits, none of them a line end
    have hx := hexVal_hexPair c.toNat h3
    have hdig : '\n' ∉ hexPair c.toNat := fun h => by
      have := List.mem_map_of_mem (f := hexVal) h
      rw [hx] at this
      simp [show hexVal '\n' = none by decide] at this
    simpa [String.toList_append, hexPair] using hdig
  · have hc : c ≠ '\n' := by
      rintro rfl
      exact h3 (by decide)
    simpa [String.toList_singleton] using hc.symm

theorem newline_not_mem_quoteString (s : String) : '\n' ∉ (quoteString s).toList := by
  have hesc : '\n' ∉ escaped s.toList := fun h => by
    obtain ⟨c, -, hc⟩ := List.mem_flatMap.1 h
    exact newline_not_mem_escapeChar c hc
  simp [quoteString_toList, hesc]

mutual
theorem newline_not_mem_render : ∀ v : Value, v.hasFloat = false → '\n' ∉ (render v).toList
  | .null, _ => by decide
  | .bool b, _ => by cases b <;> decide
  | .number (.nat n), _ => by rw [render, text_nat]; exact newline_not_mem_toDigits n
  | .number (.neg i), _ => by
    by_cases hi : i < 0
    · rw [render, text_neg hi]
      simpa using newline_not_mem_toDigits i.natAbs
    · rw [render, text_neg_nonneg hi]
      exact newline_not_mem_toDigits i.toNat
  | .number (.float _), h => by simp [hasFloat] at h
  | .string s, _ => newline_not_mem_quoteString s
  | .array xs, h => by
    rw [render_array]
    simpa using newline_not_mem_renderItems xs (by simpa [hasFloat] using h)
  | .object kvs, h => by
    rw [render_object]
    simpa using newline_not_mem_renderFields kvs (by simpa [hasFloat] using h)
theorem newline_not_mem_renderItems : ∀ xs : List Value, itemsHaveFloat xs = false →
    '\n' ∉ (renderItems xs).toList
  | [], _ => by simp [renderItems]
  | [x], h => by
    rw [renderItems]
    exact newline_not_mem_render x (by simpa [itemsHaveFloat] using h)
  | x :: y :: ys, h => by
    rw [itemsHaveFloat, Bool.or_eq_false_iff] at h
    simp only [renderItems, String.toList_append, List.mem_append, not_or]
    exact ⟨⟨newline_not_mem_render x h.1, by decide⟩, newline_not_mem_renderItems (y :: ys) h.2⟩
theorem newline_not_mem_renderFields : ∀ kvs : List (String × Value), fieldsHaveFloat kvs = false →
    '\n' ∉ (renderFields kvs).toList
  | [], _ => by simp [renderFields]
  | [(k, v)], h => by
    rw [fieldsHaveFloat, Bool.or_eq_false_iff] at h
    simp only [renderFields, String.toList_append, List.mem_append, not_or]
    exact ⟨⟨newline_not_mem_quoteString k, by decide⟩, newline_not_mem_render v h.1⟩
  | (k, v) :: kv :: kvs, h => by
    rw [fieldsHaveFloat, Bool.or_eq_false_iff] at h
    simp only [renderFields, String.toList_append, List.mem_append, not_or]
    exact ⟨⟨⟨⟨newline_not_mem_quoteString k, by decide⟩, newline_not_mem_render v h.1⟩, by decide⟩,
      newline_not_mem_renderFields (kv :: kvs) h.2⟩
end

end Scan

end AgentLink.Json
