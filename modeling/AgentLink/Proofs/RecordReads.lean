import Mathlib
import AgentLink.Proofs.JsonRoundTrip
import AgentLink.Wire.MessageReader

/-!
# Reading records back

A record is read member by member: each key looked up in the record's table, refused if it came
before, and its value read by the member's own reader. This module proves the readers that
records are built from complete on the texts the writer produces: an optional value reads a
`null` as absent and anything else as present, strings, ids and signed 64-bit integers read back
as themselves, and a record written as an object, each key once, reads back as its members
applied in order (`TextRead.byName_all`, `TextRead.record_object`).
-/

namespace AgentLink

open Json Json.Scan

/-- A present `null` reads back as absent. -/
def dropNull : Option Json.Value → Option Json.Value
  | some .null => none
  | v => v

theorem dropNull_dropNull (o : Option Json.Value) : dropNull (dropNull o) = dropNull o := by
  rcases o with _ | v
  · rfl
  · cases v <;> rfl

theorem dropNull_some {v : Json.Value} (hv : v ≠ .null) : dropNull (some v) = some v := by
  cases v <;> first | rfl | exact absurd rfl hv

namespace TextRead

variable {α β σ : Type}

theorem reads_map {s : Scan α} {f : α → β} {t r : List Char} {a : α} (h : s.Reads t r a) :
    (f <$> s).Reads t r (f a) := by
  rw [map_eq_bind_pure_comp]
  exact h.bind (Reads.pure _ _)

theorem attempt_reads {s : Scan α} {t r : List Char} {a : α} (h : s.Reads t r a) :
    (attempt s).Reads t r (.ok a) := by
  refine ⟨h.1, fun pos size hs => ?_⟩
  obtain ⟨p, hp⟩ := h.2 pos size hs
  refine ⟨p, ?_⟩
  have hm : StateT.run (Except.ok <$> s : Scan (Except Fault α)) ⟨t, pos, size⟩ =
      (.ok (.ok a), ⟨r, p, size⟩) := by
    change StateT.run (ExceptT.run (Except.ok <$> s)) _ = _
    simp only [ExceptT.run_map, StateT.run_map, hp]
    rfl
  unfold attempt
  change StateT.run (ExceptT.tryCatch (Except.ok <$> s) _).run _ = _
  simp only [ExceptT.tryCatch, ExceptT.run_mk, StateT.run_bind, hm]
  rfl

/-- Reading with the fuel the text's size gives: enough for any step that needs more than the
text's length. -/
theorem fuelFor_bind {k : Nat → Scan α} {t r : List Char} {a : α} (hr : r.length ≤ t.length)
    (h : ∀ fuel, t.length < fuel → (k fuel).Reads t r a) : (fuelFor >>= k).Reads t r a := by
  rw [fuelFor, bind_assoc]
  refine Reads.get_bind hr fun pos size hs => ?_
  simp only [pure_bind]
  exact h _ (by omega)

theorem finish_reads : finish.Reads [] [] () :=
  skipSpace_end.bind (Reads.pure _ _)

/-- An optional value that does not start with `n` is present. -/
theorem optional_some {inner : Scan α} {c : Char} {t r : List Char} {a : α} (hc : ¬ IsSpace c)
    (hn : c ≠ 'n') (h : inner.Reads (c :: t) r a) : (optional inner).Reads (c :: t) r (some a) := by
  rw [optional]
  refine (skipSpace_at hc t).bind ?_
  split
  · rename_i heq
    exact absurd (Option.some.inj heq) hn
  · exact reads_map h

/-- `null` is an absent optional value. -/
theorem optional_null (inner : Scan α) (r : List Char) :
    (optional inner).Reads ('n' :: 'u' :: 'l' :: 'l' :: r) r none := by
  rw [optional]
  refine (skipSpace_at (by simp [IsSpace]) _).bind ?_
  exact (Reads.eat _ _).bind ((ident_reads ['u', 'l', 'l'] r).bind (Reads.pure _ _))

theorem text_reads (s : String) (r : List Char) : text.Reads ((quoteString s).toList ++ r) r s := by
  rw [quoteString_toList, text]
  simp only [List.cons_append, List.append_assoc]
  refine Reads.placeHere ((skipSpace_at (by simp [IsSpace]) _).bind ?_)
  exact (Reads.eat _ _).bind (string_reads s r)

/-- An optional value of the wire's type without floats reads back, a `null` as absent. -/
theorem optional_value {v : Json.Value} (hw : v.isWire = true) (hf : v.hasFloat = false)
    {fuel depth : Nat} (hd : v.depth < depth) {r : List Char}
    (hfuel : (Json.Value.render v).toList.length < fuel) (hr : EndsNumber r) :
    (optional (value fuel depth)).Reads ((Json.Value.render v).toList ++ r) r (dropNull (some v)) := by
  obtain ⟨c, cs, hcs, hsp, -, -, hnull⟩ := render_head hf
  by_cases hv : v = .null
  · subst hv
    exact optional_null _ r
  · have hread := value_render v hw hf depth hd fuel r hfuel hr
    rw [hcs, List.cons_append] at hread ⊢
    rw [dropNull_some hv]
    exact optional_some hsp (fun h => hv (hnull h)) hread

/-- An id is read back as itself: a number as a number, a string as a string. -/
theorem requestId_reads (i : RequestId) (hi : i.toValue.isWire = true) {fuel depth : Nat}
    (hd : 0 < depth) {r : List Char} (hfuel : (Json.Value.render i.toValue).toList.length < fuel)
    (hr : EndsNumber r) : (requestId fuel depth).Reads ((Json.Value.render i.toValue).toList ++ r) r i := by
  have hread := value_render i.toValue hi (by cases i <;> rfl) depth (by cases i <;> exact hd) fuel r
    hfuel hr
  rw [requestId]
  cases i with
  | num n => exact hread.bind (Reads.pure _ _)
  | text s => exact hread.bind (Reads.pure _ _)

/-- A signed 64-bit integer is read back from its decimal text. -/
theorem int64_reads {code : Int} (hlo : -(Nat.pow 2 63 : Int) ≤ code) (hhi : code < Nat.pow 2 63)
    {r : List Char} (hr : EndsNumber r) : int64.Reads ((toString code).toList ++ r) r code := by
  rw [int64]
  refine Reads.placeHere ?_
  by_cases hneg : code < 0
  · have hk : code.natAbs ≤ Nat.pow 2 63 := by omega
    have hread := number_digits hr false (hk.trans (by decide)) (afterInteger_ends hr false code.natAbs)
    rw [if_neg Bool.false_ne_true, if_pos ⟨by omega, hk⟩, show -(code.natAbs : Int) = code by omega]
      at hread
    have htext : (toString code).toList = '-' :: Nat.toDigits 10 code.natAbs := text_neg hneg
    rw [htext, List.cons_append]
    refine (skipSpace_at (by simp [IsSpace]) _).bind ((Reads.eat _ _).bind (hread.bind ?_))
    exact Reads.pure _ _
  · have hk : code.toNat ≤ i64Max := by
      simp only [i64Max]
      omega
    obtain ⟨c, cs, hcs, hc⟩ := toDigits_cons code.toNat
    have hread := number_digits hr true (hk.trans (by decide)) (afterInteger_ends hr true code.toNat)
    rw [if_pos rfl, hcs, List.cons_append] at hread
    have htext : (toString code).toList = Nat.toDigits 10 code.toNat := text_neg_nonneg hneg
    rw [htext, hcs, List.cons_append]
    refine (skipSpace_at (not_isSpace_of_isDigit hc) _).bind ?_
    have hminus := isDigit_ne hc (d := '-') (by decide)
    simp only [hc, if_true]
    refine hread.bind ?_
    simp only [Number.toI64, hk, if_true, Int.toNat_of_nonneg (Int.not_lt.1 hneg)]
    exact Reads.pure _ _

/-- A body and a closing step that both succeed give the body's result. -/
theorem closedBy_reads {body : Scan α} {close : Scan Unit} {t t' r : List Char} {a : α}
    (hb : body.Reads t t' a) (hc : close.Reads t' r ()) : (closedBy body close).Reads t r a :=
  (attempt_reads hb).bind ((attempt_reads hc).bind (Reads.pure _ _))

/-- A record written as an object is read by its members, up to the closing brace. -/
theorem record_object {name : String} {members : List (Member σ)} {init : σ} {fuel depth : Nat}
    {t r : List Char} {a : σ} (hd : 1 < depth)
    (hb : (byName members (depth - 1) fuel true [] init).Reads t ('}' :: r) a) :
    (record name members init fuel depth).Reads ('{' :: t) r a := by
  rw [record]
  refine Reads.placeHere ((skipSpace_at (by simp [IsSpace]) t).bind ?_)
  exact (nest_reads hd '{' t).bind (closedBy_reads hb (endObject_reads r))

/-- A member as it is written in a record's text: its key, the text of its value, and what
reading that value back makes of the record. -/
structure Entry (σ : Type) where
  key : String
  text : String
  set : σ → σ

/-- The characters of a member: its quoted key, a colon and its value's text. -/
def Entry.chars (f : Entry σ) : List Char := (quoteString f.key).toList ++ ':' :: f.text.toList

/-- The record's table has a member of this key, and it reads the value's text back into what
the field says, from fuel beyond the text's length and whatever follows that a number cannot go
on into. -/
def Entry.ReadsIn (members : List (Member σ)) (depth : Nat) (f : Entry σ) : Prop :=
  ∃ mem, members.find? (·.name == f.key) = some mem ∧
    ∀ fuel x r, f.text.length < fuel → EndsNumber r →
      (mem.read fuel depth x).Reads (f.text.toList ++ r) r (f.set x)

section Members

variable {members : List (Member σ)} {depth : Nat} {r : List Char}

/-- The members after the first are read one per comma, up to the closing brace; each key is
new, so none is refused as a repeat. -/
theorem byName_rest : ∀ (fs : List (Entry σ)) (seen : List String) (x : σ) (fuel : Nat),
    (∀ f ∈ fs, f.ReadsIn members depth) → (fs.map Entry.key).Nodup → (∀ f ∈ fs, f.key ∉ seen) →
    (fs.flatMap fun f => ',' :: f.chars).length < fuel →
    (byName members depth fuel false seen x).Reads ((fs.flatMap fun f => ',' :: f.chars) ++ '}' :: r)
      ('}' :: r) (fs.foldl (fun x f => f.set x) x)
  | [], seen, x, f + 1, _, _, _, _ => by
    rw [byName]
    exact (nextKey_close false r).bind (Reads.pure _ _)
  | fd :: fs, seen, x, f + 1, hread, hnodup, hseen, hlen => by
    obtain ⟨mem, hfind, hmem⟩ := hread fd List.mem_cons_self
    rw [List.map_cons, List.nodup_cons] at hnodup
    have hlen' : fd.text.length < f ∧ (fs.flatMap fun f => ',' :: f.chars).length < f := by
      simp only [Entry.chars, List.flatMap_cons, List.length_append, List.length_cons,
        String.length_toList] at hlen ⊢
      omega
    have hnew : seen.contains fd.key = false := by
      simpa using hseen fd List.mem_cons_self
    have htext : (fd :: fs).flatMap (fun f => ',' :: f.chars) ++ '}' :: r =
        ',' :: '"' :: (escaped fd.key.toList ++ '"' :: ':' ::
          (fd.text.toList ++ ((fs.flatMap fun f => ',' :: f.chars) ++ '}' :: r))) := by
      simp [Entry.chars, quoteString_toList]
    rw [htext, byName]
    refine (nextKey_comma _).bind ?_
    refine (Reads.eat _ _).bind ((string_reads fd.key _).bind ?_)
    simp only [hfind, hnew, Bool.false_eq_true, if_false]
    refine (Reads.pure _ _).bind ((colon_reads _).bind ((hmem f x _ hlen'.1 ?_).bind ?_))
    · cases fs <;> exact endsNumber_of_not_digit _ (by simp)
    · refine byName_rest fs (fd.key :: seen) (fd.set x) f
        (fun g hg => hread g (List.mem_cons_of_mem _ hg)) hnodup.2 (fun g hg => ?_) hlen'.2
      rw [List.mem_cons, not_or]
      exact ⟨fun h => hnodup.1 (h ▸ List.mem_map_of_mem hg), hseen g (List.mem_cons_of_mem _ hg)⟩

theorem intercalate_comma (c : List Char) (cs : List (List Char)) :
    [','].intercalate (c :: cs) = c ++ cs.flatMap (',' :: ·) := by
  induction cs generalizing c with
  | nil => simp
  | cons d ds ih => rw [List.intercalate_cons_cons, ih]; simp

/-- A record's members are read up to its closing brace, each key given once. -/
theorem byName_all (fs : List (Entry σ)) (x : σ) (fuel : Nat)
    (hread : ∀ f ∈ fs, f.ReadsIn members depth) (hnodup : (fs.map Entry.key).Nodup)
    (hlen : ([','].intercalate (fs.map Entry.chars)).length + 1 < fuel) :
    (byName members depth fuel true [] x).Reads
      ([','].intercalate (fs.map Entry.chars) ++ '}' :: r) ('}' :: r)
      (fs.foldl (fun x f => f.set x) x) := by
  obtain ⟨f, rfl⟩ : ∃ f, fuel = f + 1 := ⟨fuel - 1, by omega⟩
  cases fs with
  | nil =>
    rw [byName]
    exact (nextKey_close true r).bind (Reads.pure _ _)
  | cons fd fs =>
    obtain ⟨mem, hfind, hmem⟩ := hread fd List.mem_cons_self
    rw [List.map_cons, List.nodup_cons] at hnodup
    rw [List.map_cons, intercalate_comma, List.flatMap_map] at hlen ⊢
    have hlen' : fd.text.length < f ∧ (fs.flatMap fun f => ',' :: f.chars).length < f := by
      simp only [Entry.chars, List.length_append, List.length_cons, String.length_toList] at hlen ⊢
      omega
    have htext : fd.chars ++ (fs.flatMap fun f => ',' :: f.chars) ++ '}' :: r =
        '"' :: (escaped fd.key.toList ++ '"' :: ':' ::
          (fd.text.toList ++ ((fs.flatMap fun f => ',' :: f.chars) ++ '}' :: r))) := by
      simp [Entry.chars, quoteString_toList]
    rw [htext, byName]
    refine (nextKey_first _).bind ?_
    refine (Reads.eat _ _).bind ((string_reads fd.key _).bind ?_)
    simp only [hfind, List.contains_nil, Bool.false_eq_true, if_false]
    refine (Reads.pure _ _).bind ((colon_reads _).bind ((hmem f x _ hlen'.1 ?_).bind ?_))
    · cases fs <;> exact endsNumber_of_not_digit _ (by simp)
    · exact byName_rest fs [fd.key] (fd.set x) f (fun g hg => hread g (List.mem_cons_of_mem _ hg))
        hnodup.2 (fun g hg h => hnodup.1 (List.mem_singleton.1 h ▸ List.mem_map_of_mem hg)) hlen'.2

end Members

end TextRead

end AgentLink
