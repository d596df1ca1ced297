import AgentLink.Text.CharClass

/-!
# Regular expressions over bytes

A `Regex` matches a span of a line of bytes. It is matched by the set of all its ways of
matching: from a starting position, `Regex.ends` gives every thread (a position with the spans
of the groups seen so far) at which some way of matching can end. A line matches when some
start has a nonempty set, and the match the search programs report is the longest one at the
leftmost start that has one, the standard's leftmost-longest rule; both only ask which ends
exist, so no order of trying is needed.

Group spans are kept only when a back-reference needs them; without them threads differ only in
position, and a repetition is the closure of its body's steps, found breadth first, at most one
round per position of the line.
-/

namespace AgentLink

/-! ## Sets of bytes -/

/-- A set of bytes: the bytes in some ranges (both ends included), or with `negated` the bytes
outside them. -/
structure ByteSet where
  ranges : List (UInt8 × UInt8)
  negated : Bool

/-- The set of one byte. -/
def ByteSet.single (b : UInt8) : ByteSet := ⟨[(b, b)], false⟩

/-- The ranges that cover some bytes given in ascending order. -/
def rangesOf (bs : List UInt8) : List (UInt8 × UInt8) :=
  (bs.foldl (fun acc b =>
    match acc with
    | (lo, hi) :: more => if hi.toNat + 1 = b.toNat then (lo, b) :: more else (b, b) :: acc
    | [] => [(b, b)]) []).reverse

/-- The bytes of a named class, as a set. -/
def ByteSet.ofClass (name : String) : ByteSet := ⟨rangesOf (classBytes name), false⟩

/-- The same set complemented. -/
def ByteSet.complement (s : ByteSet) : ByteSet := { s with negated := !s.negated }

/-- The word bytes, letters, digits and `_`. -/
def wordBytes : ByteSet :=
  ⟨rangesOf (((List.range 256).map Nat.toUInt8).filter isWordByte), false⟩

/-- Whether a byte lies in one of the ranges of a set, before any complement. -/
def ByteSet.inRanges (s : ByteSet) (b : UInt8) : Bool :=
  s.ranges.any fun (lo, hi) => lo ≤ b && b ≤ hi

/-- Whether the set holds `b`; with `fold`, also when its ranges hold the other case of `b`.
The case is folded before the complement is taken, so that `[^a]` holds neither `a` nor `A`. -/
def ByteSet.accepts (s : ByteSet) (fold : Bool) (b : UInt8) : Bool :=
  let hit := s.inRanges b || (fold && (s.inRanges (lowerByte b) || s.inRanges (upperByte b)))
  hit != s.negated

/-! ## Expressions -/

/-- A test of a position, which matches no bytes. -/
inductive Anchor where
  /-- The start of the line. -/
  | lineStart
  /-- The end of the line. -/
  | lineEnd
  /-- A word byte on one side and not on the other. -/
  | wordEdge
  /-- The same kind of byte on both sides. -/
  | notWordEdge
  /-- A word byte after and none before. -/
  | wordStart
  /-- A word byte before and none after. -/
  | wordEnd
  deriving DecidableEq

/-- A regular expression. -/
inductive Regex where
  /-- The empty string. -/
  | empty
  /-- One byte of a set. -/
  | bytes (set : ByteSet)
  /-- The empty string where a position test holds. -/
  | anchor (a : Anchor)
  /-- One expression, then another. -/
  | seq (first second : Regex)
  /-- Either of two expressions. -/
  | alt (left right : Regex)
  /-- At least `least` and at most `most` (no bound for `none`) matches in a row. -/
  | counted (body : Regex) (least : Nat) (most : Option Nat)
  /-- A group, whose match the back-reference of the same index repeats. -/
  | group (index : Nat) (body : Regex)
  /-- The bytes that group `index` last matched. -/
  | backref (index : Nat)

/-- Expressions one after another; the empty string for none. -/
def seqOf : List Regex → Regex
  | [] => .empty
  | [r] => r
  | r :: more => .seq r (seqOf more)

/-- Any of some expressions; none matches nothing but the empty string. -/
def altOf : List Regex → Regex
  | [] => .empty
  | [r] => r
  | r :: more => .alt r (altOf more)

/-- The bytes of a string, matched exactly. -/
def literalRegex (bs : List UInt8) : Regex := seqOf (bs.map fun b => .bytes (.single b))

/-- Whether an expression holds a back-reference. -/
def Regex.hasBackref : Regex → Bool
  | .seq a b | .alt a b => a.hasBackref || b.hasBackref
  | .counted r _ _ | .group _ r => r.hasBackref
  | .backref _ => true
  | _ => false

/-! ## Matching -/

/-- A way of matching under way: the position reached and the spans of the groups matched so
far, `(index, start, end)`, the latest first. -/
structure Thread where
  pos : Nat
  spans : List (Nat × Nat × Nat)
  deriving DecidableEq

/-- What an expression is matched against: the line, whether case is ignored, and whether
group spans are kept. -/
structure MatchInput where
  text : Array UInt8
  fold : Bool
  keepSpans : Bool

/-- Whether the byte at a position is a word byte; past the end there is none. -/
def MatchInput.wordAt (s : MatchInput) (i : Nat) : Bool :=
  (s.text[i]?.map isWordByte).getD false

/-- Whether the byte before a position is a word byte. -/
def MatchInput.wordBefore (s : MatchInput) (i : Nat) : Bool := i != 0 && s.wordAt (i - 1)

/-- Whether a position test holds at position `i`. -/
def Anchor.holds (a : Anchor) (s : MatchInput) (i : Nat) : Bool :=
  match a with
  | .lineStart => i == 0
  | .lineEnd => i == s.text.size
  | .wordEdge => s.wordBefore i != s.wordAt i
  | .notWordEdge => s.wordBefore i == s.wordAt i
  | .wordStart => !s.wordBefore i && s.wordAt i
  | .wordEnd => s.wordBefore i && !s.wordAt i

/-- Whether the bytes from `a` to `b` come again at `i`, in either case when case is ignored. -/
def MatchInput.repeatsAt (s : MatchInput) (a b i : Nat) : Bool :=
  (List.range (b - a)).all fun k =>
    match s.text[a + k]?, s.text[i + k]? with
    | some x, some y => x == y || (s.fold && lowerByte x == lowerByte y)
    | _, _ => false

/-- Threads added to others, each kept once, in their first order. -/
def addThreads (acc more : List Thread) : List Thread :=
  more.foldl (fun acc t => if acc.contains t then acc else acc ++ [t]) acc

/-- The threads after exactly `n` more steps. -/
def stepExactly (step : Thread → List Thread) : Nat → List Thread → List Thread
  | 0, ts => ts
  | n + 1, ts => if ts.isEmpty then [] else stepExactly step n (addThreads [] (ts.flatMap step))

/-- The threads after at most `n` more steps, from the threads `seen` so far of which `fresh`
are new. Only the new threads are stepped, the others having been stepped before, and the
rounds stop when no thread is new. -/
def stepAtMost (step : Thread → List Thread) : Nat → List Thread → List Thread → List Thread
  | 0, seen, _ => seen
  | n + 1, seen, fresh =>
    let next := (addThreads [] (fresh.flatMap step)).filter fun t => !seen.contains t
    if next.isEmpty then seen else stepAtMost step n (seen ++ next) next

/-- The threads at the ends of all the ways `r` can match from thread `t`. -/
def Regex.ends (s : MatchInput) : Regex → Thread → List Thread
  | .empty, t => [t]
  | .bytes set, t =>
    match s.text[t.pos]? with
    | some b => if set.accepts s.fold b then [{ t with pos := t.pos + 1 }] else []
    | none => []
  | .anchor a, t => if a.holds s t.pos then [t] else []
  | .seq a b, t => addThreads [] ((a.ends s t).flatMap (b.ends s))
  | .alt a b, t => addThreads (a.ends s t) (b.ends s t)
  | .counted r least most, t =>
    let base := stepExactly (r.ends s) least [t]
    let rounds := match most with
      | some m => m - least
      | none => s.text.size + 1
    stepAtMost (r.ends s) rounds base base
  | .group k r, t =>
    if s.keepSpans then
      (r.ends s t).map fun u =>
        { u with spans := (k, t.pos, u.pos) :: u.spans.filter fun g => g.1 != k }
    else r.ends s t
  | .backref k, t =>
    match t.spans.find? fun g => g.1 == k with
    | some (_, a, b) =>
      if s.repeatsAt a b t.pos then [{ t with pos := t.pos + (b - a) }] else []
    | none => []

/-- The positions where the matches of `r` that start at `i` end, each once. -/
def Regex.matchEnds (r : Regex) (s : MatchInput) (i : Nat) : List Nat :=
  (r.ends s ⟨i, []⟩).foldl (fun acc t => if acc.contains t.pos then acc else acc ++ [t.pos]) []

/-- The subject for a line. -/
def Regex.subject (r : Regex) (line : List UInt8) (fold : Bool) : MatchInput :=
  ⟨line.toArray, fold, r.hasBackref⟩

end AgentLink
