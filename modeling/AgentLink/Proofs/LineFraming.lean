import AgentLink.Wire.Lines

/-!
# Line framing does not depend on how the stream is cut

The frames an `Inbox` cuts, and the bytes it still holds, depend only on the bytes received, not
on how they were split into reads. `Inbox.decode` feeds the reads one at a time, cutting every
frame available after each, and at the end of the stream cuts the last ones; `readWhole` reads
the whole stream at once, split by `List.splitOn` at the newline. `decode_eq_readWhole` says the
two agree for every stream, every split and either ending.

The length limit counts every byte before the newline, a carriage return before it included: a
line of `maxLine` bytes and a carriage return is refused (`readWhole_carriage_return_at_limit`).

The proof follows the cutter. `LineReader.cut` has one equation for each shape of the buffer (a
line that fits, no newline within reach, no newline at all, and the two ends of discarding),
`Inbox.next` and `Inbox.drain` have equations built from those, and `Inbox.Holds` says what the
inbox keeps between reads: the open line of the stream when it fits, or nothing while the rest of
a refused line is discarded.
-/

namespace AgentLink

/-! ## Two ways to read a stream -/

/-- The frame of a line that fits, given without its carriage return: refused when not UTF-8,
nothing when blank, and read as an envelope otherwise. -/
def fitFrame (bytes : List UInt8) : Option Frame :=
  match utf8Decode bytes with
  | none => some (.malformed "" notUtf8Reason)
  | some s => if (trimBlanks s).isEmpty then none else some (Frame.ofLine (trimBlanks s))

/-- The frame one whole line gives, if any: refused when longer than `maxLine` bytes, counting
a carriage return before the newline, and otherwise the frame of the line without it. -/
def lineFrame (line : List UInt8) : Option Frame :=
  if maxLine < line.length then some (.malformed "" tooLongReason)
  else fitFrame (dropCarriageReturn line)

/-- The lines of a stream that a newline ended, without their newlines. -/
def endedLines (B : List UInt8) : List (List UInt8) := (B.splitOn 10).dropLast

/-- The bytes of a stream after its last newline. -/
def openLine (B : List UInt8) : List UInt8 := (B.splitOn 10).getLast (List.splitOn_ne_nil _ _)

/-- Reading a whole stream at once: its frames and how many bytes stay buffered. Every ended
line gives its frame. Before the end, an open line of more than `maxLine` bytes is refused and
discarded, and a shorter one stays buffered; at the end the open line is a last line, unless it
is nothing or a lone carriage return, which stays. -/
def readWhole (B : List UInt8) (eof : Bool) : List Frame × Nat :=
  let frames := (endedLines B).filterMap lineFrame
  let t := openLine B
  if eof then
    if t = [] ∨ t = [13] then (frames, t.length) else (frames ++ (lineFrame t).toList, 0)
  else if maxLine < t.length then (frames ++ [.malformed "" tooLongReason], 0)
  else (frames, t.length)

namespace Inbox

/-- Feed reads to the inbox one at a time, cutting every frame available after each. -/
def feed (ib : Inbox) : List (List UInt8) → Inbox × List Frame
  | [] => (ib, [])
  | c :: cs =>
    let first := (ib.push c).drainAll false
    let rest := first.1.feed cs
    (rest.1, first.2 ++ rest.2)

/-- Decode a stream received in reads: feed them to a fresh inbox and, at the end of the stream,
cut the last frames. The frames and how many bytes stay buffered. -/
def decode (reads : List (List UInt8)) (eof : Bool) : List Frame × Nat :=
  let fed := ({} : Inbox).feed reads
  if eof then
    let last := fed.1.drainAll true
    (fed.2 ++ last.2, last.1.buffer.length)
  else (fed.2, fed.1.buffer.length)

end Inbox

/-! ## Streams by lines -/

/-- A stream either has no newline or is a first line, a newline and the rest. -/
theorem newline_cases (B : List UInt8) : 10 ∉ B ∨ ∃ l t, 10 ∉ l ∧ B = l ++ 10 :: t := by
  induction B with
  | nil => exact .inl List.not_mem_nil
  | cons x B ih =>
    by_cases hx : x = 10
    · exact .inr ⟨[], B, List.not_mem_nil, by simp [hx]⟩
    · rcases ih with hB | ⟨l, t, hl, rfl⟩
      · exact .inl (by simp [hB, Ne.symm hx])
      · exact .inr ⟨x :: l, t, by simp [hl, Ne.symm hx], rfl⟩

/-- Induction over a stream line by line. -/
theorem byLines {motive : List UInt8 → Prop} (last : ∀ B, 10 ∉ B → motive B)
    (line : ∀ l t, 10 ∉ l → motive t → motive (l ++ 10 :: t)) (B : List UInt8) :
    motive B := by
  obtain ⟨n, hn⟩ : ∃ n, B.length ≤ n := ⟨_, Nat.le_refl _⟩
  induction n generalizing B with
  | zero => exact last B (by simp_all)
  | succ n ih =>
    rcases newline_cases B with hB | ⟨l, t, hl, rfl⟩
    · exact last B hB
    · exact line l t hl (ih t (by simp at hn; omega))

theorem endedLines_of_not_mem {B : List UInt8} (h : 10 ∉ B) : endedLines B = [] := by
  simp [endedLines, List.splitOn_eq_singleton h]

theorem openLine_of_not_mem {B : List UInt8} (h : 10 ∉ B) : openLine B = B := by
  simp [openLine, List.splitOn_eq_singleton h]

theorem endedLines_line {l : List UInt8} (hl : 10 ∉ l) (t : List UInt8) :
    endedLines (l ++ 10 :: t) = l :: endedLines t := by
  simp [endedLines, List.splitOn_append_cons_self_of_not_mem hl,
    List.dropLast_cons_of_ne_nil (List.splitOn_ne_nil _ _)]

theorem openLine_line {l : List UInt8} (hl : 10 ∉ l) (t : List UInt8) :
    openLine (l ++ 10 :: t) = openLine t := by
  simp [openLine, List.splitOn_append_cons_self_of_not_mem hl,
    List.getLast_cons (List.splitOn_ne_nil _ _)]

/-- The open line holds no newline. -/
theorem not_mem_openLine (B : List UInt8) : 10 ∉ openLine B := by
  induction B using byLines with
  | last B hB => rwa [openLine_of_not_mem hB]
  | line l t hl ih => rwa [openLine_line hl]

/-- Appending to a stream only adds to its open line: what a newline ended stays ended. -/
theorem endedLines_append (P c : List UInt8) :
    endedLines (P ++ c) = endedLines P ++ endedLines (openLine P ++ c) ∧
      openLine (P ++ c) = openLine (openLine P ++ c) := by
  induction P using byLines with
  | last P hP => simp [endedLines_of_not_mem hP, openLine_of_not_mem hP]
  | line l t hl ih =>
    rw [List.append_assoc, List.cons_append, endedLines_line hl, endedLines_line hl,
      openLine_line hl, openLine_line hl, ih.1, ih.2]
    exact ⟨rfl, rfl⟩

/-! ## Cutting one line -/

theorem newlineIndex_eq_none {w : List UInt8} (h : 10 ∉ w) : newlineIndex w = none := by
  rw [newlineIndex, List.findIdx?_eq_none_iff]
  intro x hx
  simp only [beq_eq_false_iff_ne, ne_eq]
  rintro rfl
  exact h hx

theorem newlineIndex_append_cons {l : List UInt8} (hl : 10 ∉ l) (t : List UInt8) :
    newlineIndex (l ++ 10 :: t) = some l.length := by
  simp only [newlineIndex, List.findIdx?_append]
  rw [show l.findIdx? (· == 10) = none from newlineIndex_eq_none hl]
  simp [List.findIdx?_cons]

/-- A newline among the first `s` bytes is the line's own only when `s` reaches past the line. -/
theorem searched_le {l t : List UInt8} {s : Nat} (hs : 10 ∉ (l ++ 10 :: t).take s) :
    s ≤ l.length := by
  refine Nat.le_of_not_lt fun hlt => hs ?_
  obtain ⟨k, hk⟩ : ∃ k, s - l.length = k + 1 := ⟨s - l.length - 1, by omega⟩
  simp [List.take_append, List.take_of_length_le (Nat.le_of_lt hlt), hk]

/-- Where the cutter finds the newline: in the window of the first `n` bytes past the `s` already
searched, the line's newline is found exactly when the window reaches it. -/
theorem newlineIndex_window {l t : List UInt8} (hl : 10 ∉ l) {s : Nat} (hs : s ≤ l.length)
    (n : Nat) :
    newlineIndex (((l ++ 10 :: t).take n).drop s) =
      if l.length < n then some (l.length - s) else none := by
  by_cases hn : l.length < n
  · obtain ⟨k, hk⟩ : ∃ k, n - l.length = k + 1 := ⟨n - l.length - 1, by omega⟩
    rw [if_pos hn, List.take_append, List.take_of_length_le (Nat.le_of_lt hn), hk,
      List.take_succ_cons, List.drop_append_of_le_length hs,
      newlineIndex_append_cons fun h => hl (List.mem_of_mem_drop h), List.length_drop]
  · rw [if_neg hn, List.take_append_of_le_length (by omega)]
    exact newlineIndex_eq_none fun h => hl (List.mem_of_mem_take (List.mem_of_mem_drop h))

namespace LineReader

/-- Outside discarding, cutting does not recurse: any fuel is as good as one. -/
theorem cut_succ (s : Nat) (buf : List UInt8) (fuel : Nat) :
    (⟨s, false⟩ : LineReader).cut buf (fuel + 1) = (⟨s, false⟩ : LineReader).cut buf 1 := by
  simp only [cut]
  split <;> simp_all

/-- Cutting never adds bytes. -/
theorem length_cut_le (r : LineReader) (buf : List UInt8) (fuel : Nat) :
    (r.cut buf fuel).2.1.length ≤ buf.length := by
  induction fuel generalizing r buf with
  | zero => simp [cut]
  | succ fuel ih =>
    simp only [cut]
    split
    · exact Nat.le_trans (ih _ _) (by simp)
    · split
      · simp
      · exact Nat.le_trans (ih _ _) (by simp)
    · simp
    · split <;> simp

/-- A line that fits is cut with its newline and one carriage return before it. -/
theorem cut_line {l t : List UInt8} (hl : 10 ∉ l) {s : Nat} (hs : 10 ∉ (l ++ 10 :: t).take s)
    (hlen : l.length ≤ maxLine) (fuel : Nat) :
    (⟨s, false⟩ : LineReader).cut (l ++ 10 :: t) (fuel + 1) =
      (⟨0, false⟩, t, .line (dropCarriageReturn l)) := by
  have hsl := searched_le hs
  have hreach : l.length < min (maxLine + 1) (l ++ 10 :: t).length := by
    simp only [List.length_append, List.length_cons]
    omega
  simp only [cut, newlineIndex_window hl hsl, if_pos hreach, Nat.sub_add_cancel hsl]
  simp

/-- More than `maxLine` bytes with no newline among the first `maxLine + 1` are refused, and the
cutter starts discarding. -/
theorem cut_tooLong {buf : List UInt8} (hw : 10 ∉ buf.take (maxLine + 1))
    (hlong : maxLine < buf.length) (s fuel : Nat) :
    (⟨s, false⟩ : LineReader).cut buf (fuel + 1) = (⟨s, true⟩, buf, .tooLong) := by
  have hread : min (maxLine + 1) buf.length = maxLine + 1 := by omega
  simp only [cut, hread, newlineIndex_eq_none fun h => hw (List.mem_of_mem_drop h), if_pos hlong]

/-- A buffer with no newline that fits waits for more, remembering it was all searched. -/
theorem cut_pending {buf : List UInt8} (hb : 10 ∉ buf) (hshort : buf.length ≤ maxLine)
    (s fuel : Nat) :
    (⟨s, false⟩ : LineReader).cut buf (fuel + 1) =
      (⟨buf.length, false⟩, buf, .pending) := by
  have hread : min (maxLine + 1) buf.length = buf.length := by omega
  simp only [cut, hread, List.take_length,
    newlineIndex_eq_none fun h => hb (List.mem_of_mem_drop h), if_neg (Nat.not_lt.2 hshort)]

/-- Discarding ends at the next newline, however many rounds reaching it takes; the line after
it is then cut as usual. -/
theorem cut_skip {l t : List UInt8} (hl : 10 ∉ l) {s : Nat} (hs : 10 ∉ (l ++ 10 :: t).take s)
    {fuel : Nat} (hfuel : l.length + 1 ≤ fuel) :
    (⟨s, true⟩ : LineReader).cut (l ++ 10 :: t) (fuel + 1) =
      (⟨0, false⟩ : LineReader).cut t 1 := by
  induction fuel generalizing s l with
  | zero => omega
  | succ fuel ih =>
    have hsl := searched_le hs
    rw [cut]
    simp only [newlineIndex_window hl hsl]
    by_cases hreach : l.length < min (maxLine + 1) (l ++ 10 :: t).length
    · simp only [if_pos hreach, Nat.sub_add_cancel hsl]
      simpa using cut_succ 0 t fuel
    · -- the window holds part of the line only: drop it and discard on
      have hn : min (maxLine + 1) (l ++ 10 :: t).length ≤ l.length := by omega
      have hpos : 0 < min (maxLine + 1) (l ++ 10 :: t).length := by
        simp only [List.length_append, List.length_cons]
        omega
      simp only [if_neg hreach, List.drop_append_of_le_length hn]
      rw [if_neg (by simp)]
      exact ih (fun h => hl (List.mem_of_mem_drop h)) (by simp) (by simp; omega)

/-- Discarding a buffer with no newline discards all of it. -/
theorem cut_skipAll {buf : List UInt8} (hb : 10 ∉ buf) (s : Nat) {fuel : Nat}
    (hfuel : buf.length ≤ fuel) :
    (⟨s, true⟩ : LineReader).cut buf (fuel + 1) = (⟨0, true⟩, [], .pending) := by
  induction fuel generalizing s buf with
  | zero =>
    have : buf = [] := List.eq_nil_of_length_eq_zero (by omega)
    subst this
    simp [cut, newlineIndex]
  | succ fuel ih =>
    rw [cut]
    simp only [newlineIndex_eq_none fun h => hb (List.mem_of_mem_take (List.mem_of_mem_drop h))]
    split
    · simp_all
    · exact ih (fun h => hb (List.mem_of_mem_drop h)) 0 (by simp; omega)

end LineReader

/-! ## Cutting frames -/

namespace Inbox

/-- The inbox once cutting left the cutter at `r` and the bytes `buf`: the bytes cut off count as
framed. -/
def after (ib : Inbox) (r : LineReader) (buf : List UInt8) : Inbox :=
  ⟨r, buf, ib.storage, ib.framed + (ib.buffer.length - buf.length)⟩

@[simp] theorem reader_after (ib : Inbox) (r : LineReader) (buf : List UInt8) :
    (ib.after r buf).reader = r := rfl

@[simp] theorem buffer_after (ib : Inbox) (r : LineReader) (buf : List UInt8) :
    (ib.after r buf).buffer = buf := rfl

theorem after_after {ib : Inbox} {r₁ r₂ : LineReader} {b₁ b₂ : List UInt8}
    (h₁ : b₁.length ≤ ib.buffer.length) (h₂ : b₂.length ≤ b₁.length) :
    (ib.after r₁ b₁).after r₂ b₂ = ib.after r₂ b₂ := by
  simp only [after, Inbox.mk.injEq, true_and]
  omega

/-- The cutter of `ib` discards when `d`, holds `buf`, and has searched its first `s` bytes and
found no newline. -/
structure At (ib : Inbox) (s : Nat) (d : Bool) (buf : List UInt8) : Prop where
  reader : ib.reader = ⟨s, d⟩
  buffer : ib.buffer = buf
  searched : 10 ∉ buf.take s

theorem at_after (ib : Inbox) (d : Bool) (buf : List UInt8) :
    (ib.after ⟨0, d⟩ buf).At 0 d buf :=
  ⟨rfl, rfl, by simp⟩

/-- When the first cut waits for more bytes, there is no frame. -/
theorem next_pending_of {ib : Inbox} {a : Bool} {r : LineReader} {buf : List UInt8}
    (hc : (if a then ib.reader.cutAtEnd ib.buffer
      else ib.reader.cut ib.buffer (ib.buffer.length + 1)) = (r, buf, .pending)) (g : Nat) :
    ib.next a (g + 1) = (ib.after r buf, none) := by
  simp only [next]
  rw [hc]
  rfl

/-- When the first cut refuses a line, that is the frame. -/
theorem next_tooLong_of {ib : Inbox} {a : Bool} {r : LineReader} {buf : List UInt8}
    (hc : (if a then ib.reader.cutAtEnd ib.buffer
      else ib.reader.cut ib.buffer (ib.buffer.length + 1)) = (r, buf, .tooLong)) (g : Nat) :
    ib.next a (g + 1) = (ib.after r buf, some (.malformed "" tooLongReason)) := by
  simp only [next]
  rw [hc]
  rfl

/-- When the first cut is a line, its frame is next, or, when it is blank, the frame after it. -/
theorem next_line_of {ib : Inbox} {a : Bool} {r : LineReader} {buf bytes : List UInt8}
    (hc : (if a then ib.reader.cutAtEnd ib.buffer
      else ib.reader.cut ib.buffer (ib.buffer.length + 1)) = (r, buf, .line bytes)) (g : Nat) :
    ib.next a (g + 1) =
      (fitFrame bytes).elim ((ib.after r buf).next a g) fun x => (ib.after r buf, some x) := by
  simp only [next]
  rw [hc]
  simp only [fitFrame]
  rcases utf8Decode bytes with _ | s
  · rfl
  · by_cases hs : (trimBlanks s).isEmpty <;> simp [hs, after]

variable {ib : Inbox} {s : Nat}

/-- A line that fits gives its frame, or, when blank, the next one. -/
theorem next_line {l t : List UInt8} (h : ib.At s false (l ++ 10 :: t)) (hl : 10 ∉ l)
    (hlen : l.length ≤ maxLine) (g : Nat) :
    ib.next false (g + 1) = (lineFrame l).elim ((ib.after ⟨0, false⟩ t).next false g)
      fun x => (ib.after ⟨0, false⟩ t, some x) := by
  rw [lineFrame, if_neg (Nat.not_lt.2 hlen)]
  refine next_line_of ?_ g
  simp only [Bool.false_eq_true, if_false, h.reader, h.buffer]
  exact LineReader.cut_line hl h.searched hlen _

theorem next_tooLong {buf : List UInt8} (h : ib.At s false buf) (hw : 10 ∉ buf.take (maxLine + 1))
    (hlong : maxLine < buf.length) (g : Nat) :
    ib.next false (g + 1) = (ib.after ⟨s, true⟩ buf, some (.malformed "" tooLongReason)) := by
  refine next_tooLong_of ?_ g
  simp only [Bool.false_eq_true, if_false, h.reader, h.buffer]
  exact LineReader.cut_tooLong hw hlong s _

theorem next_pending {buf : List UInt8} (h : ib.At s false buf) (hb : 10 ∉ buf)
    (hshort : buf.length ≤ maxLine) (g : Nat) :
    ib.next false (g + 1) = (ib.after ⟨buf.length, false⟩ buf, none) := by
  refine next_pending_of ?_ g
  simp only [Bool.false_eq_true, if_false, h.reader, h.buffer]
  exact LineReader.cut_pending hb hshort s _

/-- A line longer than `maxLine` is refused before its newline is looked for. -/
theorem next_longLine {l t : List UInt8} (h : ib.At s false (l ++ 10 :: t)) (hl : 10 ∉ l)
    (hlong : maxLine < l.length) (g : Nat) :
    ib.next false (g + 1) =
      (ib.after ⟨s, true⟩ (l ++ 10 :: t), some (.malformed "" tooLongReason)) := by
  have hw : 10 ∉ (l ++ 10 :: t).take (maxLine + 1) := by
    rw [List.take_append_of_le_length (by omega)]
    exact fun h' => hl (List.mem_of_mem_take h')
  exact next_tooLong h hw (by simp; omega) g

/-- Discarding up to a newline takes no fuel of its own: the line after it is cut at once. -/
theorem next_skip {l t : List UInt8} (h : ib.At s true (l ++ 10 :: t)) (hl : 10 ∉ l) (g : Nat) :
    ib.next false (g + 1) = (ib.after ⟨0, false⟩ t).next false (g + 1) := by
  rcases hcut : (⟨0, false⟩ : LineReader).cut t 1 with ⟨r, buf, c⟩
  have hle : buf.length ≤ t.length := by
    simpa [hcut] using LineReader.length_cut_le ⟨0, false⟩ t 1
  have hc : ib.reader.cut ib.buffer (ib.buffer.length + 1) = (r, buf, c) := by
    rw [h.reader, h.buffer, LineReader.cut_skip hl h.searched (by simp), hcut]
  have hc' : (ib.after ⟨0, false⟩ t).reader.cut (ib.after ⟨0, false⟩ t).buffer
      ((ib.after ⟨0, false⟩ t).buffer.length + 1) = (r, buf, c) := by
    rw [reader_after, buffer_after, LineReader.cut_succ, hcut]
  have hframed : ib.framed + (ib.buffer.length - buf.length) =
      (ib.after ⟨0, false⟩ t).framed + (t.length - buf.length) := by
    simp only [after, h.buffer, List.length_append, List.length_cons]
    omega
  simp only [next, Bool.false_eq_true, if_false]
  rw [hc, hc', buffer_after, hframed]
  rfl

theorem next_skipAll {buf : List UInt8} (h : ib.At s true buf) (hb : 10 ∉ buf) (g : Nat) :
    ib.next false (g + 1) = (ib.after ⟨0, true⟩ [], none) := by
  refine next_pending_of ?_ g
  simp only [Bool.false_eq_true, if_false, h.reader, h.buffer]
  exact LineReader.cut_skipAll hb s (Nat.le_refl _)

/-- Whatever the fuel, once it covers the buffer, the next frame is the same. -/
theorem next_fuel {B : List UInt8} :
    ∀ {ib : Inbox} {s : Nat} {d : Bool}, ib.At s d B →
      ∀ {g : Nat}, B.length + 1 ≤ g → ib.next false g = ib.nextFrame false := by
  induction B using byLines with
  | last B hB =>
    intro ib s d h g hg
    obtain ⟨g, rfl⟩ : ∃ g', g = g' + 1 := ⟨g - 1, by omega⟩
    rw [nextFrame, h.buffer]
    cases d with
    | false =>
      by_cases hlong : maxLine < B.length
      · have hw : 10 ∉ B.take (maxLine + 1) := fun h' => hB (List.mem_of_mem_take h')
        rw [next_tooLong h hw hlong, next_tooLong h hw hlong]
      · rw [next_pending h hB (by omega), next_pending h hB (by omega)]
    | true => rw [next_skipAll h hB, next_skipAll h hB]
  | line l t hl ih =>
    intro ib s d h g hg
    obtain ⟨g, rfl⟩ : ∃ g', g = g' + 1 := ⟨g - 1, by omega⟩
    rw [nextFrame, h.buffer]
    cases d with
    | false =>
      by_cases hlen : l.length ≤ maxLine
      · rw [next_line h hl hlen, next_line h hl hlen]
        cases lineFrame l with
        | none =>
          simp only [Option.elim]
          rw [ih (at_after _ _ _) (by simp at hg; omega), ih (at_after _ _ _) (by simp; omega)]
        | some x => rfl
      · rw [next_longLine h hl (by omega), next_longLine h hl (by omega)]
    | true =>
      rw [next_skip h hl, next_skip h hl, ih (at_after _ _ _) (by simp at hg; omega),
        ih (at_after _ _ _) (by simp; omega)]

theorem drain_congr {ib₁ ib₂ : Inbox} {a : Bool} (h : ib₁.nextFrame a = ib₂.nextFrame a)
    (f : Nat) : ib₁.drain a (f + 1) = ib₂.drain a (f + 1) := by
  simp only [drain, h]

end Inbox

/-! ## What the inbox holds between reads -/

/-- The bytes the inbox holds once a stream's ended lines are framed: its open line, when that
fits. -/
def heldBytes (P : List UInt8) : List UInt8 :=
  if maxLine < (openLine P).length then [] else openLine P

/-- Where the cutter stands once a stream's ended lines are framed: past the whole open line, or
discarding the rest of a refused one. -/
def heldReader (P : List UInt8) : LineReader :=
  if maxLine < (openLine P).length then ⟨0, true⟩ else ⟨(openLine P).length, false⟩

theorem length_openLine_le (P : List UInt8) : (openLine P).length ≤ P.length := by
  induction P using byLines with
  | last B hB => simp [openLine_of_not_mem hB]
  | line l t hl ih => rw [openLine_line hl]; simp; omega

theorem length_heldBytes_le (P : List UInt8) : (heldBytes P).length ≤ P.length := by
  unfold heldBytes
  split
  · simp
  · exact length_openLine_le P

theorem heldReader_line {l : List UInt8} (hl : 10 ∉ l) (t : List UInt8) :
    heldReader (l ++ 10 :: t) = heldReader t := by
  simp only [heldReader, openLine_line hl]

theorem heldBytes_line {l : List UInt8} (hl : 10 ∉ l) (t : List UInt8) :
    heldBytes (l ++ 10 :: t) = heldBytes t := by
  simp only [heldBytes, openLine_line hl]

/-- Before the end, the frames of a stream are those of its ended lines and one for an open line
too long to keep. -/
theorem readWhole_frames (P : List UInt8) :
    (readWhole P false).1 = (endedLines P).filterMap lineFrame ++
      if maxLine < (openLine P).length then [.malformed "" tooLongReason] else [] := by
  by_cases h : maxLine < (openLine P).length <;> simp [readWhole, h]

theorem readWhole_remaining (P : List UInt8) : (readWhole P false).2 = (heldBytes P).length := by
  by_cases h : maxLine < (openLine P).length <;> simp [readWhole, heldBytes, h]

/-- An ended line's frame comes first. -/
theorem readWhole_line {l : List UInt8} (hl : 10 ∉ l) (t : List UInt8) :
    (readWhole (l ++ 10 :: t) false).1 = (lineFrame l).toList ++ (readWhole t false).1 := by
  rw [readWhole_frames, readWhole_frames, endedLines_line hl, openLine_line hl]
  cases hx : lineFrame l <;> simp [hx]

theorem readWhole_of_not_mem {B : List UInt8} (hB : 10 ∉ B) :
    (readWhole B false).1 = if maxLine < B.length then [.malformed "" tooLongReason] else [] := by
  simp [readWhole_frames, endedLines_of_not_mem hB, openLine_of_not_mem hB]

/-- Every ended line holds its newline, and an open line that is not empty holds a byte: a stream
has at most as many lines as bytes. -/
theorem length_lines_le (B : List UInt8) :
    (endedLines B).length + (if openLine B = [] then 0 else 1) ≤ B.length := by
  induction B using byLines with
  | last B hB =>
    rw [endedLines_of_not_mem hB, openLine_of_not_mem hB]
    cases B <;> simp
  | line l t hl ih =>
    rw [endedLines_line hl, openLine_line hl]
    simp only [List.length_cons, List.length_append]
    omega

/-- A stream has at most as many frames as bytes: each frame comes from a line. -/
theorem length_readWhole_le (B : List UInt8) (eof : Bool) :
    (readWhole B eof).1.length ≤ B.length := by
  have hlines := length_lines_le B
  have hended := List.length_filterMap_le lineFrame (endedLines B)
  have hlast : (lineFrame (openLine B)).toList.length ≤ 1 := by
    cases lineFrame (openLine B) <;> simp
  by_cases hopen : openLine B = []
  · -- no open line: the ended lines give all the frames
    rw [if_pos hopen] at hlines
    cases eof <;> simp [readWhole, hopen] <;> omega
  · -- the open line gives at most one frame more
    rw [if_neg hopen] at hlines
    cases eof with
    | false =>
      rw [readWhole_frames]
      split <;> simp only [List.length_append, List.length_singleton, List.length_nil] <;> omega
    | true =>
      simp only [readWhole, if_true]
      split
      · exact Nat.le_trans hended (by omega)
      · simp only [List.length_append]
        omega

namespace Inbox

variable {ib : Inbox}

/-- Draining from the start of a line cuts the frames of every ended line and leaves the open
line, or discards it when it is too long. -/
theorem drain_clean {B : List UInt8} :
    ∀ {ib : Inbox} {s : Nat}, ib.At s false B → ∀ {f : Nat}, B.length + 2 ≤ f →
      ib.drain false f = (ib.after (heldReader B) (heldBytes B), (readWhole B false).1) := by
  induction B using byLines with
  | last B hB =>
    intro ib s h f hf
    obtain ⟨f, rfl⟩ : ∃ f', f = f' + 1 := ⟨f - 1, by omega⟩
    by_cases hlong : maxLine < B.length
    · -- refused, then discarded to the end
      have h₁ : ib.nextFrame false =
          (ib.after ⟨s, true⟩ B, some (.malformed "" tooLongReason)) := by
        rw [nextFrame, h.buffer]
        exact next_tooLong h (fun h' => hB (List.mem_of_mem_take h')) hlong _
      have h₂ : (ib.after ⟨s, true⟩ B).nextFrame false =
          ((ib.after ⟨s, true⟩ B).after ⟨0, true⟩ [], none) := by
        rw [nextFrame]
        exact next_skipAll ⟨rfl, rfl, h.searched⟩ hB _
      obtain ⟨f, rfl⟩ : ∃ f', f = f' + 1 := ⟨f - 1, by omega⟩
      simp only [drain, h₁, h₂, readWhole_of_not_mem hB, heldReader, heldBytes,
        openLine_of_not_mem hB, if_pos hlong]
      rw [after_after (by simp [h.buffer]) (Nat.zero_le _)]
    · have h₁ : ib.nextFrame false = (ib.after ⟨B.length, false⟩ B, none) := by
        rw [nextFrame, h.buffer]
        exact next_pending h hB (by omega) _
      simp only [drain, h₁, readWhole_of_not_mem hB, heldReader, heldBytes,
        openLine_of_not_mem hB, if_neg hlong]
  | line l t hl ih =>
    intro ib s h f hf
    obtain ⟨f, rfl⟩ : ∃ f', f = f' + 1 := ⟨f - 1, by omega⟩
    have hrest : ∀ {f}, t.length + 2 ≤ f → (ib.after ⟨0, false⟩ t).drain false f =
        (ib.after (heldReader t) (heldBytes t), (readWhole t false).1) := fun hf' => by
      rw [ih (at_after _ _ _) hf', after_after (by simp [h.buffer]; omega)
        (length_heldBytes_le t)]
    rw [readWhole_line hl, heldReader_line hl, heldBytes_line hl]
    by_cases hlen : l.length ≤ maxLine
    · cases hx : lineFrame l with
      | none =>
        -- a blank line: the inbox moves on to the next line within the same call
        have h₂ : ib.nextFrame false = (ib.after ⟨0, false⟩ t).nextFrame false := by
          rw [nextFrame, h.buffer, next_line h hl hlen, hx]
          exact next_fuel (at_after _ _ _) (by simp; omega)
        rw [drain_congr h₂, hrest (by simp at hf; omega)]
        rfl
      | some x =>
        have h₂ : ib.nextFrame false = (ib.after ⟨0, false⟩ t, some x) := by
          rw [nextFrame, h.buffer, next_line h hl hlen, hx]
          rfl
        simp only [drain, h₂]
        rw [hrest (by simp at hf; omega)]
        rfl
    · -- too long: refused at once, then discarded up to its newline
      have hx : lineFrame l = some (.malformed "" tooLongReason) := by
        rw [lineFrame, if_pos (by omega)]
      have h₁ : ib.nextFrame false =
          (ib.after ⟨s, true⟩ (l ++ 10 :: t), some (.malformed "" tooLongReason)) := by
        rw [nextFrame, h.buffer]
        exact next_longLine h hl (by omega) _
      have h₂ : (ib.after ⟨s, true⟩ (l ++ 10 :: t)).nextFrame false =
          (ib.after ⟨0, false⟩ t).nextFrame false := by
        rw [nextFrame, buffer_after, next_skip ⟨rfl, rfl, h.searched⟩ hl,
          after_after (by simp [h.buffer]) (by simp; omega),
          next_fuel (at_after _ _ _) (by simp; omega)]
      obtain ⟨f, rfl⟩ : ∃ f', f = f' + 1 := ⟨f - 1, by simp at hf; omega⟩
      rw [drain, h₁]
      dsimp only
      rw [drain_congr h₂, hrest (by simp at hf; omega), hx]
      rfl

/-- Draining while discarding ends the refused line at its newline, and then drains from the
start of the next line. -/
theorem drain_skip {l t : List UInt8} (h : ib.At s true (l ++ 10 :: t)) (hl : 10 ∉ l) {f : Nat}
    (hf : (l ++ 10 :: t).length + 2 ≤ f) :
    ib.drain false f = (ib.after (heldReader t) (heldBytes t), (readWhole t false).1) := by
  obtain ⟨f, rfl⟩ : ∃ f', f = f' + 1 := ⟨f - 1, by omega⟩
  have h₁ : ib.nextFrame false = (ib.after ⟨0, false⟩ t).nextFrame false := by
    rw [nextFrame, h.buffer, next_skip h hl, next_fuel (at_after _ _ _) (by simp; omega)]
  rw [drain_congr h₁, drain_clean (at_after _ _ _) (by simp at hf; omega),
    after_after (by simp [h.buffer]; omega) (length_heldBytes_le t)]

theorem drain_skipAll {buf : List UInt8} (h : ib.At s true buf) (hb : 10 ∉ buf) (f : Nat) :
    ib.drain false (f + 1) = (ib.after ⟨0, true⟩ [], []) := by
  simp only [drain, nextFrame, h.buffer, next_skipAll h hb]

/-! ## The end of the stream -/

theorem cutAtEnd_nil (r : LineReader) :
    r.cutAtEnd [] = ({ r with searched := 0 }, [], .pending) := by
  obtain ⟨s, d⟩ := r
  cases d <;> simp [LineReader.cutAtEnd, LineReader.cut, newlineIndex]

/-- At the end, an open line that fits is a last line, unless it is nothing or a lone carriage
return. -/
theorem cutAtEnd_open {t : List UInt8} (ht : 10 ∉ t) (hshort : t.length ≤ maxLine) (s : Nat) :
    (⟨s, false⟩ : LineReader).cutAtEnd t =
      if t = [] ∨ t = [13] then (⟨0, false⟩, t, .pending)
      else (⟨0, false⟩, [], .line (dropCarriageReturn t)) := by
  simp only [LineReader.cutAtEnd, LineReader.cut_pending ht hshort, List.isEmpty_iff]

theorem next_end_nil (h : ib.buffer = []) (g : Nat) :
    ib.next true (g + 1) = (ib.after { ib.reader with searched := 0 } [], none) := by
  refine next_pending_of ?_ g
  rw [if_pos rfl, h, cutAtEnd_nil]

theorem drain_end_nil (h : ib.buffer = []) (f : Nat) :
    ib.drain true (f + 1) = (ib.after { ib.reader with searched := 0 } [], []) := by
  simp only [drain, nextFrame, h, next_end_nil h]

/-! ## Reading a stream in pieces -/

/-- The inbox holds what framing leaves of the stream `P` read so far. -/
structure Holds (ib : Inbox) (P : List UInt8) : Prop where
  reader : ib.reader = heldReader P
  buffer : ib.buffer = heldBytes P

theorem holds_nil : ({} : Inbox).Holds [] :=
  ⟨by simp [heldReader, openLine], by simp [heldBytes, openLine]⟩

/-- One read, cut with any fuel enough for the buffer: the inbox still holds what framing leaves
of the longer stream, and the frames it cuts are those the longer stream adds. -/
theorem Holds.drain_push {P : List UInt8} (h : ib.Holds P) (c : List UInt8) {f : Nat}
    (hf : (ib.push c).buffer.length + 2 ≤ f) :
    ((ib.push c).drain false f).1.Holds (P ++ c) ∧
      (readWhole P false).1 ++ ((ib.push c).drain false f).2 = (readWhole (P ++ c) false).1 := by
  obtain ⟨hended, hopen⟩ := endedLines_append P c
  have hframes : (readWhole (P ++ c) false).1 =
      (endedLines P).filterMap lineFrame ++ (readWhole (openLine P ++ c) false).1 := by
    rw [readWhole_frames, readWhole_frames, hended, hopen, List.filterMap_append,
      List.append_assoc]
  have hreader : heldReader (P ++ c) = heldReader (openLine P ++ c) := by
    simp only [heldReader, hopen]
  have hbytes : heldBytes (P ++ c) = heldBytes (openLine P ++ c) := by
    simp only [heldBytes, hopen]
  by_cases hlong : maxLine < (openLine P).length
  · -- the rest of a refused line is being discarded
    have hat : (ib.push c).At 0 true c :=
      ⟨by simp [Inbox.push, h.reader, heldReader, hlong],
        by simp [Inbox.push, h.buffer, heldBytes, hlong], by simp⟩
    have hprev : (readWhole P false).1 =
        (endedLines P).filterMap lineFrame ++ [.malformed "" tooLongReason] := by
      rw [readWhole_frames, if_pos hlong]
    rcases newline_cases c with hc | ⟨l, u, hl, rfl⟩
    · -- and goes on to the end of this read
      have hnone : 10 ∉ openLine P ++ c := by simp [not_mem_openLine, hc]
      have hlong' : maxLine < (openLine P ++ c).length := by simp; omega
      obtain ⟨f, rfl⟩ : ∃ f', f = f' + 1 := ⟨f - 1, by omega⟩
      rw [drain_skipAll hat hc]
      refine ⟨⟨?_, ?_⟩, ?_⟩
      · rw [reader_after, hreader, heldReader, openLine_of_not_mem hnone, if_pos hlong']
      · rw [buffer_after, hbytes, heldBytes, openLine_of_not_mem hnone, if_pos hlong']
      · rw [hprev, hframes, readWhole_of_not_mem hnone, if_pos hlong', List.append_nil]
    · -- and ends in this read
      have hl' : 10 ∉ openLine P ++ l := by simp [not_mem_openLine, hl]
      have hjoin : openLine P ++ (l ++ 10 :: u) = (openLine P ++ l) ++ 10 :: u := by simp
      have hx : lineFrame (openLine P ++ l) = some (.malformed "" tooLongReason) := by
        rw [lineFrame, if_pos (by simp; omega)]
      rw [drain_skip hat hl (hat.buffer ▸ hf)]
      refine ⟨⟨?_, ?_⟩, ?_⟩
      · rw [reader_after, hreader, hjoin, heldReader_line hl']
      · rw [buffer_after, hbytes, hjoin, heldBytes_line hl']
      · rw [hprev, hframes, hjoin, readWhole_line hl', hx]
        simp
  · -- the open line fits: cutting resumes where it stopped
    have hat : (ib.push c).At (openLine P).length false (openLine P ++ c) :=
      ⟨by simp [Inbox.push, h.reader, heldReader, hlong],
        by simp [Inbox.push, h.buffer, heldBytes, hlong], by simp [not_mem_openLine]⟩
    rw [drain_clean hat (hat.buffer ▸ hf)]
    refine ⟨⟨hreader.symm, hbytes.symm⟩, ?_⟩
    rw [hframes, readWhole_frames P, if_neg hlong, List.append_nil]

/-- One read: the inbox still holds what framing leaves of the longer stream, and the frames it
cuts are those the longer stream adds. -/
theorem Holds.push {P : List UInt8} (h : ib.Holds P) (c : List UInt8) :
    ((ib.push c).drainAll false).1.Holds (P ++ c) ∧
      (readWhole P false).1 ++ ((ib.push c).drainAll false).2 = (readWhole (P ++ c) false).1 :=
  h.drain_push c (Nat.le_refl _)

/-- The end of the stream, cut with any fuel of two or more: the inbox cuts the last frames the
whole stream has. -/
theorem Holds.drain_end {P : List UInt8} (h : ib.Holds P) {f : Nat} (hf : 2 ≤ f) :
    (readWhole P false).1 ++ (ib.drain true f).2 = (readWhole P true).1 ∧
      (ib.drain true f).1.buffer.length = (readWhole P true).2 := by
  obtain ⟨f, rfl⟩ : ∃ f', f = f' + 1 := ⟨f - 1, by omega⟩
  by_cases hlong : maxLine < (openLine P).length
  · -- a refused open line was already reported and discarded
    have hb : ib.buffer = [] := by rw [h.buffer, heldBytes, if_pos hlong]
    have hkept : ¬(openLine P = [] ∨ openLine P = [13]) := by
      rintro (h' | h') <;> rw [h'] at hlong <;> simp [maxLine] at hlong
    rw [drain_end_nil hb]
    simp [readWhole, hlong, hkept, lineFrame]
  · have hr : ib.reader = ⟨(openLine P).length, false⟩ := by
      rw [h.reader, heldReader, if_neg hlong]
    have hb : ib.buffer = openLine P := by rw [h.buffer, heldBytes, if_neg hlong]
    have hcut := cutAtEnd_open (not_mem_openLine P) (Nat.not_lt.1 hlong) (openLine P).length
    by_cases hlast : openLine P = [] ∨ openLine P = [13]
    · -- nothing or a lone carriage return stays
      have h₁ : ib.nextFrame true = (ib.after ⟨0, false⟩ (openLine P), none) := by
        refine next_pending_of ?_ _
        rw [if_pos rfl, hr, hb, hcut, if_pos hlast]
      rw [drain, h₁]
      simp [readWhole, hlast, hlong]
    · -- a last line
      have h₁ : ib.nextFrame true = (lineFrame (openLine P)).elim
          ((ib.after ⟨0, false⟩ []).next true (ib.buffer.length + 1))
          fun x => (ib.after ⟨0, false⟩ [], some x) := by
        rw [lineFrame, if_neg hlong]
        refine next_line_of ?_ _
        rw [if_pos rfl, hr, hb, hcut, if_neg hlast]
      have hend : readWhole P true =
          ((endedLines P).filterMap lineFrame ++ (lineFrame (openLine P)).toList, 0) := by
        simp [readWhole, hlast]
      have hprev : (readWhole P false).1 = (endedLines P).filterMap lineFrame := by
        rw [readWhole_frames, if_neg hlong, List.append_nil]
      rw [drain, h₁, hend, hprev]
      cases lineFrame (openLine P) with
      | none =>
        simp only [Option.elim, next_end_nil (buffer_after _ _ _)]
        simp
      | some x =>
        simp only [Option.elim]
        obtain ⟨f, rfl⟩ : ∃ f', f = f' + 1 := ⟨f - 1, by omega⟩
        rw [drain_end_nil (buffer_after _ _ _)]
        simp

/-- The end of the stream: the inbox cuts the last frames the whole stream has. -/
theorem Holds.drainAll_end {P : List UInt8} (h : ib.Holds P) :
    (readWhole P false).1 ++ (ib.drainAll true).2 = (readWhole P true).1 ∧
      (ib.drainAll true).1.buffer.length = (readWhole P true).2 :=
  h.drain_end (Nat.le_add_left 2 _)

/-- Any number of reads: the run of `Holds.push`. -/
theorem Holds.feed {P : List UInt8} (h : ib.Holds P) (reads : List (List UInt8)) :
    (ib.feed reads).1.Holds (P ++ reads.flatten) ∧
      (readWhole P false).1 ++ (ib.feed reads).2 = (readWhole (P ++ reads.flatten) false).1 := by
  induction reads generalizing ib P with
  | nil => simpa [Inbox.feed] using h
  | cons c cs ih =>
    obtain ⟨h₁, hf₁⟩ := h.push c
    obtain ⟨h₂, hf₂⟩ := ih h₁
    rw [List.flatten_cons, ← List.append_assoc]
    refine ⟨h₂, ?_⟩
    rw [Inbox.feed, ← hf₂, ← hf₁, List.append_assoc]

end Inbox

/-- Decoding does not depend on how the stream is cut into reads: it gives the frames and the
count of buffered bytes of reading the whole stream at once. -/
theorem decode_eq_readWhole (reads : List (List UInt8)) (eof : Bool) :
    Inbox.decode reads eof = readWhole reads.flatten eof := by
  obtain ⟨h, hf⟩ := Inbox.holds_nil.feed reads
  have hnil : (readWhole [] false).1 = [] := by simp [readWhole, endedLines, openLine]
  simp only [hnil, List.nil_append] at h hf
  cases eof with
  | false =>
    simp only [Inbox.decode, Bool.false_eq_true, if_false, hf, h.buffer, ← readWhole_remaining]
  | true =>
    obtain ⟨hlast, hleft⟩ := h.drainAll_end
    simp only [Inbox.decode, if_true, hf, hlast, hleft]

/-- The length limit counts a carriage return before the newline: a line of `maxLine` bytes and
a carriage return is refused, however the stream ends. -/
theorem readWhole_carriage_return_at_limit {l : List UInt8} (hl : 10 ∉ l)
    (hlen : l.length = maxLine) (eof : Bool) :
    readWhole (l ++ [13, 10]) eof = ([.malformed "" tooLongReason], 0) := by
  have hl' : 10 ∉ l ++ [13] := by simp [hl]
  have hsplit : l ++ [13, 10] = (l ++ [13]) ++ 10 :: [] := by simp
  have hx : lineFrame (l ++ [13]) = some (.malformed "" tooLongReason) := by
    rw [lineFrame, if_pos (by simp; omega)]
  have hended : endedLines (l ++ [13, 10]) = [l ++ [13]] := by
    rw [hsplit, endedLines_line hl']
    simp [endedLines]
  have hopen : openLine (l ++ [13, 10]) = [] := by
    rw [hsplit, openLine_line hl']
    simp [openLine]
  cases eof <;> simp [readWhole, hended, hopen, hx]

end AgentLink
