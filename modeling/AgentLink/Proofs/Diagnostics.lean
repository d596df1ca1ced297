import AgentLink.Proofs.Observation
import AgentLink.Proofs.LineFraming
import AgentLink.Connection.Tasks

/-!
# The agent's diagnostics, reported line by line

The watcher of a connection reads what the agent writes on its diagnostic stream, cuts it into
lines and reports each line that looks like an error to the connection's failure subscriber.
`stderrReports B` is what a stream `B` calls for: the lines of `B`, cut at each newline with a
carriage return before it dropped and the bytes after the last newline as a last line, read as
text up to the first line that is not UTF-8, and of those the ones that look like errors.

The watcher is followed over every finished run, in any interleaving where the rest of the host
only lets the agent append to the stream (`DiagnosticsKept`): what it reports is always the first
of the reports the bytes it took call for, and, when it stopped reading by itself with the
connection open, all of them (`watchStderr_reports`). A line that is not UTF-8 ends the reports:
no line after it is reported, whatever it says (`watchStderr_stops_at_bad_line`).
-/

namespace AgentLink

open Concurrency Async

/-! ## The reports a stream calls for -/

/-- The lines of a diagnostic stream: cut at each newline, without a carriage return before it,
and the bytes after the last newline as a last line when there are any. -/
def diagnosticLines (B : List UInt8) : List (List UInt8) :=
  (endedLines B).map dropCarriageReturn ++ if openLine B = [] then [] else [openLine B]

/-- The text of lines, up to the first that is not UTF-8. -/
def textUntilBad : List (List UInt8) → List String
  | [] => []
  | l :: ls =>
    match utf8Decode l with
    | some t => t :: textUntilBad ls
    | none => []

/-- The reports a stream calls for: one for each line that looks like an error, with the line as
its message, in order, up to the first line that is not UTF-8. -/
def stderrReports (B : List UInt8) : List ProcessReport :=
  ((textUntilBad (diagnosticLines B)).filter looksLikeError).map (⟨.stderr, ·⟩)

/-- The reports one line calls for: itself, when it is UTF-8 and looks like an error. -/
def lineReports (line : List UInt8) : List ProcessReport :=
  match utf8Decode line with
  | some t => if looksLikeError t then [⟨.stderr, t⟩] else []
  | none => []

/-- A line that is not UTF-8 calls for no report. -/
theorem lineReports_of_bad {line : List UInt8} (h : (utf8Decode line).isSome = false) :
    lineReports line = [] := by
  unfold lineReports
  cases hd : utf8Decode line with
  | none => rfl
  | some t => simp [hd] at h

theorem diagnosticLines_line {l : List UInt8} (hl : 10 ∉ l) (t : List UInt8) :
    diagnosticLines (l ++ 10 :: t) = dropCarriageReturn l :: diagnosticLines t := by
  simp [diagnosticLines, endedLines_line hl, openLine_line hl]

theorem diagnosticLines_last {B : List UInt8} (h : 10 ∉ B) :
    diagnosticLines B = if B = [] then [] else [B] := by
  simp [diagnosticLines, endedLines_of_not_mem h, openLine_of_not_mem h]

/-- A line ended by a newline calls for its own report and then those of the rest, or, when it
is not UTF-8, ends the reports. -/
theorem stderrReports_line {l : List UInt8} (hl : 10 ∉ l) (t : List UInt8) :
    stderrReports (l ++ 10 :: t) =
      if (utf8Decode (dropCarriageReturn l)).isSome then
        lineReports (dropCarriageReturn l) ++ stderrReports t
      else [] := by
  unfold stderrReports lineReports
  rw [diagnosticLines_line hl]
  cases h : utf8Decode (dropCarriageReturn l) with
  | none => simp [textUntilBad, h]
  | some x => by_cases hx : looksLikeError x <;> simp [textUntilBad, h, hx]

/-- The bytes after the last newline call for the report of one line. -/
theorem stderrReports_last {B : List UInt8} (h : 10 ∉ B) : stderrReports B = lineReports B := by
  unfold stderrReports lineReports
  rw [diagnosticLines_last h]
  by_cases hB : B = []
  · subst hB
    decide
  · cases hd : utf8Decode B with
    | none => simp [textUntilBad, hB, hd]
    | some x => by_cases hx : looksLikeError x <;> simp [textUntilBad, hB, hd, hx]

/-! ## What the rest of the host does to the stream -/

/-- Measuring what is left after `n` bytes are taken off the front gives back the bytes taken. -/
theorem take_length_sub_drop {α : Type} (l : List α) (n : Nat) :
    l.take (l.length - (l.drop n).length) = l.take n := by
  rw [List.length_drop]
  by_cases hle : n ≤ l.length
  · rw [Nat.sub_sub_self hle]
  · rw [show l.length - (l.length - n) = l.length by omega, List.take_length,
      List.take_of_length_le (by omega)]

/-- A read of at least one byte that gets none, where bytes, the end or a failure were there to
read and reading had not failed, finds the end. -/
theorem Pipe.ended_of_take_nil {q : Pipe} {n : Nat} (hn : 0 < n) (hr : q.readable = true)
    (hf : q.fault = none) (h0 : q.unread.take n = []) : q.writing = false ∧ q.unread = [] := by
  have hu : q.unread = [] := (List.take_eq_nil_iff.1 h0).resolve_left (by omega)
  simp only [Pipe.readable, hu, hf, List.isEmpty_nil, Bool.not_true, Bool.false_or,
    Option.isSome_none, Bool.or_false, Bool.not_eq_true'] at hr
  exact ⟨hr, hu⟩

namespace Memory

theorem pipe_modifyPipe (m : Memory) (i j : Nat) (f : Pipe → Pipe) :
    (m.modifyPipe i f).pipe j = if i = j ∧ i < m.pipes.size then f (m.pipe j) else m.pipe j := by
  unfold pipe modifyPipe
  simp only [Array.getD_eq_getD_getElem?, Array.getElem?_modify]
  by_cases hij : i = j
  · subst hij
    by_cases hi : i < m.pipes.size <;> simp [hi]
  · simp [hij]

@[simp] theorem heard_modifyPipe (m : Memory) (i : Nat) (f : Pipe → Pipe) :
    (m.modifyPipe i f).heard = m.heard := rfl

@[simp] theorem links_modifyPipe (m : Memory) (i : Nat) (f : Pipe → Pipe) :
    (m.modifyPipe i f).links = m.links := rfl

/-- Only a pipe that exists has an open reading end. -/
theorem lt_of_reading {m : Memory} {p : Nat} (h : (m.pipe p).reading = true) :
    p < m.pipes.size := by
  refine Nat.lt_of_not_le fun hp => ?_
  have hd : m.pipe p = default := by
    simp [pipe, Array.getD_eq_getD_getElem?, Array.getElem?_eq_none hp]
  rw [hd] at h
  cases h

/-- Taking at most `n` bytes from a pipe that exists leaves it the rest. -/
theorem pipe_takeAtMost {m : Memory} {p : Nat} (hp : p < m.pipes.size) (n : Nat) :
    (m.modifyPipe p fun _ => { m.pipe p with unread := (m.pipe p).unread.drop n }).pipe p =
      { m.pipe p with unread := (m.pipe p).unread.drop n } := by
  simp [pipe_modifyPipe, hp]

/-- What a change of the memory shows of the diagnostics on pipe `p`: the bytes taken off the
front of the pipe, and the failure reports added. -/
def diagnostics (p : Nat) (s s' : Memory) : List (List UInt8 × List ProcessReport) :=
  [((s.pipe p).unread.take ((s.pipe p).unread.length - (s'.pipe p).unread.length),
    s'.heard.reports.drop s.heard.reports.length)]

end Memory

/-- What the rest of the host does to the diagnostics of connection `i` on pipe `p`: the agent
appends bytes while its writing end is open and may close that end, and reading the pipe may
fail, for good; nobody else takes bytes from the pipe or closes its reading end, and whether
connection `i` has a failure subscriber stays as it is. -/
structure DiagnosticsKept (i p : Nat) (s s' : Memory) : Prop where
  appends : ∃ more, (s'.pipe p).unread = (s.pipe p).unread ++ more ∧
    ((s.pipe p).writing = false → more = [])
  writing : (s.pipe p).writing = false → (s'.pipe p).writing = false
  reading : (s'.pipe p).reading = (s.pipe p).reading
  fault : (s.pipe p).fault.isSome = true → (s'.pipe p).fault = (s.pipe p).fault
  subscribed : (s'.link i).reports = (s.link i).reports

/-- Where the watcher of connection `i` on pipe `p` stands: the connection has a failure
subscriber, the pipe's reading end is open, and, when `ended`, the stream has ended: its writing
end is closed and nothing is left in it. -/
structure Watching (i p : Nat) (ended : Bool) (s : Memory) : Prop where
  subscribed : (s.link i).reports = true
  reading : (s.pipe p).reading = true
  ended : ended = true → (s.pipe p).writing = false ∧ (s.pipe p).unread = []

section Kept

variable {i p : Nat} {e : Bool} {s s' : Memory}

/-- Where the stream has ended, it has ended whatever the watcher knows. -/
theorem Watching.of_ended (h : Watching i p true s) : Watching i p e s :=
  ⟨h.subscribed, h.reading, fun _ => h.ended rfl⟩

theorem Watching.kept (h : Watching i p e s) (hk : DiagnosticsKept i p s s') :
    Watching i p e s' where
  subscribed := hk.subscribed.trans h.subscribed
  reading := hk.reading.trans h.reading
  ended he := by
    obtain ⟨hw, hu⟩ := h.ended he
    obtain ⟨more, hmore, hnone⟩ := hk.appends
    exact ⟨hk.writing hw, by rw [hmore, hu, hnone hw]; rfl⟩

theorem DiagnosticsKept.refl (s : Memory) : DiagnosticsKept i p s s :=
  ⟨⟨[], by simp, fun _ => rfl⟩, id, rfl, fun _ => rfl, rfl⟩

/-- Bytes to read, the end, or a failure stay there for the reader. -/
theorem DiagnosticsKept.readable (hk : DiagnosticsKept i p s s')
    (h : (s.pipe p).readable = true) : (s'.pipe p).readable = true := by
  obtain ⟨more, hmore, -⟩ := hk.appends
  simp only [Pipe.readable, Bool.or_eq_true, Bool.not_eq_true', List.isEmpty_eq_false_iff] at h ⊢
  rcases h with (h | h) | h
  · exact .inl (.inl (by rw [hmore]; exact List.append_ne_nil_of_left_ne_nil h more))
  · exact .inl (.inr (hk.writing h))
  · exact .inr (by rw [hk.fault h]; exact h)

/-- A pipe whose reading has not failed at the end of a stretch had not failed at its start. -/
theorem DiagnosticsKept.fault_none (hk : DiagnosticsKept i p s s') (h : (s'.pipe p).fault = none) :
    (s.pipe p).fault = none := by
  cases hf : (s.pipe p).fault with
  | none => rfl
  | some err =>
    rw [hk.fault (by simp [hf]), hf] at h
    cases h

/-- Taking at most `n` bytes, where bytes, the end or a failure were there to read and reading
had not failed, keeps where the watcher stands, and a read that got nothing finds the end. -/
theorem Watching.takeAtMost {n : Nat} (hn : 0 < n) (hw : Watching i p e s)
    (hr : (s.pipe p).readable = true) (hf : (s.pipe p).fault = none) :
    Watching i p (e || ((s.pipe p).unread.take n).isEmpty)
      (s.modifyPipe p fun _ => { s.pipe p with unread := (s.pipe p).unread.drop n }) := by
  have hpipe := Memory.pipe_takeAtMost (Memory.lt_of_reading hw.reading) n
  refine ⟨hw.subscribed, by rw [hpipe]; exact hw.reading, fun he => ?_⟩
  rw [hpipe]
  rcases Bool.or_eq_true_iff.1 he with he | he
  · obtain ⟨hwr, hu⟩ := hw.ended he
    exact ⟨hwr, by simp [hu]⟩
  · -- reading nothing where bytes or the end were there means the end
    obtain ⟨hwr, hu⟩ := Pipe.ended_of_take_nil hn hr hf (List.isEmpty_iff.1 he)
    exact ⟨hwr, by simp [hu]⟩

end Kept

/-! ## What a run of the watcher did -/

/-- What the watcher did over a run from buffer `buf`, showing `xs` and stopping in `s'`: its
reports are the first of those the buffered and taken bytes call for, and all of them when it
stopped reading by itself with the connection open and reading never failed; from a stream that
had ended it took nothing. -/
def Watched (i p : Nat) (buf : List UInt8) (ended : Bool)
    (xs : List (List UInt8 × List ProcessReport)) (s' : Memory) : Prop :=
  xs.flatMap Prod.snd <+: stderrReports (buf ++ xs.flatMap Prod.fst) ∧
  ((s'.link i).closed = false → (s'.pipe p).reading = false → (s'.pipe p).fault = none →
    xs.flatMap Prod.snd = stderrReports (buf ++ xs.flatMap Prod.fst)) ∧
  (ended = true → xs.flatMap Prod.fst = [])

namespace Watched

variable {i p : Nat} {buf : List UInt8} {e : Bool} {xs put : List (List UInt8 × List ProcessReport)}
  {s' : Memory}

/-- A run that reports nothing, and stops where the stream calls for no more reports unless the
connection closed or reading failed. -/
theorem of_silent (hmade : xs.flatMap Prod.snd = []) (hend : e = true → xs.flatMap Prod.fst = [])
    (hstop : (s'.link i).closed = false → (s'.pipe p).reading = false → (s'.pipe p).fault = none →
      stderrReports (buf ++ xs.flatMap Prod.fst) = []) :
    Watched i p buf e xs s' :=
  ⟨hmade ▸ List.nil_prefix, fun hc hr hf => hmade.trans (hstop hc hr hf).symm, hend⟩

/-- A run from a buffer without newlines that has taken bytes goes on as a run from the longer
buffer. -/
theorem of_read (bytes : List UInt8) (hend : e = true → bytes = [])
    (h : Watched i p (buf ++ bytes) e xs s') :
    Watched i p buf e ((bytes, []) :: xs) s' := by
  unfold Watched at h ⊢
  simp only [List.flatMap_cons, List.nil_append, List.append_assoc] at h ⊢
  obtain ⟨hpre, heq, hnil⟩ := h
  exact ⟨hpre, heq, fun he => by rw [hend he, hnil he]; rfl⟩

/-- A run that handled a line ended by a newline, reporting what it calls for, goes on as a run
from the rest of the buffer. -/
theorem of_line {l t : List UInt8} (hl : 10 ∉ l)
    (hok : (utf8Decode (dropCarriageReturn l)).isSome = true)
    (htaken : put.flatMap Prod.fst = [])
    (hmade : put.flatMap Prod.snd = lineReports (dropCarriageReturn l))
    (h : Watched i p t e xs s') :
    Watched i p (l ++ 10 :: t) e (put ++ xs) s' := by
  unfold Watched at h ⊢
  obtain ⟨hpre, heq, hnil⟩ := h
  have hcall : ∀ T, stderrReports (l ++ 10 :: t ++ T) =
      lineReports (dropCarriageReturn l) ++ stderrReports (t ++ T) := by
    intro T
    rw [List.append_assoc, List.cons_append, stderrReports_line hl, if_pos hok]
  simp only [List.flatMap_append, htaken, hmade, List.nil_append, hcall]
  exact ⟨List.prefix_append_right_inj _ |>.2 hpre, fun hc hr hf => by rw [heq hc hr hf], hnil⟩

/-- A run that handled the bytes after the last newline as a last line, once the stream had
ended, reports what that line calls for and nothing more. -/
theorem of_last (put : List (List UInt8 × List ProcessReport)) (hbuf : 10 ∉ buf)
    (htaken : put.flatMap Prod.fst = [])
    (hmade : put.flatMap Prod.snd = lineReports buf) (h : Watched i p [] true xs s') :
    Watched i p buf e (put ++ xs) s' := by
  unfold Watched at h ⊢
  obtain ⟨hpre, -, hnil⟩ := h
  have hxs : xs.flatMap Prod.fst = [] := hnil rfl
  have hnone : xs.flatMap Prod.snd = [] := by
    rw [hxs] at hpre
    exact List.eq_nil_of_prefix_nil hpre
  have hall : (put ++ xs).flatMap Prod.snd = stderrReports (buf ++ (put ++ xs).flatMap Prod.fst) := by
    simp only [List.flatMap_append, htaken, hxs, hmade, hnone, List.append_nil,
      stderrReports_last hbuf]
  refine ⟨hall ▸ List.prefix_refl _, fun _ _ _ => hall, fun _ => ?_⟩
  simp only [List.flatMap_append, htaken, hxs, List.append_nil]

end Watched

/-! ## What a run costs

A loop with fuel stops when its turns run out. The turns of the watcher and of the reader are
paid for by the bytes they read: each turn lowers what is still owed, or reads bytes that pay
for more turns than the read adds to what is owed. A run that still reads at its end has
therefore taken bytes in proportion to its fuel. -/

/-- A run that still reads at its end has used all its `fuel` turns, and the bytes it took paid
for them at `k` turns a byte, beyond the `c` turns owed at its start. -/
def Paid {β : Type} (p k fuel c : Nat) (xs : List (List UInt8 × β)) (s' : Memory) : Prop :=
  (s'.pipe p).reading = true → fuel ≤ k * (xs.flatMap Prod.fst).length + c

namespace Paid

variable {β : Type} {p k fuel c : Nat} {xs : List (List UInt8 × β)} {s' : Memory}

/-- A run that stopped reading needs no account of its turns. -/
theorem of_stopped (h : (s'.pipe p).reading = false) : Paid p k fuel c xs s' := by
  intro hr
  rw [h] at hr
  cases hr

theorem zero : Paid p k 0 c xs s' := fun _ => Nat.zero_le _

/-- A turn that took the bytes of `put`, followed by a run owed `c'` turns, is paid for when the
bytes and `c` pay for that turn and `c'`. -/
theorem step {c' : Nat} {put : List (List UInt8 × β)} (h : Paid p k fuel c' xs s')
    (hc : c' + 1 ≤ k * (put.flatMap Prod.fst).length + c) :
    Paid p k (fuel + 1) c (put ++ xs) s' := by
  intro hr
  have hf := h hr
  simp only [List.flatMap_append, List.length_append, Nat.mul_add]
  omega

/-- A turn that took no bytes is paid for when `c` pays for it and `c'`. -/
theorem idle {c' : Nat} (h : Paid p k fuel c' xs s') (hc : c' + 1 ≤ c) :
    Paid p k (fuel + 1) c xs s' := fun hr => by
  have hf := h hr
  omega

end Paid

/-- The turns the watcher of connection `i` on pipe `p` owes with `buf` buffered: two a buffered
byte, and two to read, or three when it must wait first. -/
def watchCost (i p : Nat) (buf : List UInt8) (s : Memory) : Nat :=
  2 * buf.length + if (s.link i).closed || (s.pipe p).readable then 2 else 3

theorem watchCost_le (i p : Nat) (buf : List UInt8) (s : Memory) :
    watchCost i p buf s ≤ 2 * buf.length + 3 := by
  unfold watchCost
  split <;> omega

/-- Every finished run of the watcher with `fuel` turns, from any buffer, in an interleaving where
the rest of the host moves as `E` allows: its reports are as `Watched` says, and when it still
reads at its end, the bytes it took paid for its turns. -/
def WatchRuns (E : Memory → Memory → Prop) (i p fuel : Nat) : Prop :=
  ∀ buf e c, Emits (Memory.diagnostics p) E (fun s => Watching i p e s ∧ watchCost i p buf s ≤ c)
    (Link.watchStderr i p fuel buf) fun _ xs s' => Watched i p buf e xs s' ∧ Paid p 4 fuel c xs s'

/-- The runs of the watcher from wherever it stands, owed the most a buffer can owe. -/
theorem WatchRuns.any {E : Memory → Memory → Prop} {i p fuel : Nat} (h : WatchRuns E i p fuel)
    (buf : List UInt8) (e : Bool) :
    Emits (Memory.diagnostics p) E (Watching i p e) (Link.watchStderr i p fuel buf)
      fun _ xs s' => Watched i p buf e xs s' ∧ Paid p 4 fuel (2 * buf.length + 3) xs s' :=
  (h buf e _).conseq (fun s hs => ⟨hs, watchCost_le i p buf s⟩) fun _ _ _ h => h

/-! ## The watcher's steps -/

namespace Link

section Steps

variable {i p : Nat} {e : Bool} {E : Memory → Memory → Prop}

/-- Reporting to a subscriber shows the report and takes nothing. -/
theorem emits_report (hE : ∀ s s', E s s' → DiagnosticsKept i p s s') (r : ProcessReport) :
    Emits (Memory.diagnostics p) E (Watching i p e) (Link.report i r) fun _ put s' =>
      Watching i p e s' ∧ put = [([], [r])] := by
  unfold Link.report
  refine Emits.spend_bind (fun _ _ h hw => h.kept (hE _ _ hw)) ?_
  refine (Emits.modify _).conseq (fun _ h => h) ?_
  rintro _ put s' ⟨s, hs, rfl, rfl⟩
  simp only [Memory.report, hs.subscribed, if_true, Memory.modifyHeard]
  refine ⟨⟨hs.subscribed, hs.reading, hs.ended⟩, ?_⟩
  simp [Memory.diagnostics, Memory.pipe]

/-- Handling one line reports what it calls for, takes nothing, and answers whether the line is
UTF-8. -/
theorem emits_stderrLine (hE : ∀ s s', E s s' → DiagnosticsKept i p s s') (bytes : List UInt8)
    (terminated : Bool) :
    Emits (Memory.diagnostics p) E (Watching i p e) (Link.stderrLine i bytes terminated)
      fun ok put s' => Watching i p e s' ∧ put.flatMap Prod.fst = [] ∧
        put.flatMap Prod.snd = lineReports (if terminated then dropCarriageReturn bytes else bytes) ∧
        ok = (utf8Decode (if terminated then dropCarriageReturn bytes else bytes)).isSome := by
  unfold Link.stderrLine
  dsimp only
  generalize (if terminated then dropCarriageReturn bytes else bytes) = line
  cases hd : utf8Decode line with
  | none =>
    refine (Emits.pure false).conseq (fun _ h => h) ?_
    rintro _ _ s' ⟨rfl, rfl, hs⟩
    exact ⟨hs, rfl, by simp [lineReports, hd], by simp⟩
  | some t =>
    by_cases ht : looksLikeError t
    · simp only [ht, if_true]
      refine (emits_report hE _).bind fun _ put => (Emits.pure true).conseq (fun _ h => h) ?_
      rintro _ _ s' ⟨rfl, rfl, hs, rfl⟩
      exact ⟨hs, rfl, by simp [lineReports, hd, ht], by simp⟩
    · simp only [ht, Bool.false_eq_true, if_false]
      refine (Emits.pure ()).bind fun _ put => (Emits.pure true).conseq (fun _ h => h) ?_
      rintro _ _ s' ⟨rfl, rfl, -, rfl, hs⟩
      exact ⟨hs, rfl, by simp [lineReports, hd, ht], by simp⟩

/-- Closing the pipe's reading end shows the bytes left in it as dropped, and keeps whether
reading it had failed. -/
theorem emits_stop {P : Memory → Prop} (hP : ∀ s, P s → Watching i p e s) :
    Emits (Memory.diagnostics p) E P (Async.modify (·.modifyPipe p Pipe.closeReader))
      fun _ put s' => ∃ s, P s ∧ put = [((s.pipe p).unread, [])] ∧
        (s'.link i).closed = (s.link i).closed ∧ (s'.pipe p).reading = false ∧
        (s'.pipe p).fault = (s.pipe p).fault := by
  refine (Emits.modify _).conseq (fun _ h => h) ?_
  rintro _ put s' ⟨s, hs, rfl, rfl⟩
  have hp := Memory.lt_of_reading (hP s hs).reading
  refine ⟨s, hs, ?_, rfl, by simp [Memory.pipe_modifyPipe, hp, Pipe.closeReader],
    by simp [Memory.pipe_modifyPipe, hp, Pipe.closeReader]⟩
  simp [Memory.diagnostics, Memory.pipe_modifyPipe, hp, Pipe.closeReader]

/-- Taking bytes shows them as taken; taking none means the stream has ended, since bytes or the
end were there to read and reading had not failed. -/
theorem emits_takeAtMost {n : Nat} (hn : 0 < n) {P : Memory → Prop}
    (hP : ∀ s, P s → Watching i p e s ∧ (s.pipe p).readable = true ∧ (s.pipe p).fault = none) :
    Emits (Memory.diagnostics p) E P (Link.takeAtMost p n) fun bytes put s' => ∃ s, P s ∧
      Watching i p (e || bytes.isEmpty) s' ∧ put = [(bytes, [])] ∧
      (s'.link i).closed = (s.link i).closed ∧ (e = true → bytes = []) := by
  refine (Emits.modifyGet _).conseq (fun _ h => h) ?_
  rintro bytes put s' ⟨s, hs, hf, rfl⟩
  obtain ⟨hw, hr, hnf⟩ := hP s hs
  have hpipe := Memory.pipe_takeAtMost (Memory.lt_of_reading hw.reading) n
  simp only [Pipe.takeAtMost, Prod.mk.injEq] at hf
  obtain ⟨rfl, rfl⟩ := hf
  refine ⟨s, hs, hw.takeAtMost hn hr hnf, ?_, rfl, fun he => ?_⟩
  · simp only [Memory.diagnostics, hpipe, take_length_sub_drop, Memory.heard_modifyPipe,
      List.drop_length]
  · simp [(hw.ended he).2]

/-- A read meets the pipe's failure, changing nothing, or takes bytes as `emits_takeAtMost`
says. -/
theorem emits_readAtMost {n : Nat} (hn : 0 < n) {P : Memory → Prop}
    (hP : ∀ s, P s → Watching i p e s ∧ (s.pipe p).readable = true) :
    Emits (Memory.diagnostics p) E P (Link.readAtMost p n) fun r put s' =>
      match r with
      | .error err => P s' ∧ (s'.pipe p).fault = some err ∧ put = []
      | .ok bytes => ∃ s, P s ∧ Watching i p (e || bytes.isEmpty) s' ∧ put = [(bytes, [])] ∧
          (s'.link i).closed = (s.link i).closed ∧ (e = true → bytes = []) := by
  unfold Link.readAtMost
  refine Emits.read_bind fun fault => ?_
  cases fault with
  | some err =>
    refine (Emits.pure _).conseq (fun _ h => h) ?_
    rintro _ _ s' ⟨rfl, rfl, hs, hf⟩
    exact ⟨hs, hf.symm, rfl⟩
  | none =>
    refine (emits_takeAtMost hn fun s h => ⟨(hP s h.1).1, (hP s h.1).2, h.2.symm⟩).bind
      fun bytes put => (Emits.pure _).conseq (fun _ h => h) ?_
    rintro _ _ s' ⟨rfl, rfl, s, ⟨hs, -⟩, hw, hput, hc, hend⟩
    exact ⟨s, hs, hw, by rw [hput, List.append_nil], hc, hend⟩

/-- Stopping after a stretch that took and reported nothing, where the stream calls for no more
reports unless the connection has closed or reading has failed. -/
theorem emits_stop_silent {buf : List UInt8} {P : Memory → Prop}
    (put : List (List UInt8 × List ProcessReport)) (hP : ∀ s, P s → Watching i p e s)
    (htaken : put.flatMap Prod.fst = []) (hmade : put.flatMap Prod.snd = [])
    (hstop : ∀ s, P s → (s.link i).closed = false → (s.pipe p).fault = none →
      stderrReports (buf ++ (s.pipe p).unread) = []) :
    Emits (Memory.diagnostics p) E P (Async.modify (·.modifyPipe p Pipe.closeReader))
      fun _ put' s' => Watched i p buf e (put ++ put') s' ∧ (s'.pipe p).reading = false := by
  refine (emits_stop hP).conseq (fun _ h => h) ?_
  rintro _ put' s' ⟨s, hs, rfl, hc, hr, hf⟩
  refine ⟨Watched.of_silent (by simp [hmade]) (fun he => ?_) fun hopen _ hnone => ?_, hr⟩
  · simp [htaken, ((hP s hs).ended he).2]
  · simpa [htaken] using hstop s hs (hc ▸ hopen) (hf ▸ hnone)

/-- With a whole line buffered, the watcher handles the line and goes on with the rest, or stops
at it when it is not UTF-8; the line's byte pays for the turn. -/
theorem emits_watchLine (hE : ∀ s s', E s s' → DiagnosticsKept i p s s') {fuel : Nat}
    (ih : WatchRuns E i p fuel) {l : List UInt8} (hl : 10 ∉ l) (t : List UInt8) {c : Nat}
    (hc : 2 * (l ++ 10 :: t).length + 2 ≤ c) :
    Emits (Memory.diagnostics p) E (Watching i p e)
      (do if ← Link.stderrLine i l true then Link.watchStderr i p fuel t
          else Async.modify (·.modifyPipe p Pipe.closeReader))
      fun _ xs s' => Watched i p (l ++ 10 :: t) e xs s' ∧ Paid p 4 (fuel + 1) c xs s' := by
  refine (emits_stderrLine hE l true).bind fun ok put =>
    Emits.assume (fun _ h => h.2) fun ⟨htaken, hmade, hok⟩ => ?_
  simp only [if_true] at hmade hok
  have hlen : 2 * t.length + 3 + 1 ≤ 4 * (put.flatMap Prod.fst).length + c := by
    simp only [htaken, List.length_nil, Nat.mul_zero, Nat.zero_add]
    simp only [List.length_append, List.length_cons] at hc
    omega
  cases ok with
  | true =>
    simp only [if_true]
    exact (ih.any t e).conseq (fun _ h => h.1)
      fun _ xs s' h => ⟨Watched.of_line hl hok.symm htaken hmade h.1, h.2.step hlen⟩
  | false =>
    simp only [Bool.false_eq_true, if_false]
    refine (emits_stop_silent put (fun _ h => h.1) htaken
      (hmade.trans (lineReports_of_bad hok.symm)) fun s _ _ _ => ?_).conseq (fun _ h => h)
        fun _ _ _ h => ⟨h.1, Paid.of_stopped h.2⟩
    rw [List.append_assoc, List.cons_append, stderrReports_line hl, if_neg (by simp [← hok])]

/-- Once the stream has ended, the bytes after the last newline are handled as a last line, and
nothing is read after them. -/
theorem emits_watchLast (hE : ∀ s s', E s s' → DiagnosticsKept i p s s') {fuel : Nat}
    (ih : WatchRuns E i p fuel) {buf : List UInt8} (hbuf : 10 ∉ buf) {c : Nat}
    (hc : 2 * buf.length + 2 ≤ c) :
    Emits (Memory.diagnostics p) E (Watching i p true)
      (if buf.isEmpty then Async.modify (·.modifyPipe p Pipe.closeReader)
        else do
          if ← Link.stderrLine i buf false then Link.watchStderr i p fuel []
          else Async.modify (·.modifyPipe p Pipe.closeReader))
      fun _ xs s' => Watched i p buf e ([([], [])] ++ xs) s' ∧
        Paid p 4 (fuel + 1) c ([([], [])] ++ xs) s' := by
  cases hbuf' : buf.isEmpty with
  | true =>
    obtain rfl : buf = [] := List.isEmpty_iff.1 hbuf'
    simp only [if_true]
    refine (emits_stop_silent _ (fun s h => h.of_ended) rfl rfl fun s h _ _ => ?_).conseq
      (fun _ h => h) fun _ _ _ h => ⟨h.1, Paid.of_stopped h.2⟩
    rw [(h.ended rfl).2]
    rfl
  | false =>
    simp only [Bool.false_eq_true, if_false]
    refine (emits_stderrLine hE buf false).bind fun ok put =>
      Emits.assume (fun _ h => h.2) fun ⟨htaken, hmade, hok⟩ => ?_
    simp only [Bool.false_eq_true, if_false] at hmade hok
    cases ok with
    | true =>
      simp only [if_true]
      -- the last line is handled; the turn that reads the end again is paid for by it
      have hlen : 2 * ([] : List UInt8).length + 3 + 1 ≤
          4 * (([([], [])] ++ put).flatMap Prod.fst).length + c := by
        have : buf ≠ [] := fun h => by simp [h] at hbuf'
        have : 0 < buf.length := List.length_pos_iff.2 this
        simp only [List.flatMap_append, htaken, List.length_nil]
        simp
        omega
      exact (ih.any [] true).conseq (fun _ h => h.1)
        fun _ xs s' h => ⟨Watched.of_last ([([], [])] ++ put) hbuf
          (by simp [htaken]) (by simp [hmade]) h.1, h.2.step hlen⟩
    | false =>
      simp only [Bool.false_eq_true, if_false]
      -- the last line is not UTF-8: nothing to report, and nothing after it
      have hnone : lineReports buf = [] := lineReports_of_bad hok.symm
      refine (emits_stop_silent ([([], [])] ++ put)
        (fun s (h : Watching i p true s ∧ _) => h.1.of_ended)
        (by simp [htaken]) (by simp [hmade, hnone]) fun s h _ _ => ?_).conseq (fun _ h => h)
          fun _ _ _ h => ⟨h.1, Paid.of_stopped h.2⟩
      rw [(h.1.ended rfl).2, List.append_nil, stderrReports_last hbuf, hnone]

/-- With no whole line buffered, the watcher waits for bytes or the end and reads them: new
bytes join the buffer, the end makes the buffer the last line, and a failed read stops it. A
wait is paid for by what is owed before it, a read by the bytes it takes. -/
theorem emits_watchRead (hE : ∀ s s', E s s' → DiagnosticsKept i p s s') {fuel : Nat}
    (ih : WatchRuns E i p fuel) {buf : List UInt8} (hbuf : 10 ∉ buf) {c : Nat} :
    Emits (Memory.diagnostics p) E
      (fun s => Watching i p e s ∧ (s.link i).closed = false ∧ watchCost i p buf s ≤ c)
      (do
        if !(← Async.read fun m => (m.pipe p).readable) then
          Async.waitUntil (fun m => (m.link i).closed || (m.pipe p).readable) none
          Link.watchStderr i p fuel buf
        else
          Async.spend
          if ← Link.isClosed i then Async.modify (·.modifyPipe p Pipe.closeReader)
          else
            match ← Link.readAtMost p diagnosticsChunk with
            | .error _ => Async.modify (·.modifyPipe p Pipe.closeReader)
            | .ok bytes =>
              if !bytes.isEmpty then Link.watchStderr i p fuel (buf ++ bytes)
              else if buf.isEmpty then Async.modify (·.modifyPipe p Pipe.closeReader)
              else if ← Link.stderrLine i buf false then Link.watchStderr i p fuel []
              else Async.modify (·.modifyPipe p Pipe.closeReader))
      fun _ xs s' => Watched i p buf e xs s' ∧ Paid p 4 (fuel + 1) c xs s' := by
  refine Emits.read_bind fun readable => ?_
  cases readable with
  | false =>
    -- nothing to read yet: wait, then start over with the same buffer, owing one turn less
    simp only [Bool.not_false, if_true]
    refine Emits.assume (c := 2 * buf.length + 3 ≤ c) (fun s ⟨⟨_, hc, hcost⟩, hr⟩ => ?_)
      fun hcost => ?_
    · simpa [watchCost, hc, ← hr] using hcost
    refine Emits.waitUntil_bind (Q := Watching i p e) (fun _ _ h hw => h.1.1.kept (hE _ _ hw)) ?_
    refine (ih buf e (2 * buf.length + 2)).conseq (fun s h => ⟨h.1, by simp [watchCost, h.2]⟩)
      fun _ xs s' h => ⟨h.1, h.2.idle (by omega)⟩
  | true =>
    simp only [Bool.not_true, Bool.false_eq_true, if_false]
    refine Emits.assume (c := 2 * buf.length + 2 ≤ c) (fun s ⟨⟨_, _, hcost⟩, _⟩ => ?_)
      fun hcost => ?_
    · exact Nat.le_trans (by unfold watchCost; split <;> omega) hcost
    -- give way, then read unless the connection closed meanwhile
    refine Emits.conseq (P := fun s => Watching i p e s ∧ (s.pipe p).readable = true) ?_
      (fun _ h => ⟨h.1.1, h.2.symm⟩) fun _ _ _ h => h
    refine Emits.spend_bind
      (fun _ _ h hw => ⟨h.1.kept (hE _ _ hw), (hE _ _ hw).readable h.2⟩) ?_
    refine Emits.read_bind fun closed => ?_
    cases closed with
    | true =>
      simp only [if_true]
      exact (emits_stop_silent [] (fun _ h => h.1.1) rfl rfl fun s h hc _ => by
        rw [← h.2] at hc; cases hc).conseq (fun _ h => h) fun _ _ _ h => ⟨h.1, Paid.of_stopped h.2⟩
    | false =>
      simp only [Bool.false_eq_true, if_false]
      refine (emits_readAtMost (n := diagnosticsChunk) (by decide) fun s h => h.1).bind
        fun r put => ?_
      cases r with
      | error err =>
        -- reading failed: stop, reporting nothing; the failure stays to the end
        refine Emits.assume (c := put = []) (fun _ h => h.2.2) fun hput => ?_
        subst hput
        exact (emits_stop_silent [] (fun s h => h.1.1.1) rfl rfl fun s h _ hnone => by
          rw [h.2.1] at hnone; cases hnone).conseq (fun _ h => h)
            fun _ _ _ h => ⟨h.1, Paid.of_stopped h.2⟩
      | ok bytes =>
        refine Emits.assume (c := put = [(bytes, [])] ∧ (e = true → bytes = []))
          (fun _ h => by obtain ⟨-, -, -, hput, -, hb⟩ := h; exact ⟨hput, hb⟩)
          fun ⟨hput, hend⟩ => ?_
        subst hput
        cases bytes with
        | nil =>
          -- the stream has ended: what is buffered is the last line
          simp only [List.isEmpty_nil, Bool.not_true, Bool.false_eq_true, if_false]
          refine (emits_watchLast hE ih hbuf hcost).conseq (fun s h => ?_) fun _ _ _ h => h
          obtain ⟨-, -, hw, -⟩ := h
          simpa using hw
        | cons b bs =>
          -- bytes came: go on with them buffered, the bytes paying for the turn
          simp only [List.isEmpty_cons, Bool.not_false, if_true]
          refine (ih.any (buf ++ b :: bs) e).conseq ?_ fun _ xs s' h =>
            ⟨Watched.of_read (b :: bs) hend h.1, h.2.step (by simp; omega)⟩
          rintro s ⟨-, -, hw, -⟩
          simpa using hw

end Steps

/-- Every finished run of the watcher, from any buffer and fuel, in an interleaving where the
rest of the host keeps the diagnostics as the agent writes them: its reports are the first of
those the buffered and taken bytes call for, all of them when it stopped reading by itself with
the connection open and reading never failed; and when it still reads at its end, the bytes it
took paid for its turns, four turns a byte beyond what its buffer owed. -/
theorem emits_watchStderr {i p : Nat} {E : Memory → Memory → Prop}
    (hE : ∀ s s', E s s' → DiagnosticsKept i p s s') : ∀ fuel, WatchRuns E i p fuel
  | 0, buf, e, c => by
    unfold Link.watchStderr
    refine (Emits.pure ()).conseq (fun _ h => h) ?_
    rintro _ _ s' ⟨-, rfl, hs, -⟩
    refine ⟨Watched.of_silent rfl (fun _ => rfl) fun _ hr _ => ?_, Paid.zero⟩
    rw [hs.reading] at hr
    cases hr
  | fuel + 1, buf, e, c => by
    unfold Link.watchStderr
    dsimp only
    refine Emits.read_bind fun closed => ?_
    cases closed with
    | true =>
      -- the connection closed: stop at once
      simp only [if_true]
      exact (emits_stop_silent [] (fun _ h => h.1.1) rfl rfl fun s h hc _ => by
        rw [← h.2] at hc; cases hc).conseq (fun _ h => h) fun _ _ _ h => ⟨h.1, Paid.of_stopped h.2⟩
    | false =>
      simp only [Bool.false_eq_true, if_false]
      -- the loop goes on from the first whole line buffered, or reads when there is none
      rcases newline_cases buf with hbuf | ⟨l, t, hl, rfl⟩
      · rw [show List.findIdx? (· == 10) buf = none from newlineIndex_eq_none hbuf]
        dsimp only
        exact (emits_watchRead hE (emits_watchStderr hE fuel) hbuf).conseq
          (fun _ h => ⟨h.1.1, h.2.symm, h.1.2⟩) fun _ _ _ h => h
      · rw [show List.findIdx? (· == 10) (l ++ 10 :: t) = some l.length from
          newlineIndex_append_cons hl t]
        dsimp only
        have htake : (l ++ 10 :: t).take l.length = l := by simp
        have hdrop : (l ++ 10 :: t).drop (l.length + 1) = t := by simp
        rw [htake, hdrop]
        refine Emits.assume (c := 2 * (l ++ 10 :: t).length + 2 ≤ c)
          (fun s ⟨⟨_, hcost⟩, _⟩ => Nat.le_trans (by unfold watchCost; split <;> omega) hcost)
          fun hc => ?_
        exact (emits_watchLine hE (emits_watchStderr hE fuel) hl t hc).conseq (fun _ h => h.1.1)
          fun _ _ _ h => h

end Link

/-- Every error-looking line of the agent's diagnostics is reported, up to the first line that is
not UTF-8. Every finished run of the watcher that attaching the diagnostics starts, in any
interleaving where the rest of the host keeps the diagnostics as the agent writes them, from a
state where the connection has a failure subscriber and the pipe's reading end is open: the
reports it makes are the first of those that the bytes it took call for, in order. When the
connection stays open and reading the pipe never fails, it has stopped reading by the end of the
run and made all of them, unless the run took more than a quarter of `loopFuel` bytes. Those end
at the first line that is not UTF-8. -/
theorem watchStderr_reports {i p : Nat} {E : Memory → Memory → Prop}
    (hE : ∀ s s', E s s' → DiagnosticsKept i p s s') :
    Emits (Memory.diagnostics p) E (fun s => (s.link i).reports = true ∧ (s.pipe p).reading = true)
      (Link.watchStderr i p loopFuel []) fun _ xs s' =>
        xs.flatMap Prod.snd <+: stderrReports (xs.flatMap Prod.fst) ∧
        ((s'.link i).closed = false → (s'.pipe p).fault = none →
          4 * (xs.flatMap Prod.fst).length + 3 < loopFuel →
          (s'.pipe p).reading = false ∧ xs.flatMap Prod.snd = stderrReports (xs.flatMap Prod.fst)) :=
  (Link.emits_watchStderr hE loopFuel [] false 3).conseq
    (fun s h => ⟨⟨h.1, h.2, nofun⟩, watchCost_le i p [] s⟩) fun _ _ _ h =>
      ⟨h.1.1, fun hc hf hlt =>
        have hr : _ = false := Bool.eq_false_iff.2 fun hr => absurd (h.2 hr) (by omega)
        ⟨hr, h.1.2.1 hc hr hf⟩⟩

/-- The watcher of connection `0` on pipe `1`, over runs where the rest of the host keeps the
diagnostics. -/
theorem watchStderr_reports_kept :
    Emits (Memory.diagnostics 1) (DiagnosticsKept 0 1)
      (fun s => (s.link 0).reports = true ∧ (s.pipe 1).reading = true)
      (Link.watchStderr 0 1 loopFuel []) fun _ xs s' =>
        xs.flatMap Prod.snd <+: stderrReports (xs.flatMap Prod.fst) ∧
        ((s'.link 0).closed = false → (s'.pipe 1).fault = none →
          4 * (xs.flatMap Prod.fst).length + 3 < loopFuel →
          (s'.pipe 1).reading = false ∧ xs.flatMap Prod.snd = stderrReports (xs.flatMap Prod.fst)) :=
  watchStderr_reports fun _ _ h => h

/-- A connection with a failure subscriber whose agent wrote a line that is not UTF-8 and then
`error: boom`, and closed its diagnostics. -/
def badThenError : Memory :=
  { Memory.new (Client.new default) with
    pipes := #[⟨[0xff, 10] ++ utf8Encode "error: boom\n", false, true, none⟩]
    links := #[{ Connection.fresh 1 2 with reports := true }] }

/-- After a line that is not UTF-8 nothing is reported: the watcher takes the whole stream,
`error: boom` included, and finishes without a report. -/
theorem watchStderr_stops_at_bad_line :
    looksLikeError "error: boom" = true ∧
      ∃ xs, (Link.watchStderr 0 0 loopFuel []).toProgram.Emits (Memory.diagnostics 0)
          (DiagnosticsKept 0 0) badThenError xs ∧
        xs.flatMap Prod.fst = [0xff, 10] ++ utf8Encode "error: boom\n" ∧ xs.flatMap Prod.snd = [] :=
  ⟨by decide, _, .look 0 (.look 0 (.spend _ (.refl _) (.look 0 (.look 0 (.look 0 (.update
    (.look 0 (.update (.done _))))))))), rfl, rfl⟩

end AgentLink
