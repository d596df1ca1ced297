import AgentLink.Proofs.LineFraming

/-!
# Cutting frames one at a time

The reader of a connection does not drain its inbox in one go: it cuts one frame, handles it,
and cuts the next, until the inbox has none; only then does it read the pipe again. This module
shows that it sees the frames of the whole stream all the same, in order.

`Inbox.Cuts a ib fs ib'` says that cutting frames from `ib` one at a time gives `fs` and then
none, leaving `ib'`. Draining with enough fuel is such a run (`Inbox.cuts_of_drain`), and the
fuel of `Inbox.drainAll` is enough after a read or at the end. `Framer.At fr P done` says where
a framer stands once the stream `P` was read and the frames `done` were taken from it: what it
will still cut completes `done` to the frames of `P`. Taking a frame, finding none, and reading
bytes or the end keep it (`Framer.At.next_some`, `next_none`, `push`, `finish`).
-/

namespace AgentLink

namespace Inbox

/-- Cutting frames from `ib` one at a time gives `fs`, and then none, leaving `ib'`. -/
inductive Cuts (a : Bool) : Inbox → List Frame → Inbox → Prop
  | last {ib ib' : Inbox} : ib.nextFrame a = (ib', none) → Cuts a ib [] ib'
  | frame {ib ib' ib'' : Inbox} {f : Frame} {fs : List Frame} :
      ib.nextFrame a = (ib', some f) → Cuts a ib' fs ib'' → Cuts a ib (f :: fs) ib''

variable {a : Bool} {ib ib' ib'' : Inbox} {fs : List Frame}

theorem length_drain_le (ib : Inbox) (a : Bool) : ∀ f, (ib.drain a f).2.length ≤ f
  | 0 => Nat.le_refl 0
  | f + 1 => by
    rcases hn : ib.nextFrame a with ⟨ib', _ | x⟩
    · simp [drain, hn]
    · have ih := length_drain_le ib' a f
      simp only [drain, hn, List.length_cons]
      omega

/-- Draining that stops before its fuel runs out cuts until no frame is left. -/
theorem cuts_of_drain : ∀ {f : Nat} {ib : Inbox}, (ib.drain a f).2.length < f →
    Cuts a ib (ib.drain a f).2 (ib.drain a f).1
  | 0, _, h => absurd h (Nat.not_lt_zero _)
  | f + 1, ib, h => by
    rcases hn : ib.nextFrame a with ⟨ib', _ | x⟩
    · simp only [drain, hn]
      exact .last hn
    · rcases hd : ib'.drain a f with ⟨ib₂, fs₂⟩
      simp only [drain, hn, hd, List.length_cons] at h ⊢
      have hlt : fs₂.length < f := by omega
      have hcut := cuts_of_drain (show (ib'.drain a f).2.length < f by rw [hd]; exact hlt)
      rw [hd] at hcut
      exact .frame hn hcut

/-- Draining that cuts the same frames with one more unit of fuel cuts until none is left. -/
theorem cuts_of_drain_succ {f : Nat} (h : (ib.drain a (f + 1)).2 = (ib.drain a f).2) :
    Cuts a ib (ib.drain a (f + 1)).2 (ib.drain a (f + 1)).1 :=
  cuts_of_drain (by rw [h]; exact Nat.lt_succ_of_le (length_drain_le ib a f))

namespace Cuts

/-- Where the next cut finds no frame, none are left. -/
theorem next_none (h : Cuts a ib fs ib'') (hn : ib.nextFrame a = (ib', none)) :
    fs = [] ∧ ib' = ib'' := by
  cases h with
  | last h' =>
    obtain ⟨rfl, -⟩ := Prod.mk.inj (hn.symm.trans h')
    exact ⟨rfl, rfl⟩
  | frame h' _ => cases hn.symm.trans h'

/-- Where the next cut finds a frame, it is the first, and cutting goes on from there. -/
theorem next_some {x : Frame} (h : Cuts a ib fs ib'') (hn : ib.nextFrame a = (ib', some x)) :
    ∃ fs', fs = x :: fs' ∧ Cuts a ib' fs' ib'' := by
  cases h with
  | last h' => cases hn.symm.trans h'
  | frame h' hrest =>
    obtain ⟨rfl, hx⟩ := Prod.mk.inj (hn.symm.trans h')
    cases hx
    exact ⟨_, rfl, hrest⟩

end Cuts

/-! ## Making room for a read -/

@[simp] theorem reader_makeRoom (ib : Inbox) : ib.makeRoom.reader = ib.reader := by
  unfold makeRoom
  dsimp only
  split
  · rfl
  · split <;> rfl

@[simp] theorem buffer_makeRoom (ib : Inbox) : ib.makeRoom.buffer = ib.buffer := by
  unfold makeRoom
  dsimp only
  split
  · rfl
  · split <;> rfl

/-- After making room, a read may take at least one byte. -/
theorem room_makeRoom_pos (ib : Inbox) : 0 < ib.makeRoom.room := by
  unfold makeRoom room
  dsimp only
  split
  · omega
  · split
    · simp only
      omega
    · simp only
      omega

theorem Holds.makeRoom {P : List UInt8} (h : ib.Holds P) : ib.makeRoom.Holds P :=
  ⟨by rw [reader_makeRoom, h.reader], by rw [buffer_makeRoom, h.buffer]⟩

/-- The frames of a stream read so far come first among those of the stream read on. -/
theorem Holds.prefix_append {P : List UInt8} (h : ib.Holds P) (d : List UInt8) :
    (readWhole P false).1 <+: (readWhole (P ++ d) true).1 := by
  obtain ⟨h', hread⟩ := h.push d
  obtain ⟨hend, -⟩ := h'.drainAll_end
  rw [← hend, ← hread, List.append_assoc]
  exact List.prefix_append _ _

/-- After a read, cutting one frame at a time cuts the frames the read adds to the stream, and
leaves an inbox that holds what framing leaves of it. -/
theorem Holds.cuts_push {P : List UInt8} (h : ib.Holds P) (c : List UInt8) :
    ∃ rest ib', (ib.push c).Cuts false rest ib' ∧ ib'.Holds (P ++ c) ∧
      (readWhole P false).1 ++ rest = (readWhole (P ++ c) false).1 := by
  have hf : (ib.push c).buffer.length + 2 ≤ (ib.push c).buffer.length + 2 := Nat.le_refl _
  obtain ⟨-, h₁⟩ := h.drain_push c hf
  obtain ⟨hheld, h₂⟩ := h.drain_push c (Nat.le_succ_of_le hf)
  -- both fuels cut the same frames, so the larger one stopped where no frame was left
  have hsame := List.append_cancel_left (h₂.trans h₁.symm)
  exact ⟨_, _, cuts_of_drain_succ hsame, hheld, h₂⟩

/-- At the end of the stream, cutting one frame at a time cuts the last frames the whole stream
has. -/
theorem Holds.cuts_end {P : List UInt8} (h : ib.Holds P) :
    ∃ rest ib', ib.Cuts true rest ib' ∧ (readWhole P false).1 ++ rest = (readWhole P true).1 := by
  obtain ⟨h₁, -⟩ := h.drain_end (f := 2) (Nat.le_refl _)
  obtain ⟨h₂, -⟩ := h.drain_end (f := 3) (by omega)
  have hsame := List.append_cancel_left (h₂.trans h₁.symm)
  exact ⟨_, _, cuts_of_drain_succ hsame, h₂⟩

end Inbox

/-! ## Where a framer stands -/

/-- Where a framer stands once the stream `P` was read and the frames `done` were taken from it.
Between reads its inbox holds what framing leaves of `P` and `done` are all the frames `P` has
so far; while cutting, what it will still cut completes `done` to those frames, or, once the end
was read, to the frames of the whole stream. -/
inductive Framer.At : Framer → List UInt8 → List Frame → Prop
  | idle {ib : Inbox} {P : List UInt8} {done : List Frame} :
      ib.Holds P → done = (readWhole P false).1 → Framer.At ⟨ib, false, false⟩ P done
  | cutting {ib ib' : Inbox} {a : Bool} {P : List UInt8} {done rest : List Frame} :
      ib.Cuts a rest ib' → (a = false → ib'.Holds P) → done ++ rest = (readWhole P a).1 →
      Framer.At ⟨ib, true, a⟩ P done

namespace Framer.At

variable {ib ib' : Inbox} {a : Bool} {P : List UInt8} {done : List Frame}

/-- A framer that has read nothing stands at the start. -/
theorem start : Framer.At {} [] [] :=
  .idle Inbox.holds_nil (by simp [readWhole, endedLines, openLine])

/-- Taking a frame: it is the next of the stream's frames. -/
theorem next_some {x : Frame} (h : Framer.At ⟨ib, true, a⟩ P done)
    (hn : ib.nextFrame a = (ib', some x)) : Framer.At ⟨ib', true, a⟩ P (done ++ [x]) := by
  cases h with
  | cutting hc hheld hall =>
    obtain ⟨rest, rfl, hc'⟩ := hc.next_some hn
    exact .cutting hc' hheld (by rw [← hall]; simp)

/-- Finding no frame before the end: all frames so far were taken, and the framer waits for a
read. -/
theorem next_none (h : Framer.At ⟨ib, true, false⟩ P done)
    (hn : ib.nextFrame false = (ib', none)) : Framer.At ⟨ib', false, false⟩ P done := by
  cases h with
  | cutting hc hheld hall =>
    obtain ⟨rfl, rfl⟩ := hc.next_none hn
    exact .idle (hheld rfl) (by simpa using hall)

/-- Finding no frame after the end: the frames taken are those of the whole stream. -/
theorem next_none_end (h : Framer.At ⟨ib, true, true⟩ P done)
    (hn : ib.nextFrame true = (ib', none)) : done = (readWhole P true).1 := by
  cases h with
  | cutting hc _ hall =>
    obtain ⟨rfl, -⟩ := hc.next_none hn
    simpa using hall

/-- Reading bytes: the framer cuts the frames they add. -/
theorem push (h : Framer.At ⟨ib, false, false⟩ P done) (c : List UInt8) :
    Framer.At ⟨ib.makeRoom.push c, true, false⟩ (P ++ c) done := by
  cases h with
  | idle hheld hdone =>
    obtain ⟨rest, ib', hc, hheld', hall⟩ := hheld.makeRoom.cuts_push c
    exact .cutting hc (fun _ => hheld') (by rw [hdone, hall])

/-- Reading the end: the framer cuts the last frames. -/
theorem finish (h : Framer.At ⟨ib, false, false⟩ P done) :
    Framer.At ⟨ib.makeRoom, true, true⟩ P done := by
  cases h with
  | idle hheld hdone =>
    obtain ⟨rest, ib', hc, hall⟩ := hheld.makeRoom.cuts_end
    exact .cutting hc nofun (by rw [hdone, hall])

/-- A framer has taken at most as many frames as the stream read has bytes. -/
theorem length_le {fr : Framer} (h : Framer.At fr P done) : done.length ≤ P.length := by
  cases h with
  | idle _ hdone =>
    rw [hdone]
    exact length_readWhole_le P false
  | @cutting _ _ a _ _ rest _ _ hall =>
    have hlen := congrArg List.length hall
    rw [List.length_append] at hlen
    have := length_readWhole_le P a
    omega

/-- The frames taken come first among those of the stream read on, by any bytes when the end
was not yet read. -/
theorem prefix_append {fr : Framer} (h : Framer.At fr P done) (d : List UInt8)
    (hd : fr.atEnd = true → d = []) : done <+: (readWhole (P ++ d) true).1 := by
  cases h with
  | idle hheld hdone => exact hdone ▸ hheld.prefix_append d
  | @cutting ib ib' a P done rest hc hheld hall =>
    cases a with
    | false => exact (List.prefix_append done rest).trans (hall ▸ (hheld rfl).prefix_append d)
    | true =>
      obtain rfl := hd rfl
      rw [List.append_nil, ← hall]
      exact List.prefix_append done rest

end Framer.At

end AgentLink
