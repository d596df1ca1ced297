import AgentLink.Proofs.FrameCutting
import AgentLink.Proofs.Diagnostics
import AgentLink.Proofs.TableSteps
import AgentLink.Bench.Run

/-!
# The agent's output, handled frame by frame

The reader of a connection cuts the agent's output into frames and handles each before it cuts
the next. The output ends at the end of the stream or at a read that fails (`OutputEnding`).
What a stream `B` ending so calls for is `outputSigns note B en`: for each frame of the stream, in
order, a report of a malformed frame with its reason and line, a report of a message with neither
id nor method, and a note of each notification with its method and params (or `null`); then the
ending reported, and the connection shut. Blank lines give no frame, and so call for nothing; the
bytes after the last newline are a last line only when the stream was read to its end.

The reader is followed over every finished run, however the agent's writes are cut into reads
and in any interleaving where the rest of the host only lets the agent append to the stream, may
make reading it fail and may close the connection (`ReaderKept`), with hooks that note each
notification and answer requests quietly (`Hooks.Noting`): what it shows is always the first of
what the bytes it took call for, for one way the output ends, so the ending is reported at most
once and after every frame's report, the connection is shut after that, and the pipe shows the
ending reported. On a connection nobody else closes the reader stops by itself, having shown all
of it, unless it took so many bytes that they paid for all its turns (`Link.emits_reader`). At
each of its turns it looks at the connection first: once the connection is closed it handles no
further frame (`Link.reader_quiet_once_closed`).

Responses show none of these signs; seen through the cells a change settles (`Memory.settled`),
handling one settles at most one cell (`Link.emits_dispatch_response`).
-/

namespace AgentLink

open Concurrency Async

/-! ## What a stream calls for -/

/-- What the reader of a connection shows of the agent's output: a report to the failure
subscriber, a note the notification subscriber takes, or the connection shut. -/
inductive Sign where
  | report (r : ProcessReport)
  | note (v : Json.Value)
  | shut

/-- How the agent's output ended for the reader: at the end of the stream, or at a read that met
an error. -/
inductive OutputEnding where
  | eof
  | failed (err : String)

namespace OutputEnding

/-- The report the ending makes: the stream closed, or the error reading it met. -/
def report : OutputEnding → ProcessReport
  | .eof => ⟨.streamClosed, "agent stdout closed"⟩
  | .failed err => ⟨.streamClosed, "stream error: " ++ err⟩

/-- Whether the stream was read to its end, so that the bytes after its last newline are a last
line. -/
def whole : OutputEnding → Bool
  | .eof => true
  | .failed _ => false

/-- Pipe `p` shows the ending in `s`: its writing end is closed, or reading it failed with that
error. -/
def Over (p : Nat) (s : Memory) : OutputEnding → Prop
  | .eof => (s.pipe p).writing = false
  | .failed err => (s.pipe p).fault = some err

end OutputEnding

/-- What one frame calls for, with a notification noted as `note method params`: a malformed
frame is reported with its reason and line, a message with neither id nor method is reported, a
notification is noted with its params or `null`, and any other message shows nothing. -/
def frameSigns (note : String → Json.Value → Json.Value) : Frame → List Sign
  | .malformed line reason => [.report ⟨.malformedOutput, reason ++ ": " ++ line⟩]
  | .message msg =>
    match msg.kind, msg.method with
    | .invalid, _ => [.report ⟨.malformedOutput, "message carries neither id nor method"⟩]
    | .notification, some method => [.note (note method (msg.params.getD .null))]
    | _, _ => []

/-- What a stream ending as `en` says calls for: the signs of its frames in order, then the
ending reported and the connection shut. -/
def outputSigns (note : String → Json.Value → Json.Value) (B : List UInt8) (en : OutputEnding) :
    List Sign :=
  (readWhole B en.whole).1.flatMap (frameSigns note) ++ [.report en.report, .shut]

/-- No frame makes the report of an ending: frames make reports of malformed output only. -/
theorem report_not_mem_frameSigns (note : String → Json.Value → Json.Value) (en : OutputEnding)
    (f : Frame) : Sign.report en.report ∉ frameSigns note f := by
  have hkind : en.report.kind = .streamClosed := by cases en <;> rfl
  intro h
  unfold frameSigns at h
  split at h
  · simp only [List.mem_singleton, Sign.report.injEq] at h
    rw [h] at hkind
    cases hkind
  · split at h <;> simp only [List.mem_singleton, reduceCtorEq, Sign.report.injEq,
      List.not_mem_nil] at h
    rw [h] at hkind
    cases hkind

/-! ## What the reader shows -/

namespace Memory

/-- What a change of the memory shows of connection `i` reading pipe `p`: the bytes a read took
off the front of the pipe (those dropped when its reading end closes are not taken), then the
reports added, the notes added to the inbound log, and the connection shut. -/
def signs (i p : Nat) (s s' : Memory) : List (List UInt8 × List Sign) :=
  [(if (s'.pipe p).reading then
      (s.pipe p).unread.take ((s.pipe p).unread.length - (s'.pipe p).unread.length)
    else [],
    (s'.heard.reports.drop s.heard.reports.length).map .report ++
      (s'.heard.inbound.drop s.heard.inbound.length).map .note ++
      if !(s.link i).closed && (s'.link i).closed then [.shut] else [])]

@[simp] theorem link_modifyPipe (m : Memory) (q : Nat) (f : Pipe → Pipe) (j : Nat) :
    (m.modifyPipe q f).link j = m.link j := rfl

@[simp] theorem pipe_modifyLink (m : Memory) (j : Nat) (f : Connection → Connection) (q : Nat) :
    (m.modifyLink j f).pipe q = m.pipe q := rfl

@[simp] theorem heard_modifyLink (m : Memory) (j : Nat) (f : Connection → Connection) :
    (m.modifyLink j f).heard = m.heard := rfl

/-- Marking a connection closed returns whether it was open, and changes nothing when it was
closed already. -/
theorem markClosed_eq {m m' : Memory} {i : Nat} {b : Bool} (h : m.markClosed i = (b, m')) :
    b = !(m.link i).closed ∧
      m' = if (m.link i).closed then m else m.modifyLink i fun c => { c with closed := true } := by
  unfold markClosed at h
  split at h <;> obtain ⟨rfl, rfl⟩ := Prod.mk.inj h <;> simp_all

/-- A change that keeps the pipes and what the host heard, and changes connection `i` in its
waiting calls and outgoing messages at most. -/
structure Silent (i : Nat) (s s' : Memory) : Prop where
  pipes : s'.pipes = s.pipes
  heard : s'.heard = s.heard
  link : ∃ pending outbox, s'.link i = { s.link i with pending := pending, outbox := outbox }

section Silent

variable {i p : Nat} {s s' : Memory}

theorem Silent.pipe (h : Silent i s s') (p : Nat) : s'.pipe p = s.pipe p := by
  unfold Memory.pipe
  rw [h.pipes]

theorem Silent.closed (h : Silent i s s') : (s'.link i).closed = (s.link i).closed := by
  obtain ⟨pending, outbox, hl⟩ := h.link
  rw [hl]

/-- A silent change shows nothing. -/
theorem signs_of_silent (h : Silent i s s') : signs i p s s' = [([], [])] := by
  simp [signs, h.pipe p, h.heard, h.closed]

theorem Silent.modifyLink {g : Connection → Connection}
    (hg : ∃ pending outbox, g (s.link i) = { s.link i with pending := pending, outbox := outbox }) :
    Silent i s (s.modifyLink i g) := by
  refine ⟨rfl, rfl, ?_⟩
  exact link_modifyLink_rel s
    (fun c c' => ∃ pending outbox, c' = { c with pending := pending, outbox := outbox })
    (fun c => ⟨c.pending, c.outbox, rfl⟩) hg i

theorem Silent.modifyCell (c : Nat) (g : Cell → Cell) : Silent i s (s.modifyCell c g) :=
  ⟨rfl, rfl, (s.link i).pending, (s.link i).outbox, rfl⟩

theorem foldl_modifyCell_eq (g : Cell → Cell) : ∀ (es : List (RequestId × Nat)) (m : Memory),
    ∃ cells, es.foldl (fun m e => m.modifyCell e.2 g) m = { m with cells := cells }
  | [], m => ⟨m.cells, rfl⟩
  | e :: es, m => by
    obtain ⟨cells, h⟩ := foldl_modifyCell_eq g es (m.modifyCell e.2 g)
    exact ⟨cells, by rw [List.foldl_cons, h]; rfl⟩

/-- Failing the waiting calls of connection `i` is silent. -/
theorem Silent.failPending : Silent i s (s.failPending i) := by
  unfold Memory.failPending
  obtain ⟨cells, h⟩ := foldl_modifyCell_eq (·.fill (.error .transportClosed)) (s.link i).pending
    (s.modifyLink i fun c => { c with pending := [] })
  have hq : Silent i s (s.modifyLink i fun c => { c with pending := [] }) :=
    Silent.modifyLink ⟨[], (s.link i).outbox, rfl⟩
  rw [h]
  exact ⟨hq.pipes, hq.heard, hq.link⟩

end Silent

end Memory

open Memory

/-- What the rest of the host does to the reading of connection `i` on pipe `p`: what it does to
the diagnostics (`DiagnosticsKept`: the agent appends while its writing end is open, nobody else
takes bytes or closes the reading end, the failure subscription stays), it keeps which pipe the
connection reads, its listener and responders, and, when `keep`, leaves the connection open. -/
structure ReaderKept (i p : Nat) (keep : Bool) (s s' : Memory) : Prop
    extends DiagnosticsKept i p s s' where
  fromAgent : (s'.link i).fromAgent = (s.link i).fromAgent
  listener : (s'.link i).listener = (s.link i).listener
  responders : (s'.link i).responders = (s.link i).responders
  closed : keep = true → (s'.link i).closed = (s.link i).closed

/-- Where the reader of connection `i` stands: as the diagnostics watcher does (`Watching`: a
failure subscriber, pipe `p` open for reading, and the stream over when `ended`), and the
connection reads `p`, has listener `l` and responders `rs`, and is open when `keep`. -/
structure Reading (i p : Nat) (l : Listener) (rs : List (String × Responder)) (keep ended : Bool)
    (s : Memory) : Prop extends Watching i p ended s where
  fromAgent : (s.link i).fromAgent = p
  listener : (s.link i).listener = some l
  responders : (s.link i).responders = rs
  opened : keep = true → (s.link i).closed = false

/-- Where a reader that stops stands: as the diagnostics watcher does, on a connection that reads
pipe `p`. -/
structure Stopping (i p : Nat) (ended : Bool) (s : Memory) : Prop extends Watching i p ended s where
  fromAgent : (s.link i).fromAgent = p

/-- Hooks that, on connection `i` with listener `l` and responders `rs`, note each notification as
`note method params` and answer requests quietly, in runs where the rest of the host moves as
`E` allows: hearing a notification shows its note and nothing more and keeps the reading where
it stands, and answering a request shows nothing. -/
structure Hooks.Noting (hooks : Hooks) (i p : Nat) (l : Listener) (rs : List (String × Responder))
    (E : Memory → Memory → Prop) (note : String → Json.Value → Json.Value) : Prop where
  hear : ∀ method params keep ended, Emits (Memory.signs i p) E (Reading i p l rs keep ended)
    (hooks.hear i l method params) fun _ put s' => Reading i p l rs keep ended s' ∧
      put.flatMap Prod.fst = [] ∧ put.flatMap Prod.snd = [.note (note method params)]
  answer : ∀ method r, rs.lookup method = some r → ∀ params id keep ended,
    Emits (Memory.signs i p) E (Reading i p l rs keep ended) (hooks.answer i r method params id)
      fun _ put _ => put.flatMap Prod.fst = [] ∧ put.flatMap Prod.snd = []

namespace Reading

variable {i p : Nat} {l : Listener} {rs : List (String × Responder)} {keep e : Bool}
  {s s' : Memory}

theorem kept (h : Reading i p l rs keep e s) (hk : ReaderKept i p keep s s') :
    Reading i p l rs keep e s' where
  toWatching := h.toWatching.kept hk.toDiagnosticsKept
  fromAgent := hk.fromAgent.trans h.fromAgent
  listener := hk.listener.trans h.listener
  responders := hk.responders.trans h.responders
  opened hkeep := (hk.closed hkeep).trans (h.opened hkeep)

theorem silent (h : Reading i p l rs keep e s) (hq : Silent i s s') : Reading i p l rs keep e s' := by
  obtain ⟨pending, outbox, hl⟩ := hq.link
  exact {
    subscribed := by rw [hl]; exact h.subscribed
    reading := by rw [hq.pipe]; exact h.reading
    ended := by rw [hq.pipe]; exact h.ended
    fromAgent := by rw [hl]; exact h.fromAgent
    listener := by rw [hl]; exact h.listener
    responders := by rw [hl]; exact h.responders
    opened := by rw [hl]; exact h.opened }

/-- Reading where the stream has ended is reading whatever the reader knows of it. -/
theorem of_ended (h : Reading i p l rs keep true s) : Reading i p l rs keep e s :=
  { h with toWatching := h.toWatching.of_ended }

theorem stopping (h : Reading i p l rs keep e s) : Stopping i p e s := ⟨h.toWatching, h.fromAgent⟩

/-- A connection found closed is not one the rest of the host keeps open. -/
theorem not_keep (h : Reading i p l rs keep e s) (hc : (s.link i).closed = true) : keep = false := by
  cases keep with
  | false => rfl
  | true =>
    rw [h.opened rfl] at hc
    cases hc

/-- The connection read exists: one past the end has no listener. -/
theorem linked (h : Reading i p l rs keep e s) : i < s.links.size := by
  refine Nat.lt_of_not_le fun hi => ?_
  have hl := h.listener
  rw [Memory.link_of_le s hi] at hl
  cases hl

end Reading

namespace Stopping

variable {i p : Nat} {e : Bool} {s s' : Memory}

theorem kept (h : Stopping i p e s) (hk : DiagnosticsKept i p s s')
    (hf : (s'.link i).fromAgent = (s.link i).fromAgent) : Stopping i p e s' :=
  ⟨h.toWatching.kept hk, hf.trans h.fromAgent⟩

/-- A change that keeps the pipes, the failure subscription and the pipe read keeps a stopping
reader where it stands. -/
theorem of_frame (h : Stopping i p e s) (hp : s'.pipes = s.pipes)
    (hr : (s'.link i).reports = (s.link i).reports)
    (hf : (s'.link i).fromAgent = (s.link i).fromAgent) : Stopping i p e s' := by
  have hpipe : s'.pipe p = s.pipe p := by
    unfold Memory.pipe
    rw [hp]
  exact ⟨⟨hr.trans h.subscribed, by rw [hpipe]; exact h.reading, by rw [hpipe]; exact h.ended⟩,
    hf.trans h.fromAgent⟩

theorem silent (h : Stopping i p e s) (hq : Silent i s s') : Stopping i p e s' := by
  obtain ⟨pending, outbox, hl⟩ := hq.link
  exact h.of_frame hq.pipes (by rw [hl]) (by rw [hl])

end Stopping

/-- A failure met reading pipe `p` in `s` is still there in `s'`. -/
def FaultStays (p : Nat) (s s' : Memory) : Prop :=
  ∀ err, (s.pipe p).fault = some err → (s'.pipe p).fault = some err

namespace FaultStays

variable {p : Nat} {s s₁ s' : Memory}

theorem refl (s : Memory) : FaultStays p s s := fun _ h => h

theorem trans (h₁ : FaultStays p s s₁) (h₂ : FaultStays p s₁ s') : FaultStays p s s' :=
  fun err h => h₂ err (h₁ err h)

theorem of_fault (h : (s'.pipe p).fault = (s.pipe p).fault) : FaultStays p s s' :=
  fun _ hf => h.trans hf

end FaultStays

/-- The rest of the host keeps a failure of reading the pipe. -/
theorem DiagnosticsKept.faultStays {i p : Nat} {s s' : Memory} (hk : DiagnosticsKept i p s s') :
    FaultStays p s s' := fun _ hf => by
  rw [hk.fault (by simp [hf]), hf]

/-! ## The reader's steps -/

namespace Reading

section Steps

variable {i p : Nat} {l : Listener} {rs : List (String × Responder)} {keep e : Bool}
  {E : Memory → Memory → Prop}

/-- A silent change shows nothing. -/
theorem emits_modifyGet_silent {α : Type} {f : Memory → α × Memory} {P : Memory → Prop}
    (hf : ∀ s, P s → Silent i s (f s).2) :
    Emits (signs i p) E P (Async.modifyGet f) fun v put s' =>
      ∃ s, P s ∧ f s = (v, s') ∧ Silent i s s' ∧ put = [([], [])] := by
  refine (Emits.modifyGet f).conseq (fun _ h => h) ?_
  rintro v put s' ⟨s, hs, hfs, rfl⟩
  have hq : Silent i s s' := by
    have h := hf s hs
    rwa [hfs] at h
  exact ⟨s, hs, hfs, hq, signs_of_silent hq⟩

theorem emits_modify_silent {f : Memory → Memory} {P : Memory → Prop}
    (hf : ∀ s, P s → Silent i s (f s)) :
    Emits (signs i p) E P (Async.modify f) fun _ put s' =>
      ∃ s, P s ∧ Silent i s s' ∧ put = [([], [])] := by
  refine (Emits.modify f).conseq (fun _ h => h) ?_
  rintro _ put s' ⟨s, hs, rfl, rfl⟩
  exact ⟨s, hs, hf s hs, signs_of_silent (hf s hs)⟩

/-- A report to the failure subscriber shows it, keeps the reading, and keeps a failure of reading
the pipe. -/
theorem emits_report (hE : ∀ s s', E s s' → ReaderKept i p keep s s') (r : ProcessReport)
    {P : Memory → Prop} (hP : ∀ s, P s → Reading i p l rs keep e s) :
    Emits (signs i p) E P (Link.report i r) fun _ put s' =>
      (∃ s, P s ∧ FaultStays p s s') ∧ Reading i p l rs keep e s' ∧ put = [([], [.report r])] := by
  unfold Link.report
  refine Emits.spend.bind fun _ put => Emits.assume (fun _ h => h.2) fun hput => ?_
  subst hput
  refine (Emits.modify _).conseq (fun _ h => h) ?_
  rintro _ put s' ⟨s₁, ⟨⟨s, hs, hw⟩, -⟩, rfl, rfl⟩
  have hs₁ := (hP s hs).kept (hE _ _ hw)
  simp only [Memory.report, hs₁.subscribed, if_true]
  refine ⟨⟨s, hs, (hE _ _ hw).toDiagnosticsKept.faultStays.trans (FaultStays.of_fault rfl)⟩,
    { hs₁ with }, ?_⟩
  simp [signs, Memory.modifyHeard, Memory.pipe, Memory.link]

/-- Waiting for room on the writer's queue shows nothing, and keeps what the rest of the host
keeps. -/
theorem emits_waitForRoom {P : Memory → Prop} (hP : ∀ s s', P s → E s s' → P s') :
    Emits (signs i p) E P (Link.waitForRoom i) fun _ put s' => P s' ∧ put = [] := by
  unfold Link.waitForRoom
  refine Emits.read_bind fun full => ?_
  cases full with
  | true =>
    simp only [if_true]
    refine (Emits.waitUntil _ _).conseq (fun _ h => h) ?_
    rintro _ _ s' ⟨⟨s, ⟨hs, -⟩, hw⟩, -, rfl⟩
    exact ⟨hP s s' hs hw, rfl⟩
  | false =>
    simp only [Bool.false_eq_true, if_false]
    refine (Emits.pure ()).conseq (fun _ h => h) ?_
    rintro _ _ s' ⟨-, rfl, hs, -⟩
    exact ⟨hs, rfl⟩

/-- Queueing a message shows nothing, and keeps what the rest of the host and silent changes
keep. -/
theorem emits_enqueue (hE : ∀ s s', E s s' → ReaderKept i p keep s s') {P : Memory → Prop}
    (hP : ∀ s s', P s → ReaderKept i p keep s s' → P s') (hPs : ∀ s s', P s → Silent i s s' → P s')
    (msg : Message) :
    Emits (signs i p) E P (Link.enqueue i msg) fun _ put s' =>
      P s' ∧ put.flatMap Prod.fst = [] ∧ put.flatMap Prod.snd = [] := by
  have hkept : ∀ s s', P s → E s s' → P s' := fun _ _ h hw => hP _ _ h (hE _ _ hw)
  unfold Link.enqueue
  refine Emits.spend_bind hkept ?_
  -- wait for room, then queue the message or find the queue shut, silently either way
  refine (emits_waitForRoom hkept).bind fun _ put => Emits.assume (fun _ h => h.2) fun hput => ?_
  subst hput
  refine (emits_modifyGet_silent fun s _ => ?_).conseq (fun _ h => h.1) ?_
  · split
    · exact Silent.modifyLink ⟨(s.link i).pending, (s.link i).outbox ++ [msg], rfl⟩
    · exact ⟨rfl, rfl, (s.link i).pending, (s.link i).outbox, rfl⟩
  · rintro _ _ s' ⟨s, hs, -, hq, rfl⟩
    exact ⟨hPs s s' hs hq, rfl, rfl⟩

/-- Taking bytes shows them as taken; taking none means the stream has ended, since bytes, the
end or a failure were there to read and reading had not failed. -/
theorem emits_takeAtMost {n : Nat} (hn : 0 < n) {P : Memory → Prop}
    (hP : ∀ s, P s →
      Reading i p l rs keep e s ∧ (s.pipe p).readable = true ∧ (s.pipe p).fault = none) :
    Emits (signs i p) E P (Link.takeAtMost p n) fun bytes put s' => ∃ s, P s ∧
      Reading i p l rs keep (e || bytes.isEmpty) s' ∧ put = [(bytes, [])] ∧
      (e = true → bytes = []) := by
  refine (Emits.modifyGet _).conseq (fun _ h => h) ?_
  rintro bytes put s' ⟨s, hs, hf, rfl⟩
  obtain ⟨hw, hr, hnf⟩ := hP s hs
  have hpipe := Memory.pipe_takeAtMost (Memory.lt_of_reading hw.reading) n
  simp only [Pipe.takeAtMost, Prod.mk.injEq] at hf
  obtain ⟨rfl, rfl⟩ := hf
  refine ⟨s, hs, { hw with toWatching := hw.toWatching.takeAtMost hn hr hnf }, ?_, fun he => ?_⟩
  · simp only [signs, hpipe, take_length_sub_drop, Memory.heard_modifyPipe, link_modifyPipe,
      List.drop_length]
    simp [hw.reading]
  · simp [(hw.ended he).2]

/-- A read meets the pipe's failure, changing nothing, or takes bytes as `emits_takeAtMost`
says. -/
theorem emits_readAtMost {n : Nat} (hn : 0 < n) {P : Memory → Prop}
    (hP : ∀ s, P s → Reading i p l rs keep e s ∧ (s.pipe p).readable = true) :
    Emits (signs i p) E P (Link.readAtMost p n) fun r put s' =>
      match r with
      | .error err => P s' ∧ (s'.pipe p).fault = some err ∧ put = []
      | .ok bytes => ∃ s, P s ∧ Reading i p l rs keep (e || bytes.isEmpty) s' ∧
          put = [(bytes, [])] ∧ (e = true → bytes = []) := by
  unfold Link.readAtMost
  refine Emits.read_bind fun fault => ?_
  cases fault with
  | some err =>
    refine (Emits.pure _).conseq (fun _ h => h) ?_
    rintro _ _ s' ⟨rfl, rfl, hs, hf⟩
    exact ⟨hs, hf.symm, rfl⟩
  | none =>
    refine (emits_takeAtMost hn fun s h => ⟨(hP s h.1).1, (hP s h.1).2, h.2.symm⟩).bind
      fun bytes put => (Emits.pure _).conseq (fun _ h => h) ?_
    rintro _ _ s' ⟨rfl, rfl, s, ⟨hs, -⟩, hw, hput, hend⟩
    exact ⟨s, hs, hw, by rw [hput, List.append_nil], hend⟩
/-- Returning shows nothing and keeps where the reader stands. -/
theorem emits_pure {α : Type} (v : α) {P : Memory → Prop} :
    Emits (signs i p) E P (Pure.pure v : Act α) fun _ put s' =>
      P s' ∧ put.flatMap Prod.fst = [] ∧ put.flatMap Prod.snd = [] :=
  (Emits.pure v).conseq (fun _ h => h) fun _ _ _ ⟨_, hput, hs⟩ => ⟨hs, by simp [hput], by simp [hput]⟩

/-- Shutting the connection down: on a connection found closed nothing changes; on an open one it
is shut, the rest of the host moves, and the waiting calls fail silently. A failure of reading
the pipe stays. -/
theorem emits_shutdown (hE : ∀ s s', E s s' → ReaderKept i p keep s s') {P : Memory → Prop}
    (hP : ∀ s, P s → Stopping i p e s ∧ i < s.links.size) :
    Emits (signs i p) E P (Link.shutdown i) fun _ put s' => ∃ s, P s ∧ FaultStays p s s' ∧
      ((s.link i).closed = true → s' = s ∧ put = [([], [])]) ∧
      ((s.link i).closed = false → put.flatMap Prod.fst = [] ∧ put.flatMap Prod.snd = [.shut] ∧
        Stopping i p e s') := by
  unfold Link.shutdown
  refine (Emits.modifyGet _).bind fun closedNow put => ?_
  cases closedNow with
  | false =>
    -- found closed: nothing changes
    simp only [Bool.not_false, if_true]
    refine (Emits.pure false).conseq (fun _ h => h) ?_
    rintro _ put' s₁ ⟨-, rfl, s, hs, hm, rfl⟩
    obtain ⟨hc, rfl⟩ := markClosed_eq hm
    have hclosed : (s.link i).closed = true := by simpa using hc.symm
    rw [if_pos hclosed]
    refine ⟨s, hs, FaultStays.refl s, fun _ => ⟨rfl, by simp [signs, hclosed]⟩, fun h => ?_⟩
    rw [hclosed] at h
    cases h
  | true =>
    simp only [Bool.not_true, Bool.false_eq_true, if_false]
    refine Emits.conseq (P := fun s₁ => ∃ s, P s ∧ (s.link i).closed = false ∧
        put = [([], [.shut])] ∧ Stopping i p e s₁ ∧ FaultStays p s s₁) ?_ ?_ fun _ _ _ h => h
    · refine Emits.exists_pre fun s => Emits.assume
        (c := P s ∧ (s.link i).closed = false ∧ put = [([], [.shut])])
        (fun _ h => ⟨h.1, h.2.1, h.2.2.1⟩) fun ⟨hs, hopen, hput⟩ => ?_
      subst hput
      -- shut: give way, then fail the waiting calls silently
      refine Emits.conseq (P := fun s₂ => Stopping i p e s₂ ∧ FaultStays p s s₂) ?_
        (fun _ h => h.2.2.2) fun _ _ _ h => h
      refine Emits.spend_bind (fun _ _ h hw =>
        ⟨h.1.kept (hE _ _ hw).toDiagnosticsKept (hE _ _ hw).fromAgent,
          h.2.trans (hE _ _ hw).toDiagnosticsKept.faultStays⟩) ?_
      refine (emits_modify_silent fun _ _ => Silent.failPending).bind
        fun _ put₂ => (Emits.pure true).conseq (fun _ h => h) ?_
      rintro _ _ s' ⟨-, rfl, s₂, ⟨hs₂, hf₂⟩, hq, rfl⟩
      refine ⟨s, hs, hf₂.trans (FaultStays.of_fault (by rw [hq.pipe p])), fun h => ?_,
        fun _ => ⟨by simp, by simp, hs₂.silent hq⟩⟩
      rw [hopen] at h
      cases h
    · -- marking an open connection closed shows it shut
      rintro s₁ ⟨s, hs, hm, rfl⟩
      obtain ⟨hc, rfl⟩ := markClosed_eq hm
      have hopen : (s.link i).closed = false := by simpa using hc.symm
      obtain ⟨hst, hi⟩ := hP s hs
      have hlink : (s.modifyLink i fun c => { c with closed := true }).link i =
          { s.link i with closed := true } := by
        rw [link_modifyLink, if_pos ⟨rfl, hi⟩]
      rw [if_neg (by simp [hopen])]
      refine ⟨s, hs, hopen, ?_, hst.of_frame rfl (by rw [hlink]) (by rw [hlink]),
        FaultStays.of_fault rfl⟩
      simp only [signs, hlink, hopen, pipe_modifyLink, heard_modifyLink]
      simp

/-- Closing the reading end of the pipe the connection reads drops the bytes left in it, which
are not taken. -/
theorem emits_closeReader {P : Memory → Prop} (hP : ∀ s, P s → Stopping i p e s) :
    Emits (signs i p) E P
      (Link.get i >>= fun c => Async.modify (·.modifyPipe c.fromAgent Pipe.closeReader))
      fun _ put s' => ∃ s, P s ∧ put = [([], [])] ∧ (s'.pipe p).reading = false ∧
        (s'.pipe p).writing = (s.pipe p).writing ∧ FaultStays p s s' := by
  refine Emits.read_bind fun c => ?_
  refine Emits.assume (c := c.fromAgent = p) (fun s h => by rw [h.2]; exact (hP s h.1).fromAgent)
    fun hc => ?_
  rw [hc]
  refine (Emits.modify _).conseq (fun _ h => h) ?_
  rintro _ put s' ⟨s, ⟨hs, -⟩, rfl, rfl⟩
  have hp := Memory.lt_of_reading (hP s hs).reading
  refine ⟨s, hs, ?_, by simp [Memory.pipe_modifyPipe, hp, Pipe.closeReader],
    by simp [Memory.pipe_modifyPipe, hp, Pipe.closeReader],
    FaultStays.of_fault (by simp [Memory.pipe_modifyPipe, hp, Pipe.closeReader])⟩
  simp [signs, Memory.pipe_modifyPipe, hp, Pipe.closeReader]

/-- Stopping the reader: on a connection found closed nothing is shown, and an open one is shut;
either way nothing is taken, the pipe is no longer read, and a failure of reading it stays. -/
theorem emits_stopReader (hE : ∀ s s', E s s' → ReaderKept i p keep s s') {P : Memory → Prop}
    (hP : ∀ s, P s → Stopping i p e s ∧ i < s.links.size) :
    Emits (signs i p) E P (Link.stopReader i) fun _ put s' => ∃ s, P s ∧
      put.flatMap Prod.fst = [] ∧
      ((s.link i).closed = true → put.flatMap Prod.snd = []) ∧
      ((s.link i).closed = false → put.flatMap Prod.snd = [.shut]) ∧
      (s'.pipe p).reading = false ∧ (e = true → (s'.pipe p).writing = false) ∧
      FaultStays p s s' := by
  unfold Link.stopReader
  refine (emits_shutdown hE hP).bind fun _ put => (emits_closeReader (e := e) fun s₁ h => ?_).conseq
    (fun _ h => h) ?_
  · obtain ⟨s, hs, -, hclosed, hopen⟩ := h
    cases hc : (s.link i).closed
    · exact (hopen hc).2.2
    · obtain ⟨rfl, -⟩ := hclosed hc
      exact (hP s₁ hs).1
  · rintro _ put' s' ⟨s₁, ⟨s, hs, hf, hclosed, hopen⟩, rfl, hread, hwrite, hf'⟩
    refine ⟨s, hs, ?_, fun hc => ?_, fun hc => ?_, hread, fun he => ?_, hf.trans hf'⟩
    · cases hc : (s.link i).closed
      · simp [(hopen hc).1]
      · obtain ⟨-, rfl⟩ := hclosed hc
        simp
    · obtain ⟨-, rfl⟩ := hclosed hc
      simp
    · simp [(hopen hc).2.1]
    · rw [hwrite]
      cases hc : (s.link i).closed
      · exact ((hopen hc).2.2.ended he).1
      · obtain ⟨rfl, -⟩ := hclosed hc
        exact ((hP s₁ hs).1.ended he).1

/-- The end of the output: on a connection found open, the end is reported and the connection
shut; either way nothing more is taken and the pipe is no longer read. -/
theorem emits_outputEnded (hE : ∀ s s', E s s' → ReaderKept i p keep s s') :
    Emits (signs i p) E (Reading i p l rs keep true) (Link.outputEnded i) fun _ put s' =>
      put.flatMap Prod.fst = [] ∧
      put.flatMap Prod.snd <+: [.report OutputEnding.eof.report, .shut] ∧
      (keep = true → put.flatMap Prod.snd = [.report OutputEnding.eof.report, .shut]) ∧
      (s'.pipe p).reading = false ∧ (s'.pipe p).writing = false := by
  unfold Link.outputEnded
  refine Emits.read_bind fun closed => ?_
  cases closed with
  | false =>
    simp only [Bool.not_false, if_true]
    refine Emits.conseq (P := Reading i p l rs keep true) ?_ (fun _ h => h.1) fun _ _ _ h => h
    refine (emits_report hE OutputEnding.eof.report fun _ h => h).bind fun _ put =>
      Emits.assume (fun _ h => h.2.2) fun hput => ?_
    subst hput
    refine Emits.conseq (P := Reading i p l rs keep true) ?_ (fun _ h => h.2.1) fun _ _ _ h => h
    refine (emits_stopReader hE (P := Reading i p l rs keep true)
      fun s h => ⟨h.stopping, h.linked⟩).conseq (fun s h => h) ?_
    rintro _ put s' ⟨s, hs, h₁, hclosed, hopen, hread, hwrite, -⟩
    cases hc : (s.link i).closed
    · have h₂ := hopen hc
      exact ⟨by simp [h₁], by simp [h₂], fun _ => by simp [h₂], hread, hwrite rfl⟩
    · -- closed meanwhile by someone else: the report stands alone
      have h₂ := hclosed hc
      refine ⟨by simp [h₁], by simp [h₂], fun hk => ?_, hread, hwrite rfl⟩
      simp [hs.not_keep hc] at hk
  | true =>
    simp only [Bool.not_true, Bool.false_eq_true, if_false]
    refine (emits_stopReader hE (P := fun s => Reading i p l rs keep true s ∧ true = (s.link i).closed)
      fun s h => ⟨h.1.stopping, h.1.linked⟩).conseq (fun _ h => h) ?_
    rintro _ put s' ⟨s, ⟨hs, hc⟩, h₁, hclosed, -, hread, hwrite, -⟩
    have h₂ := hclosed hc.symm
    refine ⟨by simp [h₁], by simp [h₂], fun hk => ?_, hread, hwrite rfl⟩
    simp [hs.not_keep hc.symm] at hk

/-- A failed read: the failure is reported and the reader stops, an open connection being shut
after the report; nothing is taken, the pipe is no longer read, and the failure stays. -/
theorem emits_readFailed (hE : ∀ s s', E s s' → ReaderKept i p keep s s') (err : String) :
    Emits (signs i p) E (fun s => Reading i p l rs keep e s ∧ (s.pipe p).fault = some err)
      (do Link.report i (OutputEnding.failed err).report; Link.stopReader i) fun _ put s' =>
      put.flatMap Prod.fst = [] ∧
      put.flatMap Prod.snd <+: [.report (OutputEnding.failed err).report, .shut] ∧
      (keep = true → put.flatMap Prod.snd = [.report (OutputEnding.failed err).report, .shut]) ∧
      (s'.pipe p).reading = false ∧ (s'.pipe p).fault = some err := by
  refine (emits_report hE _ fun _ h => h.1).bind fun _ put =>
    Emits.assume (fun _ h => h.2.2) fun hput => ?_
  subst hput
  refine (emits_stopReader hE fun s h => ⟨h.2.1.stopping, h.2.1.linked⟩).conseq
    (fun _ h => h) ?_
  rintro _ put s' ⟨s₁, ⟨⟨s, ⟨-, hf⟩, hfs⟩, hs₁, -⟩, h₁, hclosed, hopen, hread, -, hfs'⟩
  refine ⟨by simp [h₁], ?_, fun hk => ?_, hread, hfs' err (hfs err hf)⟩
  · cases hc : (s₁.link i).closed
    · simp [hopen hc]
    · simp [hclosed hc]
  · simp [hopen (hs₁.opened hk)]
/-- Answering a request, as a task of its own started where the reader stood, shows nothing. -/
theorem emits_answerTask (hE : ∀ s s', E s s' → ReaderKept i p keep s s') {hooks : Hooks}
    {note : String → Json.Value → Json.Value} (hh : hooks.Noting i p l rs E note) {method : String}
    {r : Responder} (hl : rs.lookup method = some r) (params : Json.Value) (id : RequestId) :
    Emits (signs i p) E (Reading i p l rs keep e)
      (do
        let out ← hooks.answer i r method params id
        let _ ← Link.enqueue i (Link.replyTo id out)
        pure ())
      fun _ put _ => put.flatMap Prod.fst = [] ∧ put.flatMap Prod.snd = [] := by
  refine (hh.answer method r hl params id keep e).bind fun _ put =>
    Emits.assume (fun _ h => h) fun ⟨h₁, h₂⟩ => ?_
  refine Emits.conseq (P := fun _ => True) ?_ (fun _ _ => trivial) fun _ _ _ h => h
  refine (emits_enqueue hE (fun _ _ _ _ => trivial) (fun _ _ _ _ => trivial) _).bind fun _ put' =>
    Emits.assume (fun _ h => h.2) fun ⟨h₃, h₄⟩ => (emits_pure ()).conseq (fun _ _ => trivial) ?_
  rintro _ _ _ ⟨-, h₅, h₆⟩
  simp [h₁, h₂, h₃, h₄, h₅, h₆]

/-- Handling one message shows what it calls for, takes nothing, and keeps the reading: a
response fills the cell of the call it answers, if any, a request is answered by its responder or
refused, a notification is heard, and a message with neither id nor method is reported. -/
theorem emits_dispatch (hE : ∀ s s', E s s' → ReaderKept i p keep s s') {hooks : Hooks}
    {note : String → Json.Value → Json.Value} (hh : hooks.Noting i p l rs E note) (msg : Message) :
    Emits (signs i p) E (Reading i p l rs keep e) (Link.dispatch hooks i msg) fun _ put s' =>
      Reading i p l rs keep e s' ∧ put.flatMap Prod.fst = [] ∧
        put.flatMap Prod.snd = frameSigns note (.message msg) := by
  -- every branch but a report first gives way, which keeps the reading
  have hkept : ∀ s s', Reading i p l rs keep e s → E s s' → Reading i p l rs keep e s' :=
    fun _ _ h hw => h.kept (hE _ _ hw)
  unfold Link.dispatch
  simp only [frameSigns]
  cases hk : msg.kind with
  | response =>
    simp only
    cases msg.id with
    | none => exact emits_pure ()
    | some id =>
      simp only
      refine Emits.spend_bind hkept ?_
      -- the call answered, if any, leaves the waiting ones silently, and its cell is filled
      refine (emits_modifyGet_silent fun s _ => ?_).bind fun cell put => ?_
      · rcases ht : (s.link i).takePending id with ⟨cell, c⟩
        refine Silent.modifyLink ⟨(extractEntry id (s.link i).pending).2, (s.link i).outbox, ?_⟩
        simp only [Connection.takePending] at ht
        rw [← (Prod.mk.inj ht).2]
      · refine Emits.assume (c := put = [([], [])]) (fun _ h => h.elim fun _ h => h.2.2.2)
          fun hput => ?_
        subst hput
        refine Emits.conseq (P := Reading i p l rs keep e) ?_
          (fun _ h => h.elim fun _ h => h.1.silent h.2.2.1) fun _ _ _ h => h
        cases cell with
        | none =>
          refine (emits_pure ()).conseq (fun _ h => h) ?_
          rintro _ _ s' ⟨hs, h₁, h₂⟩
          exact ⟨hs, by simp [h₁], by simp [h₂]⟩
        | some c =>
          refine (emits_modify_silent fun _ _ => Silent.modifyCell c _).conseq (fun _ h => h) ?_
          rintro _ _ s' ⟨s, hs, hq, rfl⟩
          exact ⟨hs.silent hq, by simp, by simp⟩
  | request =>
    simp only
    cases msg.id with
    | none => exact emits_pure ()
    | some id =>
      cases msg.method with
      | none => exact emits_pure ()
      | some method =>
        simp only
        refine Emits.spend_bind hkept ?_
        refine Emits.read_bind fun c => ?_
        refine Emits.assume (c := c.responders = rs)
          (fun s h => by rw [h.2]; exact h.1.responders) fun hc => ?_
        rw [hc]
        refine Emits.conseq (P := Reading i p l rs keep e) ?_ (fun _ h => h.1) fun _ _ _ h => h
        cases hl : rs.lookup method with
        | none =>
          -- no responder: the refusal is queued
          refine (emits_enqueue hE (fun _ _ h hk => h.kept hk) (fun _ _ h hq => h.silent hq)
            _).bind fun _ put => (emits_pure ()).conseq (fun _ h => h) ?_
          rintro _ _ s' ⟨⟨hs, h₁, h₂⟩, h₃, h₄⟩
          exact ⟨hs, by simp [h₁, h₃], by simp [h₂, h₄]⟩
        | some r =>
          -- answered by a task of its own, which shows nothing
          refine (Emits.spawn (C := fun xs => xs.flatMap Prod.fst = [] ∧ xs.flatMap Prod.snd = [])
            fun s s' xs hs hw hrun => ?_).conseq (fun _ h => h) ?_
          · obtain ⟨_, _, h⟩ := (emits_answerTask hE hh hl _ id).toProgram (hs.kept (hE s s' hw)) hrun
            exact h
          · rintro _ _ s' ⟨⟨h₁, h₂⟩, hs⟩
            exact ⟨hs, by simp [h₁], by simp [h₂]⟩
  | notification =>
    cases msg.method with
    | none => exact emits_pure ()
    | some method =>
      simp only
      refine Emits.spend_bind hkept ?_
      refine Emits.read_bind fun c => ?_
      refine Emits.assume (c := c.listener = some l)
        (fun s h => by rw [h.2]; exact h.1.listener) fun hc => ?_
      rw [hc]
      -- heard by the listener, which notes it
      refine (hh.hear method _ keep e).conseq (fun _ h => h.1) ?_
      rintro _ _ s' ⟨hs, h₁, h₂⟩
      exact ⟨hs, by simp [h₁], by simp [h₂]⟩
  | invalid =>
    simp only
    refine (emits_report hE _ fun _ h => h).conseq (fun _ h => h) ?_
    rintro _ _ s' ⟨-, hs, rfl⟩
    exact ⟨hs, rfl, rfl⟩

/-- Handling one frame shows what it calls for, takes nothing, and keeps the reading. -/
theorem emits_dispatchFrame (hE : ∀ s s', E s s' → ReaderKept i p keep s s') {hooks : Hooks}
    {note : String → Json.Value → Json.Value} (hh : hooks.Noting i p l rs E note) (f : Frame) :
    Emits (signs i p) E (Reading i p l rs keep e) (Link.dispatchFrame hooks i f) fun _ put s' =>
      Reading i p l rs keep e s' ∧ put.flatMap Prod.fst = [] ∧
        put.flatMap Prod.snd = frameSigns note f := by
  cases f with
  | malformed line reason =>
    refine (emits_report hE _ fun _ h => h).conseq (fun _ h => h) ?_
    rintro _ _ s' ⟨-, hs, rfl⟩
    exact ⟨hs, rfl, rfl⟩
  | message msg => exact emits_dispatch hE hh msg

end Steps

end Reading

/-! ## What a run of the reader did -/

/-- What the reader did over a run from the stream `P` read so far, with the frames `done` taken
from it, showing `xs` and stopping in `s'`: for one way the output ends, the signs of `done` and
what it showed are the first of those the stream read on calls for, the pipe shows that ending
once it is reported, and they are all of them when the reader stopped reading on a connection
kept open; once the end was read it took nothing. -/
def Served (p : Nat) (note : String → Json.Value → Json.Value) (keep : Bool) (P : List UInt8)
    (done : List Frame) (ended : Bool) (xs : List (List UInt8 × List Sign)) (s' : Memory) : Prop :=
  (∃ en : OutputEnding,
    done.flatMap (frameSigns note) ++ xs.flatMap Prod.snd <+:
        outputSigns note (P ++ xs.flatMap Prod.fst) en ∧
      (Sign.report en.report ∈ xs.flatMap Prod.snd → en.Over p s') ∧
      (keep = true → (s'.pipe p).reading = false →
        done.flatMap (frameSigns note) ++ xs.flatMap Prod.snd =
          outputSigns note (P ++ xs.flatMap Prod.fst) en)) ∧
    (ended = true → xs.flatMap Prod.fst = [])

namespace Served

variable {p : Nat} {note : String → Json.Value → Json.Value} {keep e : Bool} {P : List UInt8}
  {done : List Frame} {xs put : List (List UInt8 × List Sign)} {s' : Memory}

/-- The signs of the frames taken come first in what the stream read on by `d` calls for. -/
theorem prefix_of_frames {fr : Framer} (hat : fr.At P done) (d : List UInt8)
    (hd : fr.atEnd = true → d = []) :
    done.flatMap (frameSigns note) <+: outputSigns note (P ++ d) .eof :=
  ((hat.prefix_append d hd).flatMap _).trans (List.prefix_append _ _)

/-- What a run shows once the end was read holds whatever the reader knows of it. -/
theorem of_ended (h : Served p note keep P done true xs s') : Served p note keep P done e xs s' :=
  ⟨h.1, fun _ => h.2 rfl⟩

/-- A run that showed nothing and still reads. -/
theorem of_idle {fr : Framer} (hat : fr.At P done) (hread : (s'.pipe p).reading = true) :
    Served p note keep P done fr.atEnd [] s' :=
  ⟨⟨.eof, by simpa using prefix_of_frames hat [] (fun _ => rfl), (fun h => by simp at h),
    fun _ h => absurd (hread ▸ h) Bool.noConfusion⟩, fun _ => rfl⟩

/-- A run that took bytes goes on as a run from the longer stream. -/
theorem of_read (bytes : List UInt8) (hend : e = true → bytes = [])
    (h : Served p note keep (P ++ bytes) done e xs s') :
    Served p note keep P done e ((bytes, []) :: xs) s' := by
  unfold Served at h ⊢
  simp only [List.flatMap_cons, List.nil_append, ← List.append_assoc]
  obtain ⟨hshown, hnil⟩ := h
  exact ⟨hshown, fun he => by rw [hend he, hnil he]; rfl⟩

/-- A run that handled a frame, showing what it calls for, goes on as a run with the frame
taken. -/
theorem of_frame (f : Frame) (put : List (List UInt8 × List Sign))
    (htaken : put.flatMap Prod.fst = []) (hmade : put.flatMap Prod.snd = frameSigns note f)
    (h : Served p note keep P (done ++ [f]) e xs s') : Served p note keep P done e (put ++ xs) s' := by
  obtain ⟨⟨en, hpre, hover, hall⟩, hnil⟩ := h
  have hshown : (put ++ xs).flatMap Prod.snd = frameSigns note f ++ xs.flatMap Prod.snd := by
    rw [List.flatMap_append, hmade]
  have htook : (put ++ xs).flatMap Prod.fst = xs.flatMap Prod.fst := by
    rw [List.flatMap_append, htaken, List.nil_append]
  have hsigns : (done ++ [f]).flatMap (frameSigns note) ++ xs.flatMap Prod.snd =
      done.flatMap (frameSigns note) ++ (put ++ xs).flatMap Prod.snd := by
    simp [hshown]
  refine ⟨⟨en, ?_, fun hm => hover ?_, fun hk hr => ?_⟩, fun he => htook ▸ hnil he⟩
  · rw [htook, ← hsigns]
    exact hpre
  · -- the ending's report is no frame's
    rw [hshown] at hm
    exact (List.mem_append.1 hm).resolve_left (report_not_mem_frameSigns note en f)
  · rw [htook, ← hsigns]
    exact hall hk hr

/-- A run stopped by the connection found closed shows nothing more. -/
theorem of_closed {fr : Framer} (hat : fr.At P done) (put : List (List UInt8 × List Sign))
    (htaken : put.flatMap Prod.fst = []) (hmade : put.flatMap Prod.snd = [])
    (hk : keep = false) : Served p note keep P done fr.atEnd put s' := by
  refine ⟨⟨.eof, ?_, (fun h => by rw [hmade] at h; cases h),
    fun h => absurd (hk ▸ h) (by simp)⟩, fun _ => htaken⟩
  rw [hmade, htaken, List.append_nil]
  exact prefix_of_frames hat [] (fun _ => rfl)

/-- A run that ended the output as `en` says once every frame was taken shows the first of the
ending's signs, all of them on a connection kept open, and the pipe shows that ending. -/
theorem of_ending (en : OutputEnding) (hdone : done = (readWhole P en.whole).1)
    (put : List (List UInt8 × List Sign)) (htaken : put.flatMap Prod.fst = [])
    (hpre : put.flatMap Prod.snd <+: [.report en.report, .shut])
    (hall : keep = true → put.flatMap Prod.snd = [.report en.report, .shut])
    (hover : en.Over p s') : Served p note keep P done e put s' := by
  refine ⟨⟨en, ?_, fun _ => hover, fun hk _ => ?_⟩, fun _ => htaken⟩
  · rw [htaken, List.append_nil, hdone]
    exact (List.prefix_append_right_inj _).2 hpre
  · rw [htaken, List.append_nil, hdone, hall hk]
    rfl

end Served

/-- The turns the reader owes standing at framer `fr`, with the stream `P` read and the frames
`done` taken from it: one for each byte read beyond a frame taken; while cutting before the end,
four more, to find no frame and read again; and between reads two to read, or three when it must
wait first. -/
def readerCost (i p : Nat) (fr : Framer) (P : List UInt8) (done : List Frame) (s : Memory) :
    Nat :=
  P.length - done.length +
    if fr.framing then (if fr.atEnd then 0 else 4)
    else if (s.link i).closed || (s.pipe p).readable then 2 else 3

/-- Between reads the reader owes at most three turns beyond the bytes read. -/
theorem readerCost_idle_le (i p : Nat) (ib : Inbox) (P : List UInt8) (done : List Frame)
    (s : Memory) : readerCost i p ⟨ib, false, false⟩ P done s ≤ P.length - done.length + 3 := by
  simp only [readerCost, Bool.false_eq_true, if_false]
  split <;> omega

/-- Every finished run of the reader with `fuel` turns, from any framer where the stream read so
far and the frames taken from it put it, in an interleaving where the rest of the host moves as
`E` allows: what it shows is as `Served` says, and when it still reads at its end, the bytes it
took paid for its turns, four turns a byte beyond what it owed at its start. -/
def ReaderRuns (hooks : Hooks) (E : Memory → Memory → Prop) (i p : Nat) (l : Listener)
    (rs : List (String × Responder)) (keep : Bool) (note : String → Json.Value → Json.Value)
    (fuel : Nat) : Prop :=
  ∀ fr P done c, Framer.At fr P done →
    Emits (signs i p) E (fun s => Reading i p l rs keep fr.atEnd s ∧ readerCost i p fr P done s ≤ c)
      (Link.reader hooks i fuel fr) fun _ xs s' =>
        Served p note keep P done fr.atEnd xs s' ∧ Paid p 4 fuel c xs s'

namespace Link

section Loop

variable {i p : Nat} {l : Listener} {rs : List (String × Responder)} {keep : Bool}
  {E : Memory → Memory → Prop} {hooks : Hooks} {note : String → Json.Value → Json.Value}
  {P : List UInt8} {done : List Frame}

/-- With frames being cut, the reader hands the next frame on and goes on cutting, reads again
once the frames read so far are all handled, or reports the end once the stream has ended. A
frame pays for its turn, and finding none before the end is paid for by what cutting owed. -/
theorem emits_readerCut (hE : ∀ s s', E s s' → ReaderKept i p keep s s')
    (hh : hooks.Noting i p l rs E note) {fuel : Nat}
    (ih : ReaderRuns hooks E i p l rs keep note fuel)
    {ib : Inbox} {a : Bool} (hat : Framer.At ⟨ib, true, a⟩ P done) {c : Nat}
    (hc : P.length - done.length + (if a then 0 else 4) ≤ c) :
    Emits (signs i p) E (Reading i p l rs keep a)
      (match ib.nextFrame a with
        | (ib', some f) => do
          Link.dispatchFrame hooks i f
          Link.reader hooks i fuel ⟨ib', true, a⟩
        | (ib', none) =>
          if a then Link.outputEnded i else Link.reader hooks i fuel ⟨ib', false, a⟩)
      fun _ xs s' => Served p note keep P done a xs s' ∧ Paid p 4 (fuel + 1) c xs s' := by
  rcases hn : ib.nextFrame a with ⟨ib₁, _ | f⟩
  · simp only
    cases a with
    | true =>
      -- every frame of the ended stream was handled: report the end and stop
      simp only [if_true]
      refine (Reading.emits_outputEnded hE).conseq (fun _ h => h) ?_
      rintro _ put s' ⟨h₁, h₂, h₃, h₄, h₅⟩
      exact ⟨Served.of_ending .eof (hat.next_none_end hn) put h₁ h₂ h₃ h₅, Paid.of_stopped h₄⟩
    | false =>
      -- every frame read so far was handled: read again, owing at most three turns
      simp only [Bool.false_eq_true, if_false] at hc ⊢
      refine (ih ⟨ib₁, false, false⟩ P done (P.length - done.length + 3) (hat.next_none hn)).conseq
        (fun s h => ⟨h, readerCost_idle_le i p ib₁ P done s⟩)
        fun _ xs s' h => ⟨h.1, h.2.idle (by omega)⟩
  · -- a frame: handle it before cutting the next, the frame paying for the turn
    simp only
    have hat' := hat.next_some hn
    have hlen := hat'.length_le
    refine (Reading.emits_dispatchFrame hE hh f).bind fun _ put =>
      Emits.assume (fun _ h => h.2) fun ⟨h₁, h₂⟩ => ?_
    refine (ih ⟨ib₁, true, a⟩ P (done ++ [f])
      (P.length - (done ++ [f]).length + if a then 0 else 4) hat').conseq
        (fun s h => ⟨h.1, by simp [readerCost]⟩)
        fun _ xs s' h => ⟨Served.of_frame f put h₁ h₂ h.1, h.2.step ?_⟩
    simp only [h₁, List.length_append, List.length_singleton, List.length_nil] at hlen ⊢
    omega

/-- With every frame read so far handled, the reader waits for bytes, the end, a failure or the
connection closing, and reads: new bytes are cut into frames, the end cuts the last ones, and a
failure is reported and stops it. A wait is paid for by what was owed before it, a read by the
bytes it takes. -/
theorem emits_readerRead (hE : ∀ s s', E s s' → ReaderKept i p keep s s') {fuel : Nat}
    (ih : ReaderRuns hooks E i p l rs keep note fuel)
    {ib : Inbox} (hat : Framer.At ⟨ib, false, false⟩ P done) {c : Nat} :
    Emits (signs i p) E (fun s => Reading i p l rs keep false s ∧ (s.link i).closed = false ∧
        readerCost i p ⟨ib, false, false⟩ P done s ≤ c)
      (do
        if !(← Async.read fun m => (m.pipe p).readable) then
          Async.waitUntil (fun m => (m.link i).closed || (m.pipe p).readable) none
          Link.reader hooks i fuel ⟨ib, false, false⟩
        else
          Async.spend
          if ← Link.isClosed i then Link.stopReader i
          else
            match ← Link.readAtMost p ib.makeRoom.room with
            | .error err =>
              Link.report i ⟨.streamClosed, "stream error: " ++ err⟩
              Link.stopReader i
            | .ok bytes =>
              if bytes.isEmpty then Link.reader hooks i fuel ⟨ib.makeRoom, true, true⟩
              else Link.reader hooks i fuel ⟨ib.makeRoom.push bytes, true, false⟩)
      fun _ xs s' => Served p note keep P done false xs s' ∧ Paid p 4 (fuel + 1) c xs s' := by
  refine Emits.read_bind fun readable => ?_
  cases readable with
  | false =>
    -- nothing to read yet: wait, then start over owing one turn less
    simp only [Bool.not_false, if_true]
    refine Emits.assume (c := P.length - done.length + 3 ≤ c)
      (fun s ⟨⟨_, hc, hcost⟩, hr⟩ => ?_) fun hcost => ?_
    · simpa [readerCost, hc, ← hr] using hcost
    refine Emits.waitUntil_bind (Q := Reading i p l rs keep false)
      (fun _ _ h hw => h.1.1.kept (hE _ _ hw)) ?_
    refine (ih ⟨ib, false, false⟩ P done (P.length - done.length + 2) hat).conseq
      (fun s h => ⟨h.1, by simp [readerCost, h.2]⟩) fun _ xs s' h => ⟨h.1, h.2.idle (by omega)⟩
  | true =>
    simp only [Bool.not_true, Bool.false_eq_true, if_false]
    refine Emits.assume (c := P.length - done.length + 2 ≤ c)
      (fun s ⟨⟨_, _, hcost⟩, _⟩ => ?_) fun hcost => ?_
    · refine Nat.le_trans ?_ hcost
      simp only [readerCost, Bool.false_eq_true, if_false]
      split <;> omega
    -- give way, then read unless the connection closed meanwhile
    refine Emits.conseq (P := fun s => Reading i p l rs keep false s ∧
      (s.pipe p).readable = true) ?_ (fun _ h => ⟨h.1.1, h.2.symm⟩) fun _ _ _ h => h
    refine Emits.spend_bind
      (fun _ _ h hw => ⟨h.1.kept (hE _ _ hw), (hE _ _ hw).readable h.2⟩) ?_
    refine Emits.read_bind fun closed => ?_
    cases closed with
    | true =>
      simp only [if_true]
      refine (Reading.emits_stopReader hE (P := fun s =>
          (Reading i p l rs keep false s ∧ (s.pipe p).readable = true) ∧ true = (s.link i).closed)
        fun s h => ⟨h.1.1.stopping, h.1.1.linked⟩).conseq (fun _ h => h) ?_
      rintro _ put s' ⟨s, ⟨⟨hs, -⟩, hcl⟩, h₁, hclosed, -, hread, -⟩
      exact ⟨Served.of_closed hat put h₁ (hclosed hcl.symm) (hs.not_keep hcl.symm),
        Paid.of_stopped hread⟩
    | false =>
      simp only [Bool.false_eq_true, if_false]
      refine (Reading.emits_readAtMost (Inbox.room_makeRoom_pos ib) fun s h => h.1).bind
        fun r put => ?_
      cases r with
      | error err =>
        -- reading failed: report it and stop, every frame read so far being handled
        refine Emits.assume (c := put = []) (fun _ h => h.2.2) fun hput => ?_
        subst hput
        refine (Reading.emits_readFailed hE err).conseq (fun s h => ⟨h.1.1.1, h.2.1⟩) ?_
        rintro _ put s' ⟨h₁, h₂, h₃, hread, hfault⟩
        have hdone : done = (readWhole P false).1 := by
          cases hat with
          | idle _ hdone => exact hdone
        exact ⟨Served.of_ending (.failed err) hdone put h₁ h₂ h₃ hfault, Paid.of_stopped hread⟩
      | ok bytes =>
        refine Emits.assume (c := put = [(bytes, [])])
          (fun _ h => by obtain ⟨-, -, -, hput, -⟩ := h; exact hput) fun hput => ?_
        subst hput
        cases bytes with
        | nil =>
          -- the end: cut the last frames
          simp only [List.isEmpty_nil, if_true]
          refine (ih ⟨ib.makeRoom, true, true⟩ P done (P.length - done.length) hat.finish).conseq
            (fun s h => ⟨?_, by simp [readerCost]⟩) fun _ xs s' h => ⟨?_, h.2.step (by simp; omega)⟩
          · obtain ⟨-, -, hw, -⟩ := h
            simpa using hw
          · simpa using Served.of_read (e := false) [] (fun _ => rfl) (by simpa using h.1.of_ended)
        | cons b bs =>
          -- bytes: cut the frames they add, the bytes paying for the turn
          simp only [List.isEmpty_cons, Bool.false_eq_true, if_false]
          have hlen := hat.length_le
          refine (ih ⟨ib.makeRoom.push (b :: bs), true, false⟩ (P ++ b :: bs) done
            ((P ++ b :: bs).length - done.length + 4) (hat.push (b :: bs))).conseq
              (fun s h => ⟨?_, by simp [readerCost]⟩)
              fun _ xs s' h => ⟨Served.of_read (b :: bs) (fun h => by cases h) h.1, h.2.step ?_⟩
          · obtain ⟨-, -, hw, -⟩ := h
            simpa using hw
          · simp only [List.flatMap_cons, List.flatMap_nil, List.append_nil, List.length_append,
              List.length_cons] at hcost ⊢
            omega

/-- Once the connection is closed the reader handles no further frame: at any of its turns, from
any framer, whatever its inbox and the pipe still hold, a reader that finds the connection closed
shows nothing and takes nothing. -/
theorem reader_quiet_once_closed (hE : ∀ s s', E s s' → ReaderKept i p keep s s') (fuel : Nat)
    (fr : Framer) (e : Bool) :
    Emits (signs i p) E (fun s => Reading i p l rs keep e s ∧ (s.link i).closed = true)
      (Link.reader hooks i fuel fr) fun _ xs _ =>
        xs.flatMap Prod.fst = [] ∧ xs.flatMap Prod.snd = [] := by
  cases fuel with
  | zero =>
    unfold Link.reader
    exact (Emits.pure ()).conseq (fun _ h => h) fun _ _ _ ⟨_, hput, _⟩ => by simp [hput]
  | succ fuel =>
    unfold Link.reader
    refine Emits.read_bind fun conn => Emits.assume (c := conn.closed = true)
      (fun s h => by rw [h.2]; exact h.1.2) fun hc => ?_
    simp only [hc, if_true]
    refine (Reading.emits_stopReader hE (P := fun s =>
        (Reading i p l rs keep e s ∧ (s.link i).closed = true) ∧ conn = s.link i)
      fun s h => ⟨h.1.1.stopping, h.1.1.linked⟩).conseq (fun _ h => h) ?_
    rintro _ put _ ⟨s, ⟨⟨-, hcl⟩, -⟩, h₁, hclosed, -⟩
    exact ⟨h₁, hclosed hcl⟩

end Loop

/-- Every finished run of the reader, from any framer where the stream read so far and the frames
taken from it put it, and with any fuel, in an interleaving where the rest of the host keeps the
reading and with hooks that note notifications: what it shows completes the signs of the frames
taken to the first of what the stream read on calls for, for one way the output ends, and to all
of it when it stopped reading on a connection kept open; and when it still reads at its end, the
bytes it took paid for its turns. -/
theorem emits_reader {i p : Nat} {l : Listener} {rs : List (String × Responder)} {keep : Bool}
    {E : Memory → Memory → Prop} {hooks : Hooks} {note : String → Json.Value → Json.Value}
    (hE : ∀ s s', E s s' → ReaderKept i p keep s s') (hh : hooks.Noting i p l rs E note) :
    ∀ fuel, ReaderRuns hooks E i p l rs keep note fuel
  | 0, fr, P, done, c, hat => by
    unfold Link.reader
    refine (Emits.pure ()).conseq (fun _ h => h) ?_
    rintro _ _ s' ⟨-, rfl, hs, -⟩
    exact ⟨Served.of_idle hat hs.reading, Paid.zero⟩
  | fuel + 1, fr, P, done, c, hat => by
    unfold Link.reader
    refine Emits.read_bind fun conn => ?_
    cases hc : conn.closed with
    | true =>
      -- the connection closed: stop, showing nothing
      simp only [if_true]
      refine (Reading.emits_stopReader hE (P := fun s =>
          (Reading i p l rs keep fr.atEnd s ∧ readerCost i p fr P done s ≤ c) ∧ conn = s.link i)
        fun s h => ⟨h.1.1.stopping, h.1.1.linked⟩).conseq (fun _ h => h) ?_
      rintro _ put s' ⟨s, ⟨⟨hs, -⟩, rfl⟩, h₁, hclosed, -, hread, -⟩
      exact ⟨Served.of_closed hat put h₁ (hclosed hc) (hs.not_keep hc), Paid.of_stopped hread⟩
    | false =>
      simp only [Bool.false_eq_true, if_false]
      -- cut frames while the framer is cutting, else read
      cases hat with
      | @cutting ib ib' a _ _ rest hcuts hheld hall =>
        simp only [if_true]
        refine Emits.assume (c := P.length - done.length + (if a then 0 else 4) ≤ c)
          (fun s h => by simpa [readerCost] using h.1.2) fun hcost => ?_
        exact (emits_readerCut hE hh (emits_reader hE hh fuel) (.cutting hcuts hheld hall)
          hcost).conseq (fun _ h => h.1.1) fun _ _ _ h => h
      | @idle ib _ _ hheld hdone =>
        simp only [Bool.false_eq_true, if_false]
        refine Emits.assume (c := conn.fromAgent = p)
          (fun s h => by rw [h.2]; exact h.1.1.fromAgent) fun hcp => ?_
        rw [hcp]
        exact (emits_readerRead hE (emits_reader hE hh fuel) (.idle hheld hdone)).conseq
          (fun s h => ⟨h.1.1, by rw [← h.2]; exact hc, h.1.2⟩) fun _ _ _ h => h

end Link

/-! ## Responses -/

namespace Memory

/-- The cells a change of the memory settles. -/
def settled (s s' : Memory) : List Nat :=
  (List.range s'.cells.size).filter fun c => !(s.cell c).isSettled && (s'.cell c).isSettled

theorem settled_of_cells {s s' : Memory} (h : s'.cells = s.cells) : settled s s' = [] := by
  simp [settled, cell, h]

/-- Changing one cell settles at most that one. -/
theorem length_settled_modifyCell (s : Memory) (c : Nat) (g : Cell → Cell) :
    (settled s (s.modifyCell c g)).length ≤ 1 := by
  have hsub : settled s (s.modifyCell c g) ⊆ [c] := by
    intro d hd
    simp only [settled, List.mem_filter, cell_modifyCell] at hd
    obtain ⟨-, hd⟩ := hd
    split at hd
    · next h => exact List.mem_singleton.2 h.1.symm
    · simp at hd
  have hnd : (settled s (s.modifyCell c g)).Nodup := List.nodup_range.filter _
  exact (List.subperm_of_subset hnd hsub).length_le

end Memory

/-- Handling a response settles at most one cell, whatever the rest of the host does meanwhile:
that of the waiting call it takes back, if there is one. -/
theorem Link.emits_dispatch_response {hooks : Hooks} {i : Nat} {E : Memory → Memory → Prop}
    {P : Memory → Prop} {msg : Message} (hr : msg.kind = .response) :
    Emits Memory.settled E P (Link.dispatch hooks i msg) fun _ put _ => put.length ≤ 1 := by
  unfold Link.dispatch
  rw [hr]
  dsimp only
  split
  · next x _ =>
    refine Emits.spend.bind fun _ put => Emits.assume (fun _ h => h.2) fun hput => ?_
    subst hput
    -- taking the call back changes no cell
    refine (Emits.modifyGet _).bind fun cell put =>
      Emits.assume (c := put = []) (fun _ h => ?_) fun hput => ?_
    · obtain ⟨s, -, hf, rfl⟩ := h
      rcases ht : (s.link i).takePending x with ⟨cell', conn⟩
      simp only [ht, Prod.mk.injEq] at hf
      obtain ⟨-, rfl⟩ := hf
      exact Memory.settled_of_cells rfl
    · subst hput
      cases cell with
      | none => exact (Emits.pure ()).conseq (fun _ h => h) fun _ _ _ h => by simp [h.2.1]
      | some c =>
        refine (Emits.modify _).conseq (fun _ h => h) ?_
        rintro _ _ _ ⟨s, -, rfl, rfl⟩
        exact Memory.length_settled_modifyCell s c _
  · exact (Emits.pure ()).conseq (fun _ h => h) fun _ _ _ h => by simp [h.2.1]

/-! ## The bench's hooks -/

/-- The bench's record of a notification: its method and params. -/
def benchNote (method : String) (params : Json.Value) : Json.Value :=
  .obj [("notification", .string method), ("params", params)]

/-- The bench's hooks, with a listener that logs without pausing and no responders, note each
notification as the bench records it. -/
theorem benchHooks_noting (i p : Nat) (E : Memory → Memory → Prop) :
    benchHooks.Noting i p (.log 0) [] E benchNote where
  hear method params keep ended := by
    -- no pause: the listener logs at once
    show Emits _ _ _ (logInbound (benchNote method params)) _
    refine (Emits.modify _).conseq (fun _ h => h) ?_
    rintro _ _ _ ⟨s, hs, rfl, rfl⟩
    exact ⟨{ hs with }, by simp [signs, Memory.modifyHeard, Memory.pipe],
      by simp [signs, Memory.modifyHeard, Memory.pipe, Memory.link]⟩
  answer _ _ h := nomatch h

/-- Every finished run of a connection's reader from the start, however the agent's writes are
cut into reads, in an interleaving where the rest of the host keeps the reading, and with hooks
that note each notification and answer requests quietly: for one way the output ends, what it
shows is the first of what the bytes it took call for (each frame's report or note in stream
order, then the ending reported and the connection shut), and the pipe shows that ending once it
is reported. When nobody else closes the connection, the reader has stopped reading and shown all
of it, unless the bytes it took paid for all its `loopFuel` turns. -/
theorem reader_signs {hooks : Hooks} {i p : Nat} {l : Listener} {rs : List (String × Responder)}
    {keep : Bool} {E : Memory → Memory → Prop} {note : String → Json.Value → Json.Value}
    (hE : ∀ s s', E s s' → ReaderKept i p keep s s') (hh : hooks.Noting i p l rs E note) :
    Emits (signs i p) E (Reading i p l rs keep false) (Link.reader hooks i loopFuel {})
      fun _ xs s' => ∃ en : OutputEnding,
        xs.flatMap Prod.snd <+: outputSigns note (xs.flatMap Prod.fst) en ∧
        (Sign.report en.report ∈ xs.flatMap Prod.snd → en.Over p s') ∧
        (keep = true → 4 * (xs.flatMap Prod.fst).length + 3 < loopFuel →
          (s'.pipe p).reading = false ∧
            xs.flatMap Prod.snd = outputSigns note (xs.flatMap Prod.fst) en ∧ en.Over p s') := by
  refine (Link.emits_reader hE hh loopFuel {} [] [] 3 Framer.At.start).conseq
    (fun s h => ⟨h, readerCost_idle_le i p {} [] [] s⟩) fun _ xs s' h => ?_
  obtain ⟨⟨en, hpre, hover, hall⟩, -⟩ := h.1
  refine ⟨en, by simpa using hpre, hover, fun hk hlt => ?_⟩
  -- a reader still reading would have used all its turns
  have hr : (s'.pipe p).reading = false :=
    Bool.eq_false_iff.2 fun hr => absurd (h.2 hr) (by omega)
  have heq : xs.flatMap Prod.snd = outputSigns note (xs.flatMap Prod.fst) en := by
    simpa using hall hk hr
  exact ⟨hr, heq, hover (by rw [heq]; simp [outputSigns])⟩

/-- The reader handles the agent's output in order and reports every failure. Every finished run
of a connection's reader from the start, however the agent's writes are cut into reads, in an
interleaving where the rest of the host only appends to the stream, may make reading it fail and
may close the connection, and with hooks that note each notification and answer requests
quietly, shows, for one way the output ends, the first of what the bytes it took call for: for
each frame in stream order its report or note (one report per malformed frame, with its reason and
line, and per message with neither id nor method; one note per notification, with its params or
`null`; nothing for a blank line), then the ending reported once (the end of the stream, or the
error a read met) and the connection shut; the pipe shows the ending reported. When nobody else
closes the connection, it has stopped reading and shown all of it, unless the bytes it took paid
for all its turns. A reader that finds the connection closed handles no further frame, and
handling a response settles at most one cell. -/
theorem agent_output_handled {hooks : Hooks} {i p : Nat} {l : Listener}
    {rs : List (String × Responder)} {keep : Bool} {E : Memory → Memory → Prop}
    {note : String → Json.Value → Json.Value}
    (hE : ∀ s s', E s s' → ReaderKept i p keep s s') (hh : hooks.Noting i p l rs E note) :
    Emits (signs i p) E (Reading i p l rs keep false) (Link.reader hooks i loopFuel {})
        (fun _ xs s' => ∃ en : OutputEnding,
          xs.flatMap Prod.snd <+: outputSigns note (xs.flatMap Prod.fst) en ∧
          (Sign.report en.report ∈ xs.flatMap Prod.snd → en.Over p s') ∧
          (keep = true → 4 * (xs.flatMap Prod.fst).length + 3 < loopFuel →
            (s'.pipe p).reading = false ∧
              xs.flatMap Prod.snd = outputSigns note (xs.flatMap Prod.fst) en ∧ en.Over p s')) ∧
      (∀ fuel fr e, Emits (signs i p) E (fun s => Reading i p l rs keep e s ∧ (s.link i).closed = true)
        (Link.reader hooks i fuel fr) fun _ xs _ =>
          xs.flatMap Prod.fst = [] ∧ xs.flatMap Prod.snd = []) ∧
      ∀ msg : Message, msg.kind = .response → ∀ P : Memory → Prop,
        Emits Memory.settled E P (Link.dispatch hooks i msg) fun _ put _ => put.length ≤ 1 :=
  ⟨reader_signs hE hh, Link.reader_quiet_once_closed hE, fun _ hr _ => Link.emits_dispatch_response hr⟩

/-- The bench's connection `0`, reading pipe `1` with a listener that logs at once and no
responders, and kept open by the rest of the host, handles the agent's output so. -/
theorem agent_output_handled_bench :
    Emits (signs 0 1) (ReaderKept 0 1 true) (Reading 0 1 (.log 0) [] true false)
        (Link.reader benchHooks 0 loopFuel {})
        (fun _ xs s' => ∃ en : OutputEnding,
          xs.flatMap Prod.snd <+: outputSigns benchNote (xs.flatMap Prod.fst) en ∧
          (Sign.report en.report ∈ xs.flatMap Prod.snd → en.Over 1 s') ∧
          (true = true → 4 * (xs.flatMap Prod.fst).length + 3 < loopFuel →
            (s'.pipe 1).reading = false ∧
              xs.flatMap Prod.snd = outputSigns benchNote (xs.flatMap Prod.fst) en ∧
              en.Over 1 s')) ∧
      (∀ fuel fr e, Emits (signs 0 1) (ReaderKept 0 1 true)
        (fun s => Reading 0 1 (.log 0) [] true e s ∧ (s.link 0).closed = true)
        (Link.reader benchHooks 0 fuel fr) fun _ xs _ =>
          xs.flatMap Prod.fst = [] ∧ xs.flatMap Prod.snd = []) ∧
      ∀ msg : Message, msg.kind = .response → ∀ P : Memory → Prop,
        Emits Memory.settled (ReaderKept 0 1 true) P (Link.dispatch benchHooks 0 msg)
          fun _ put _ => put.length ≤ 1 :=
  agent_output_handled (fun _ _ h => h) (benchHooks_noting 0 1 _)

end AgentLink
