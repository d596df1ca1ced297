import Mathlib
import AgentLink.Proofs.QueueRuns
import AgentLink.Proofs.EnvelopeRoundTrip

/-!
# Every request of the agent is answered once, under its own id

The reader hands each message of the agent to `Link.dispatch`. A request is answered exactly
once, whatever else runs meanwhile, as long as the writer still takes messages: where no
responder of its method is registered when the reader looks, with the refusal `-32601`; else by a
task of its own, with what the responder returns (`Link.replyTo`), while the reader goes on at
once. A response, a notification, an invalid message or a malformed line gets no answer. Only
the listeners and responders could put something else on the queue, and `Hooks.Quiet` asks
that they do not.
-/

namespace AgentLink

open Concurrency Async

namespace Concurrency.Program

/-- From state `s`, in any interleaving where the rest of the host moves as `E` allows, `p` comes
to `q` whatever the clock: through changes of the state, looks at it, tasks started and units
spent, but never through a wait. -/
inductive ComesTo {σ : Type} (E : σ → σ → Prop) (q : Program σ) : Program σ → σ → Prop
  | here (s : σ) : ComesTo E q q s
  | update (f : σ → σ) {next : Program σ} {s : σ} :
      ComesTo E q next (f s) → ComesTo E q (.update f next) s
  | look {next : Nat → σ → Program σ} {s : σ} :
      (∀ t, ComesTo E q (next t s) s) → ComesTo E q (.look next) s
  | spawn (child : Program σ) {next : Program σ} {s : σ} :
      ComesTo E q next s → ComesTo E q (.spawn child next) s
  | spend {next : Program σ} {s : σ} :
      (∀ s', E s s' → ComesTo E q next s') → ComesTo E q (.spend next) s

end Concurrency.Program

namespace Concurrency.Async

variable {σ α β : Type} {E : σ → σ → Prop} {P P' : σ → Prop} {R R' : α → σ → Prop}

/-- Code that never waits, from a state where `P` holds and in interleavings where the rest of the
host moves as `E` allows, and ends where `R` holds: followed by code that comes to `q` from
there, it comes to `q`. -/
def NoWait (E : σ → σ → Prop) (P : σ → Prop) (a : Async σ α) (R : α → σ → Prop) : Prop :=
  ∀ (q : Program σ) (k : α → Program σ) (s : σ), P s →
    (∀ v s', R v s' → Program.ComesTo E q (k v) s') → Program.ComesTo E q (a k) s

namespace NoWait

theorem conseq {a : Async σ α} (h : NoWait E P a R) (hP : ∀ s, P' s → P s)
    (hR : ∀ v s, R v s → R' v s) : NoWait E P' a R' :=
  fun q k s hs hk => h q k s (hP s hs) fun v s' hr => hk v s' (hR v s' hr)

/-- A fact the precondition carries may be assumed. -/
theorem assume {a : Async σ α} {c : Prop} (hc : ∀ s, P s → c) (h : c → NoWait E P a R) :
    NoWait E P a R :=
  fun q k s hs => h (hc s hs) q k s hs

theorem bind {Q : α → σ → Prop} {a : Async σ α} {f : α → Async σ β} {R : β → σ → Prop}
    (ha : NoWait E P a Q) (hf : ∀ v, NoWait E (Q v) (f v) R) : NoWait E P (a >>= f) R :=
  fun q k s hs hk => ha q _ s hs fun v s' hq => hf v q k s' hq hk

/-- Giving way lets the rest of the host move the state, without waiting. -/
theorem spend : NoWait E P (Async.spend : Async σ Unit) fun _ s' => ∃ s, P s ∧ E s s' :=
  fun _ _ s hs hk => .spend fun s' hE => hk () s' ⟨s, hs, hE⟩

theorem read {f : σ → α} : NoWait E P (Async.read f) fun v s => P s ∧ v = f s :=
  fun _ _ s hs hk => .look fun _ => hk (f s) s ⟨hs, rfl⟩

theorem spawn {child : Async σ Unit} : NoWait E P (Async.spawn child) fun _ s => P s :=
  fun _ _ s hs hk => .spawn _ (hk () s hs)

/-- What never waits, comes back to what follows. -/
theorem comesTo {a : Async σ α} (h : NoWait E P a R) {k : α → Program σ} {q : Program σ} {s : σ}
    (hs : P s) (hk : ∀ v s', R v s' → Program.ComesTo E q (k v) s') :
    Program.ComesTo E q (a k) s :=
  h q k s hs hk

end NoWait

end Concurrency.Async

namespace Concurrency.Async.Puts

variable {α : Type} {i : Nat} {E : Memory → Memory → Prop} {P : Memory → Prop}
  {R : α → List Message → Memory → Prop}

/-- The state code starts in may be named. -/
theorem start {a : Act α} (h : ∀ s₀, P s₀ → Puts i E (· = s₀) a R) : Puts i E P a R :=
  fun k s ms hs hrun => h s hs k s ms rfl hrun

/-- A finished run of code on its own is one of the runs its specification describes. -/
theorem toProgram {a : Act Unit} {R : Unit → List Message → Memory → Prop} (h : Puts i E P a R)
    {s : Memory} {put : List Message} (hs : P s) (hrun : a.toProgram.Puts i E s put) :
    ∃ s', R () put s' := by
  obtain ⟨_, put₁, s', rest, hr, hdone, rfl⟩ := h (fun _ => .done) s put hs hrun
  cases hdone
  exact ⟨s', by rw [List.append_nil]; exact hr⟩

end Concurrency.Async.Puts

namespace Link

variable {hooks : Hooks} {i : Nat} {E : Memory → Memory → Prop} {R : Responder → Except Failure Json.Value → Prop}

/-- Handling a request with a responder for its method: the reader starts a task that puts
exactly the answer made of what the responder returns, and goes on. -/
theorem puts_answerTask (hq : hooks.Quiet i E R) (hW : ∀ s s', E s s' → (s'.link i).outboxOpen = true)
    (r : Responder) (method : String) (params : Json.Value) (x : RequestId) :
    Puts i E (fun _ => True)
      (do let out ← hooks.answer i r method params x; let _ ← enqueue i (replyTo x out) : Act Unit)
      fun _ put _ => ∃ out, R r out ∧ put = [replyTo x out] := by
  refine Puts.bind (hq.answer r method params x) fun out put => Puts.assume (fun _ h => h) ?_
  rintro ⟨rfl, hr⟩
  refine Puts.bind (puts_enqueue _) fun ok put => Puts.assume (fun _ h => h) ?_
  rintro ⟨-, s₁, s, -, -, hE, rfl, rfl⟩
  refine (Puts.pure ()).conseq (fun _ h => h) ?_
  rintro _ _ _ ⟨-, rfl, -⟩
  exact ⟨out, hr, by simp [hW s₁ s hE]⟩

/-- Handling a request: once the reader resumes, in a state `s` the rest of the host left, the
request is answered exactly once: with the refusal when no responder of its method is registered
in `s`, else from a task of its own, with what the responder returns. -/
theorem puts_dispatch_request (hq : hooks.Quiet i E R) (hW : ∀ s s', E s s' → (s'.link i).outboxOpen = true)
    {P : Memory → Prop} {msg : Message} {x : RequestId} {method : String}
    (hid : msg.id = some x) (hm : msg.method = some method) :
    Puts i E P (dispatch hooks i msg) fun _ put _ => ∃ s₀ s, P s₀ ∧ E s₀ s ∧
      ((s.link i).responders.lookup method = none ∧
          put = [Message.errorResponse x methodNotFound ("method not supported: " ++ method)] ∨
        ∃ r out, (s.link i).responders.lookup method = some r ∧ R r out ∧ put = [replyTo x out]) := by
  obtain ⟨j, _ | x', _ | m', p, res, err⟩ := msg <;> simp only [reduceCtorEq, Option.some.injEq] at hid hm
  subst hid hm
  unfold dispatch
  refine Puts.spend.bind fun _ put => Puts.assume (fun _ h => h.2) ?_
  rintro rfl
  refine (Puts.read _).bind fun c put => Puts.start fun s hs => ?_
  obtain ⟨⟨⟨s₀, hs₀, hE⟩, -⟩, rfl, rfl⟩ := hs
  split
  · rename_i hnone
    refine Puts.bind (puts_enqueue _) fun ok put => Puts.assume (fun _ h => h) ?_
    rintro ⟨-, s₁, s₂, -, -, hE₂, rfl, rfl⟩
    refine (Puts.pure ()).conseq (fun _ h => h) ?_
    rintro _ _ _ ⟨-, rfl, -⟩
    exact ⟨s₀, s, hs₀, hE, .inl ⟨hnone, by simp [hW s₁ s₂ hE₂]⟩⟩
  · rename_i r hr
    refine (Puts.spawn _).conseq (fun _ h => h) ?_
    rintro _ put _ ⟨-, s', -, hrun⟩
    obtain ⟨_, out, hout, rfl⟩ := (puts_answerTask hq hW r _ _ _).toProgram trivial hrun
    exact ⟨s₀, s, hs₀, hE, .inr ⟨r, out, hr, hout, rfl⟩⟩

/-- A response, a notification or an invalid message gets no answer: handling it puts nothing on
the queue. -/
theorem quiet_dispatch (hq : hooks.Quiet i E R) {msg : Message} (hk : msg.kind ≠ .request) :
    Quiet i E (dispatch hooks i msg) fun _ => True := by
  unfold dispatch
  split
  · -- a response fills the cell of the call it answers, in the stretch that takes the call back
    split
    · refine Quiet.spend.bind fun _ _ => (Quiet.modifyGet fun s => ?_).bind fun cell _ => ?_
      · rcases h : (s.link i).takePending _ with ⟨cell, c⟩
        refine Memory.outbox_modifyLink s i i ?_
        rw [← Connection.outbox_takePending (s.link i) _, h]
      · split
        · exact Act.quiet_fill _ _
        · exact Quiet.pure trivial
    · exact Quiet.pure trivial
  · exact absurd ‹_› hk
  · split
    · refine Quiet.spend.bind fun _ _ => (Quiet.read _).bind fun c _ => ?_
      split
      · exact hq.hear _ _ _
      · exact Quiet.pure trivial
    · exact Quiet.pure trivial
  · exact quiet_report i _

/-- A line that is not an envelope gets no answer. -/
theorem quiet_dispatchFrame_malformed (line reason : String) :
    Quiet i E (dispatchFrame hooks i (.malformed line reason)) fun _ => True :=
  quiet_report i _

/-- A handled request never holds up the reader: in any interleaving where the rest of the host
keeps a responder of its method registered, handling it comes back to the reader without
waiting, whatever the state and the clock, the responder running on a task of its own. (A
refusal, put on the queue by the reader itself, waits for room there.) -/
theorem noWait_dispatch_handled {msg : Message} {x : RequestId} {method : String}
    (hid : msg.id = some x) (hm : msg.method = some method)
    (hH : ∀ s s', E s s' → ((s'.link i).responders.lookup method).isSome = true) :
    NoWait E (fun _ => True) (dispatch hooks i msg) fun _ _ => True := by
  obtain ⟨j, _ | x', _ | m', p, res, err⟩ := msg <;> simp only [reduceCtorEq, Option.some.injEq] at hid hm
  subst hid hm
  unfold dispatch
  refine NoWait.spend.bind fun _ => NoWait.read.bind fun c => ?_
  -- the reader looks once the rest of the host has moved, and finds a responder
  refine NoWait.assume (c := (c.responders.lookup m').isSome = true)
    (fun s ⟨⟨s₀, _, hE⟩, hc⟩ => by rw [hc]; exact hH s₀ s hE) fun hsome => ?_
  obtain ⟨r, hr⟩ := Option.isSome_iff_exists.1 hsome
  simp only [hr]
  exact NoWait.spawn.conseq (fun _ _ => trivial) fun _ _ _ => trivial

/-- An answer carries the id of the request it answers, and is a response. -/
theorem replyTo_id (x : RequestId) (out : Except Failure Json.Value) :
    (replyTo x out).id = some x ∧ (replyTo x out).kind = .response := by
  unfold replyTo
  split <;> exact ⟨rfl, rfl⟩

end Link

/-- Every request of the agent is answered exactly once, under its own id, while the writer takes
messages. A request envelope with a numeric id below `2^64` or a string id, written as a line,
reads back as a request with that id. Handling a request whose method has a responder comes back
to the reader without waiting, in any interleaving that keeps the responder registered, and
every finished run of handling a request, whatever else runs meanwhile, puts exactly one message
on the queue: the refusal `-32601` naming the method when no responder of the method is registered as
the reader looks, else the answer made of what the responder returns. Handling any other message,
or a line that is not an envelope, puts nothing. An answer carries the request's id and is a
response, which the agent reads back with that id. The listeners and responders must put nothing
on the queue themselves (`Hooks.Quiet`). -/
theorem request_answered_once {hooks : Hooks} {i : Nat} {E : Memory → Memory → Prop}
    {R : Responder → Except Failure Json.Value → Prop} (hq : hooks.Quiet i E R)
    (hW : ∀ s s', E s s' → (s'.link i).outboxOpen = true) :
    (∀ m : Message, m.kind = .request → m.encodable = true →
      lineFrame (utf8Encode m.render) = some (.message m.normalize) ∧
        m.normalize.id = m.id ∧ m.normalize.kind = .request) ∧
    (∀ (msg : Message) (x : RequestId) (method : String), msg.id = some x → msg.method = some method →
      ((∀ s s', E s s' → ((s'.link i).responders.lookup method).isSome = true) →
        ∀ k s, Program.ComesTo E (k ()) (Link.dispatch hooks i msg k) s) ∧
      ∀ s ms, (Link.dispatch hooks i msg).toProgram.Puts i E s ms → ∃ s', E s s' ∧
        ((s'.link i).responders.lookup method = none ∧
            ms = [Message.errorResponse x methodNotFound ("method not supported: " ++ method)] ∨
          ∃ r out, (s'.link i).responders.lookup method = some r ∧ R r out ∧
            ms = [Link.replyTo x out])) ∧
    (∀ msg : Message, msg.kind ≠ .request →
      ∀ s ms, (Link.dispatch hooks i msg).toProgram.Puts i E s ms → ms = []) ∧
    (∀ line reason s ms,
      (Link.dispatchFrame hooks i (.malformed line reason)).toProgram.Puts i E s ms → ms = []) ∧
    (∀ x out, (Link.replyTo x out).id = some x ∧ (Link.replyTo x out).kind = .response ∧
      ((Link.replyTo x out).encodable = true →
        lineFrame (utf8Encode (Link.replyTo x out).render) =
          some (.message (Link.replyTo x out).normalize))) := by
  refine ⟨fun m hk hm => ⟨Message.lineFrame_render hm, rfl, hk⟩, fun msg x method hid hm => ⟨?_, ?_⟩,
    fun msg hk s ms hrun => (Link.quiet_dispatch hq hk).toProgram hrun,
    fun line reason s ms hrun => (Link.quiet_dispatchFrame_malformed line reason).toProgram hrun,
    fun x out => ⟨(Link.replyTo_id x out).1, (Link.replyTo_id x out).2, Message.lineFrame_render⟩⟩
  · exact fun hH k s => (Link.noWait_dispatch_handled hid hm hH).comesTo trivial
      fun _ _ _ => .here _
  · intro s ms hrun
    obtain ⟨-, s₀, s', rfl, hE, h⟩ :=
      (Link.puts_dispatch_request (P := (· = s)) hq hW hid hm).toProgram rfl hrun
    exact ⟨s', hE, h⟩

/-- A request of a method nobody answers, to a connection just opened on the bench, has a
finished run, and the run puts one message on the queue. -/
theorem request_answered_once_bench :
    benchHooks.Quiet 0 (fun _ s => (s.link 0).outboxOpen = true) benchAnswers ∧
      ∃ ms, (Link.dispatch benchHooks 0 (Message.request (.num 1) "m" .null)).toProgram.Puts 0
          (fun _ s => (s.link 0).outboxOpen = true)
          ((Memory.new (Client.new default)).addLink (Connection.fresh 0 1)).2 ms ∧
        ms.length = 1 := by
  have hq := benchHooks_quiet 0 fun _ s => (s.link 0).outboxOpen = true
  have hopen : ((((Memory.new (Client.new default)).addLink (Connection.fresh 0 1)).2).link 0).outboxOpen
      = true := rfl
  have hrun : ∃ ms, (Link.dispatch benchHooks 0 (Message.request (.num 1) "m" .null)).toProgram.Puts 0
      (fun _ s => (s.link 0).outboxOpen = true)
      ((Memory.new (Client.new default)).addLink (Connection.fresh 0 1)).2 ms :=
    ⟨_, .spend _ hopen (.look 0 (.spend _ hopen (.look 0 (.look 0 (.update (.done _))))))⟩
  obtain ⟨ms, hms⟩ := hrun
  obtain ⟨s', -, h⟩ := ((request_answered_once hq fun _ _ h => h).2.1 _ (.num 1) "m" rfl rfl).2 _ ms hms
  refine ⟨hq, ms, hms, ?_⟩
  rcases h with ⟨-, rfl⟩ | ⟨r, out, -, -, rfl⟩ <;> rfl

/-- A request line whose id is a negative integer is not read as a request at all: the reader
reports it as a malformed line, which gets no answer. -/
theorem negativeId_line_malformed :
    ∃ reason, lineFrame (utf8Encode "\x7b\"jsonrpc\":\"2.0\",\"id\":-1,\"method\":\"m\"\x7d") =
      some (.malformed "\x7b\"jsonrpc\":\"2.0\",\"id\":-1,\"method\":\"m\"\x7d" reason) := by
  have h : (match lineFrame (utf8Encode "\x7b\"jsonrpc\":\"2.0\",\"id\":-1,\"method\":\"m\"\x7d") with
      | some (.malformed l _) => l == "\x7b\"jsonrpc\":\"2.0\",\"id\":-1,\"method\":\"m\"\x7d"
      | some (.message _) => false
      | none => false) = true := by
    decide +kernel
  split at h
  · rename_i l reason hl
    exact ⟨reason, by rw [hl, beq_iff_eq.1 h]⟩
  · cases h
  · cases h

end AgentLink
