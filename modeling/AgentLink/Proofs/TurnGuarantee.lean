import AgentLink.Proofs.Phases
import AgentLink.Proofs.HookTasks
import AgentLink.Proofs.TurnEvents

/-!
# The turn's guarantee

A turn is run under one lock on the client's turn record: a prompt checks that no turn is in
progress and starts one, waits for the agent's answer, and ends the turn, taking the waiters
it releases; a caller waiting for the turn to end registers a cell among the waiters while a
turn is in progress. Each task carries a ghost phase: `owner` from the segment that starts a
turn to the one that ends it, `idle` otherwise.

`TurnStep` is what every segment of every task guarantees: only the owner ends the turn, and
it stays the owner until it does; a task that is not the owner starts a turn only when none is
in progress, and then becomes the owner; waiters exist only while a turn is in progress, and
leave only when a turn ends, all at once, their cells filled. `KeepsTurn` says this of code
whatever follows it, for code that leaves the turn's flag and waiters alone and its task in its
phase; it is proved here of every operation of a connection and of the listeners and responders
the host runs.
-/

namespace AgentLink

open Concurrency Async Memory

/-- Where a task stands with respect to the turn. -/
inductive TurnPhase where
  /-- Not running a turn. -/
  | idle
  /-- Running the turn in progress: past starting it and not yet past ending it. -/
  | owner
  deriving DecidableEq

/-- What a segment from phase `g₀` and state `s₀` to phase `g` and state `s` guarantees. -/
structure TurnStep (g₀ : TurnPhase) (s₀ s : Memory) (g : TurnPhase) : Prop where
  /-- The owner stays the owner, the turn still in progress, until it ends the turn. -/
  owner_keeps : g₀ = .owner →
    (g = .owner ∧ s.client.turn.inProgress = s₀.client.turn.inProgress) ∨
      (g ≠ .owner ∧ s.client.turn.inProgress = false)
  /-- Another task leaves a turn in progress running, and does not become its owner. -/
  others_keep : g₀ ≠ .owner → s₀.client.turn.inProgress = true →
    s.client.turn.inProgress = true ∧ g ≠ .owner
  /-- Another task that finds no turn in progress becomes the owner exactly when it starts one. -/
  starts : g₀ ≠ .owner → s₀.client.turn.inProgress = false →
    (g = .owner ↔ s.client.turn.inProgress = true)
  /-- Waiters exist only while a turn is in progress. -/
  waiters : (s₀.client.turn.waiters ≠ [] → s₀.client.turn.inProgress = true) →
    s.client.turn.waiters ≠ [] → s.client.turn.inProgress = true
  /-- A waiter leaves only when the owner ends the turn, taking every waiter along, with its
  cell filled (a number that names no cell has none to fill). -/
  released : ∀ c ∈ s₀.client.turn.waiters, c ∉ s.client.turn.waiters →
    (g₀ = .owner ∨ s₀.client.turn.inProgress = false) ∧ s.client.turn.inProgress = false ∧
      s.client.turn.waiters = [] ∧ (c < s.cells.size → (s.cell c).isSettled = true)

/-- The turn's guarantee, as a guarantee of segments. -/
def TurnGuarantee (g₀ : TurnPhase) (s₀ s : Memory) (_ : Program Memory) (g : TurnPhase) : Prop :=
  TurnStep g₀ s₀ s g

/-- A stretch of a segment that keeps the turn's guarantee and has released no waiter. -/
def Calm (g₀ g : TurnPhase) (s₀ s : Memory) : Prop :=
  TurnStep g₀ s₀ s g ∧ ∀ c ∈ s₀.client.turn.waiters, c ∈ s.client.turn.waiters

theorem Calm.refl (g : TurnPhase) (s : Memory) : Calm g g s s := by
  refine ⟨⟨fun h => .inl ⟨h, rfl⟩, fun hg hip => ⟨hip, hg⟩, fun hg hip => ?_, fun h => h,
    fun c hc hc' => absurd hc hc'⟩, fun _ hc => hc⟩
  rw [hip]
  simpa using hg

/-- A change that leaves the turn's flag and waiters alone keeps a stretch calm. -/
theorem Calm.of_turn {g₀ g : TurnPhase} {s₀ s s' : Memory} (h : Calm g₀ g s₀ s)
    (hip : s'.client.turn.inProgress = s.client.turn.inProgress)
    (hw : s'.client.turn.waiters = s.client.turn.waiters) : Calm g₀ g s₀ s' := by
  obtain ⟨hs, hsub⟩ := h
  refine ⟨⟨?_, ?_, ?_, ?_, ?_⟩, ?_⟩ <;> simp only [hip, hw]
  · exact hs.owner_keeps
  · exact hs.others_keep
  · exact hs.starts
  · exact hs.waiters
  · exact fun c hc hc' => absurd (hsub c hc) hc'
  · exact hsub

/-- Code that keeps the turn's guarantee whatever follows it, in whatever phase `g` it runs,
without moving its task to another phase. -/
def KeepsTurn {α : Type} (a : Act α) : Prop :=
  ∀ g, TripleP TurnGuarantee (fun _ _ => True) .idle (fun g₀ g' s₀ s => g' = g ∧ Calm g₀ g s₀ s) a
    fun _ g₀ g' s₀ s => g' = g ∧ Calm g₀ g s₀ s

namespace KeepsTurn

variable {α β : Type}

theorem pure (v : α) : KeepsTurn (Pure.pure v : Act α) := fun _ => TripleP.pure v

theorem bind {a : Act α} {f : α → Act β} (ha : KeepsTurn a) (hf : ∀ v, KeepsTurn (f v)) :
    KeepsTurn (a >>= f) :=
  fun g => TripleP.bind (ha g) fun v => hf v g

theorem ite {c : Prop} [Decidable c] {a b : Act α} (ha : KeepsTurn a) (hb : KeepsTurn b) :
    KeepsTurn (if c then a else b) :=
  fun g => TripleP.ite (ha g) (hb g)

/-- A change that leaves the turn's flag and waiters alone. -/
theorem modifyFlag {f : Memory → Memory}
    (h : ∀ s, (f s).client.turn.inProgress = s.client.turn.inProgress ∧
      (f s).client.turn.waiters = s.client.turn.waiters) :
    KeepsTurn (Async.modify f) := fun g =>
  TripleP.conseq (TripleP.modify f)
    (fun _ _ _ s hs => ⟨trivial, g, rfl, hs.2.of_turn (h s).1 (h s).2⟩) fun _ _ _ _ _ h => h

/-- A change that leaves the turn record alone. -/
theorem modify {f : Memory → Memory} (h : ∀ s, (f s).client.turn = s.client.turn) :
    KeepsTurn (Async.modify f) :=
  modifyFlag fun s => by simp only [h, and_self]

theorem modifyGet {f : Memory → α × Memory} (h : ∀ s, (f s).2.client.turn = s.client.turn) :
    KeepsTurn (Async.modifyGet f) := fun g =>
  TripleP.conseq (TripleP.modifyGet f)
    (fun _ _ _ s hs => ⟨trivial, g, rfl, hs.2.of_turn (by rw [h s]) (by rw [h s])⟩)
    fun _ _ _ _ _ h => h

theorem read (f : Memory → α) : KeepsTurn (Async.read f) := fun _ => TripleP.read f

theorem now : KeepsTurn (Async.now : Act Nat) := fun _ =>
  TripleP.conseq TripleP.now (fun _ _ _ _ h _ => h) fun _ _ _ _ _ h => h

theorem spend : KeepsTurn (Async.spend : Act Unit) := fun g =>
  TripleP.conseq TripleP.spend
    (fun _ _ _ _ h => by
      obtain ⟨rfl, hc⟩ := h
      exact ⟨fun _ => hc.1, fun s' => ⟨rfl, Calm.refl _ s'⟩⟩)
    fun _ _ _ _ _ h => h

theorem waitUntil (ready : Memory → Bool) (deadline : Option Nat) :
    KeepsTurn (Async.waitUntil ready deadline) := fun g =>
  TripleP.conseq (TripleP.waitUntil ready deadline)
    (fun _ _ _ _ h => by
      obtain ⟨rfl, hc⟩ := h
      exact ⟨fun _ => hc.1, fun s' => ⟨rfl, Calm.refl _ s'⟩⟩)
    fun _ _ _ _ _ h => h

theorem sleep (ms : Nat) : KeepsTurn (Async.sleep ms : Act Unit) := fun g =>
  TripleP.conseq (TripleP.sleep ms)
    (fun _ _ _ _ h => by
      obtain ⟨rfl, hc⟩ := h
      exact ⟨fun _ => hc.1, fun s' => ⟨rfl, Calm.refl _ s'⟩⟩)
    fun _ _ _ _ _ h => h

/-- A task started from code that keeps the turn's guarantee. -/
theorem spawn {child : Act Unit} (hc : KeepsTurn child) : KeepsTurn (Async.spawn child) :=
  fun _ => TripleP.spawn (TripleP.conseq (hc .idle) (fun _ _ _ _ h => by
    obtain ⟨rfl, rfl, rfl⟩ := h
    exact ⟨rfl, Calm.refl _ _⟩) fun _ _ _ _ _ h => by
      obtain ⟨rfl, hc⟩ := h
      exact hc.1)

/-- The program of code that keeps the turn's guarantee is a task safe from any phase. -/
theorem safe {a : Act α} (ha : KeepsTurn a) (g : TurnPhase) :
    a.toProgram.PSafe TurnGuarantee (fun _ _ => True) .idle g :=
  TripleP.safe (TripleP.conseq (ha g) (fun _ _ _ _ h => by
    obtain ⟨rfl, rfl, rfl⟩ := h
    exact ⟨rfl, Calm.refl _ _⟩) fun _ _ _ _ _ h => by
      obtain ⟨rfl, hc⟩ := h
      exact hc.1)

/-- A change of connection `i`. -/
theorem modifyLink (i : Nat) (f : Connection → Connection) : KeepsTurn (Link.modify i f) :=
  modify fun _ => rfl

end KeepsTurn

namespace Memory

variable (s : Memory)

@[simp] theorem client_report (i : Nat) (r : ProcessReport) : (s.report i r).client = s.client := by
  unfold report
  split <;> rfl

@[simp] theorem client_markClosed (i : Nat) : (s.markClosed i).2.client = s.client := by
  unfold markClosed
  split <;> rfl

theorem client_foldl_modifyCell (g : Cell → Cell) :
    ∀ (es : List (RequestId × Nat)) (m : Memory),
      (es.foldl (fun m e => m.modifyCell e.2 g) m).client = m.client
  | [], _ => rfl
  | e :: es, m => by rw [List.foldl_cons, client_foldl_modifyCell g es]; rfl

@[simp] theorem client_failPending (i : Nat) : (s.failPending i).client = s.client := by
  unfold failPending
  exact client_foldl_modifyCell _ _ _

@[simp] theorem client_resolveSlot (i : Nat) (key : String) (v : Json.Value) :
    (s.resolveSlot i key v).2.client = s.client := by
  unfold resolveSlot
  split <;> rfl

@[simp] theorem client_cancelSlot (i : Nat) (key : String) :
    (s.cancelSlot i key).2.client = s.client := by
  unfold cancelSlot
  split <;> rfl

end Memory

/-- Listeners and responders that keep the turn's guarantee. -/
structure Hooks.KeepTurn (hooks : Hooks) : Prop where
  hear : ∀ i l method params, KeepsTurn (hooks.hear i l method params)
  answer : ∀ i r method params id, KeepsTurn (hooks.answer i r method params id)

namespace Link

variable (i : Nat)

theorem keepsTurn_report (r : ProcessReport) : KeepsTurn (Link.report i r) :=
  KeepsTurn.bind KeepsTurn.spend fun _ => KeepsTurn.modify fun s => by simp

theorem keepsTurn_waitForRoom : KeepsTurn (Link.waitForRoom i) := by
  unfold Link.waitForRoom
  exact KeepsTurn.bind (KeepsTurn.read _) fun _ =>
    KeepsTurn.ite (KeepsTurn.waitUntil _ _) (KeepsTurn.pure ())

theorem keepsTurn_enqueue (msg : Message) : KeepsTurn (Link.enqueue i msg) := by
  unfold Link.enqueue
  refine KeepsTurn.bind KeepsTurn.spend fun _ => KeepsTurn.bind (keepsTurn_waitForRoom i) fun _ =>
    KeepsTurn.modifyGet fun s => ?_
  split <;> rfl

theorem keepsTurn_readAtMost (p n : Nat) : KeepsTurn (Link.readAtMost p n) := by
  unfold Link.readAtMost
  refine KeepsTurn.bind (KeepsTurn.read _) fun fault => ?_
  cases fault with
  | some _ => exact KeepsTurn.pure _
  | none => exact KeepsTurn.bind (KeepsTurn.modifyGet fun _ => rfl) fun _ => KeepsTurn.pure _

theorem keepsTurn_shutdown : KeepsTurn (Link.shutdown i) := by
  unfold Link.shutdown
  refine KeepsTurn.bind (KeepsTurn.modifyGet fun s => by simp) fun closed => ?_
  refine KeepsTurn.ite (KeepsTurn.pure _) ?_
  exact KeepsTurn.bind KeepsTurn.spend fun _ =>
    KeepsTurn.bind (KeepsTurn.modify fun s => by simp) fun _ => KeepsTurn.pure _

theorem keepsTurn_close : KeepsTurn (Link.close i) :=
  KeepsTurn.bind (keepsTurn_shutdown i) fun _ => KeepsTurn.pure ()

theorem keepsTurn_awaitCell (c : Nat) : KeepsTurn (Act.awaitCell c) :=
  KeepsTurn.bind (KeepsTurn.waitUntil _ _) fun _ => KeepsTurn.read _

theorem keepsTurn_sendRequest (method : String) (params : Json.Value) (timeout : Option Duration) :
    KeepsTurn (Link.sendRequest i method params timeout) := by
  unfold Link.sendRequest
  refine KeepsTurn.bind (KeepsTurn.modifyGet fun _ => rfl) fun id =>
    KeepsTurn.bind (KeepsTurn.modifyGet fun _ => rfl) fun cell =>
      KeepsTurn.bind (KeepsTurn.read _) fun _ => KeepsTurn.ite (KeepsTurn.pure _) ?_
  refine KeepsTurn.bind (KeepsTurn.modifyLink i _) fun _ =>
    KeepsTurn.bind (keepsTurn_enqueue i _) fun queued =>
      KeepsTurn.ite (KeepsTurn.bind (KeepsTurn.modifyLink i _) fun _ => KeepsTurn.pure _) ?_
  cases timeout with
  | none => exact KeepsTurn.bind (keepsTurn_awaitCell cell) fun _ => KeepsTurn.pure _
  | some limit =>
    exact KeepsTurn.bind KeepsTurn.now fun _ => KeepsTurn.bind (KeepsTurn.waitUntil _ _) fun _ =>
      KeepsTurn.bind (KeepsTurn.read _) fun _ => KeepsTurn.ite (KeepsTurn.pure _)
        (KeepsTurn.bind (KeepsTurn.modifyLink i _) fun _ => KeepsTurn.pure _)

theorem keepsTurn_sendNotification (method : String) (params : Json.Value) :
    KeepsTurn (Link.sendNotification i method params) := by
  unfold Link.sendNotification
  dsimp only
  refine KeepsTurn.bind (KeepsTurn.read _) fun closed => KeepsTurn.ite ?_ ?_ <;>
    refine KeepsTurn.bind ?_ fun _ => KeepsTurn.ite (keepsTurn_report i _) (KeepsTurn.pure ())
  · exact KeepsTurn.pure _
  · exact keepsTurn_enqueue i _

theorem keepsTurn_openSlot (key : String) : KeepsTurn (Link.openSlot i key) := by
  unfold Link.openSlot
  dsimp only
  refine KeepsTurn.bind (KeepsTurn.modifyGet fun _ => rfl) fun cell =>
    KeepsTurn.bind (KeepsTurn.modifyGet fun _ => rfl) fun old => ?_
  cases old with
  | some o => exact KeepsTurn.bind (KeepsTurn.modify fun _ => rfl) fun _ => KeepsTurn.pure cell
  | none => exact KeepsTurn.pure cell

theorem keepsTurn_resolveSlot (key : String) (value : Json.Value) :
    KeepsTurn (Link.resolveSlot i key value) :=
  KeepsTurn.modifyGet fun s => by simp

theorem keepsTurn_cancelSlot (key : String) : KeepsTurn (Link.cancelSlot i key) :=
  KeepsTurn.modifyGet fun s => by simp

theorem keepsTurn_stopWriter : KeepsTurn (Link.stopWriter i) := by
  unfold Link.stopWriter
  exact KeepsTurn.bind (KeepsTurn.read _) fun c => KeepsTurn.bind (KeepsTurn.modifyLink i _)
    fun _ => KeepsTurn.modify fun _ => rfl

theorem keepsTurn_writer : ∀ fuel, KeepsTurn (Link.writer i fuel)
  | 0 => KeepsTurn.pure ()
  | fuel + 1 => by
    unfold Link.writer
    refine KeepsTurn.bind (KeepsTurn.waitUntil _ _) fun _ => KeepsTurn.bind (KeepsTurn.read _)
      fun _ => KeepsTurn.ite (keepsTurn_stopWriter i) ?_
    refine KeepsTurn.bind KeepsTurn.spend fun _ => KeepsTurn.bind (KeepsTurn.read _) fun c => ?_
    split
    · exact keepsTurn_stopWriter i
    · exact keepsTurn_writer fuel
    · refine KeepsTurn.bind (KeepsTurn.modifyLink i _) fun _ =>
        KeepsTurn.bind KeepsTurn.spend fun _ =>
          KeepsTurn.bind (KeepsTurn.modifyGet fun s => ?_) fun _ =>
            KeepsTurn.ite (keepsTurn_writer fuel) ?_
      · split <;> rfl
      · exact KeepsTurn.bind (keepsTurn_report i _) fun _ =>
          KeepsTurn.bind (keepsTurn_shutdown i) fun _ => keepsTurn_stopWriter i

theorem keepsTurn_dispatch {hooks : Hooks} (hh : hooks.KeepTurn) (msg : Message) :
    KeepsTurn (Link.dispatch hooks i msg) := by
  unfold Link.dispatch
  split
  · split
    · refine KeepsTurn.bind KeepsTurn.spend fun _ =>
        KeepsTurn.bind (KeepsTurn.modifyGet fun _ => rfl) fun cell => ?_
      split
      · exact KeepsTurn.modify fun _ => rfl
      · exact KeepsTurn.pure ()
    · exact KeepsTurn.pure ()
  · split
    · refine KeepsTurn.bind KeepsTurn.spend fun _ => KeepsTurn.bind (KeepsTurn.read _) fun c => ?_
      split
      · exact KeepsTurn.bind (keepsTurn_enqueue i _) fun _ => KeepsTurn.pure ()
      · exact KeepsTurn.spawn (KeepsTurn.bind (hh.answer _ _ _ _ _) fun _ =>
          KeepsTurn.bind (keepsTurn_enqueue i _) fun _ => KeepsTurn.pure ())
    · exact KeepsTurn.pure ()
  · split
    · refine KeepsTurn.bind KeepsTurn.spend fun _ => KeepsTurn.bind (KeepsTurn.read _) fun c => ?_
      split
      · exact hh.hear _ _ _ _
      · exact KeepsTurn.pure ()
    · exact KeepsTurn.pure ()
  · exact keepsTurn_report i _

theorem keepsTurn_dispatchFrame {hooks : Hooks} (hh : hooks.KeepTurn) (f : Frame) :
    KeepsTurn (Link.dispatchFrame hooks i f) := by
  cases f with
  | malformed line reason => exact keepsTurn_report i _
  | message msg => exact keepsTurn_dispatch i hh msg

theorem keepsTurn_stopReader : KeepsTurn (Link.stopReader i) := by
  unfold Link.stopReader
  exact KeepsTurn.bind (keepsTurn_shutdown i) fun _ => KeepsTurn.bind (KeepsTurn.read _) fun _ =>
    KeepsTurn.modify fun _ => rfl

theorem keepsTurn_outputEnded : KeepsTurn (Link.outputEnded i) := by
  unfold Link.outputEnded
  dsimp only
  exact KeepsTurn.bind (KeepsTurn.read _) fun _ =>
    KeepsTurn.ite (KeepsTurn.bind (keepsTurn_report i _) fun _ => keepsTurn_stopReader i)
      (keepsTurn_stopReader i)

theorem keepsTurn_reader {hooks : Hooks} (hh : hooks.KeepTurn) :
    ∀ fuel fr, KeepsTurn (Link.reader hooks i fuel fr)
  | 0, _ => KeepsTurn.pure ()
  | fuel + 1, fr => by
    unfold Link.reader
    refine KeepsTurn.bind (KeepsTurn.read _) fun c => KeepsTurn.ite (keepsTurn_stopReader i) ?_
    refine KeepsTurn.ite ?_ ?_
    · split
      · exact KeepsTurn.bind (keepsTurn_dispatchFrame i hh _) fun _ => keepsTurn_reader hh fuel _
      · exact KeepsTurn.ite (keepsTurn_outputEnded i) (keepsTurn_reader hh fuel _)
    · refine KeepsTurn.bind (KeepsTurn.read _) fun _ => KeepsTurn.ite ?_ ?_
      · exact KeepsTurn.bind (KeepsTurn.waitUntil _ _) fun _ => keepsTurn_reader hh fuel _
      · refine KeepsTurn.bind KeepsTurn.spend fun _ => KeepsTurn.bind (KeepsTurn.read _) fun _ =>
          KeepsTurn.ite (keepsTurn_stopReader i) ?_
        refine KeepsTurn.bind (keepsTurn_readAtMost _ _) fun r => ?_
        cases r with
        | error _ => exact KeepsTurn.bind (keepsTurn_report i _) fun _ => keepsTurn_stopReader i
        | ok _ => exact KeepsTurn.ite (keepsTurn_reader hh fuel _) (keepsTurn_reader hh fuel _)

theorem keepsTurn_start {hooks : Hooks} (hh : hooks.KeepTurn) (fromAgent toAgent : Nat) :
    KeepsTurn (Link.start hooks fromAgent toAgent) := by
  unfold Link.start
  exact KeepsTurn.bind (KeepsTurn.modifyGet fun _ => rfl) fun j =>
    KeepsTurn.bind (KeepsTurn.spawn (keepsTurn_writer j _)) fun _ =>
      KeepsTurn.bind (KeepsTurn.spawn (keepsTurn_reader j hh _ _)) fun _ => KeepsTurn.pure j

end Link

theorem Client.keepsTurn_hear (method : String) (params : Json.Value) :
    KeepsTurn (Client.hear method params) := by
  unfold Client.hear
  split
  · exact KeepsTurn.bind KeepsTurn.spend fun _ => KeepsTurn.modify fun s => by simp
  · exact KeepsTurn.pure ()

theorem Client.keepsTurn_respondPermission (id : String) (response : PermissionResponse) :
    KeepsTurn (Client.respondPermission id response) := by
  unfold Client.respondPermission
  dsimp only
  refine KeepsTurn.bind (KeepsTurn.read _) fun c => ?_
  split
  · exact KeepsTurn.bind (Link.keepsTurn_resolveSlot _ _ _) fun _ => KeepsTurn.pure _
  · exact KeepsTurn.pure _

theorem Client.keepsTurn_answerPermission (params : Json.Value) :
    KeepsTurn (Client.answerPermission params) := by
  unfold Client.answerPermission
  dsimp only
  split
  · refine KeepsTurn.bind (KeepsTurn.modifyGet fun _ => rfl) fun req =>
      KeepsTurn.bind (KeepsTurn.read _) fun c => ?_
    split
    · exact KeepsTurn.pure _
    · exact KeepsTurn.pure _
    · refine KeepsTurn.bind (Link.keepsTurn_openSlot _ _) fun cell => ?_
      split
      · refine KeepsTurn.bind (KeepsTurn.modify fun _ => rfl) fun _ =>
          KeepsTurn.bind (KeepsTurn.waitUntil _ _) fun _ => KeepsTurn.bind (KeepsTurn.read _)
            fun c => ?_
        split <;> exact KeepsTurn.pure _
      · refine KeepsTurn.bind (KeepsTurn.spawn (KeepsTurn.bind
          (Client.keepsTurn_respondPermission _ _) fun _ => KeepsTurn.pure ())) fun _ =>
            KeepsTurn.bind (KeepsTurn.waitUntil _ _) fun _ => KeepsTurn.bind (KeepsTurn.read _)
              fun c => ?_
        split <;> exact KeepsTurn.pure _
  · exact KeepsTurn.pure _

theorem keepsTurn_pause (ms : Nat) : KeepsTurn (pause ms) := by
  unfold pause
  exact KeepsTurn.ite (KeepsTurn.bind (KeepsTurn.sleep ms) fun _ => KeepsTurn.spend)
    (KeepsTurn.pure ())

theorem keepsTurn_logInbound (v : Json.Value) : KeepsTurn (logInbound v) :=
  KeepsTurn.modify fun _ => rfl

/-- The bench's listeners and responders keep the turn's guarantee. -/
theorem benchHooks_keepTurn : benchHooks.KeepTurn where
  hear i l method params := by
    cases l with
    | log delay =>
      exact KeepsTurn.bind (keepsTurn_pause delay) fun _ => keepsTurn_logInbound _
    | client => exact Client.keepsTurn_hear method params
  answer i r method params id := by
    cases r with
    | scripted reply delay =>
      refine KeepsTurn.bind (keepsTurn_logInbound _) fun _ =>
        KeepsTurn.bind (keepsTurn_pause delay) fun _ => ?_
      cases reply with
      | result v => exact KeepsTurn.pure _
      | failure f => exact KeepsTurn.pure _
      | slot =>
        refine KeepsTurn.bind (Link.keepsTurn_openSlot i _) fun c =>
          KeepsTurn.bind (Link.keepsTurn_awaitCell c) fun cl => ?_
        split <;> exact KeepsTurn.pure _
    | permission => exact Client.keepsTurn_answerPermission params

/-- The client's listener and permission responder keep the turn's guarantee. -/
theorem Cli.clientHooks_keepTurn : Cli.clientHooks.KeepTurn where
  hear _ _ method params := Client.keepsTurn_hear method params
  answer _ _ _ params _ := Client.keepsTurn_answerPermission params

end AgentLink
