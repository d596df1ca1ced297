import Mathlib.Logic.Relation
import AgentLink.Proofs.Interleaving
import AgentLink.Connection.Tasks

/-!
# What the tasks change

`Async.Moves R a` says of code, whatever follows it, that every single change it makes to the
state is a chain of steps of `R`. It asks nothing of segments, so a wait or a spend is free.
Proved of every task of a pool and of the world, it makes every interleaving one chain of `R`
steps from the first state to the last (`Pool.Reaches.moves`, the run lemma); this is how a
relation about one part of the state, such as what a sink sees of the turn, is carried from the
code of each task to every interleaving of them.

The operations of a connection never touch the client or the sinks (`Memory.ClientKept`). So
every relation that admits such changes is one they move by; the reader and a new connection
run the listeners and responders they are given, and move as those do (`Hooks.MovesBy`).
-/

namespace AgentLink.Concurrency

variable {σ α β : Type}

namespace Async

/-- Code every single change of which is a chain of steps of `R`, whatever follows it. -/
def Moves (R : σ → σ → Prop) (a : Async σ α) : Prop :=
  Triple (fun _ _ _ => True) (Relation.ReflTransGen R) (fun _ _ => True) a fun _ _ _ => True

namespace Moves

variable {R : σ → σ → Prop}

theorem pure (v : α) : Moves R (Pure.pure v : Async σ α) := Triple.pure v

theorem bind {a : Async σ α} {f : α → Async σ β} (ha : Moves R a) (hf : ∀ v, Moves R (f v)) :
    Moves R (a >>= f) :=
  Triple.bind ha hf

theorem ite {c : Prop} [Decidable c] {a b : Async σ α} (ha : Moves R a) (hb : Moves R b) :
    Moves R (if c then a else b) := by
  split
  · exact ha
  · exact hb

theorem modify {f : σ → σ} (h : ∀ s, Relation.ReflTransGen R s (f s)) :
    Moves R (Async.modify f) :=
  Triple.conseq (Triple.modify f) (fun _ s _ => ⟨h s, trivial⟩) fun _ _ _ h => h

theorem modifyGet {f : σ → α × σ} (h : ∀ s, Relation.ReflTransGen R s (f s).2) :
    Moves R (Async.modifyGet f) :=
  Triple.conseq (Triple.modifyGet f) (fun _ s _ => ⟨h s, trivial⟩) fun _ _ _ h => h

theorem read (f : σ → α) : Moves R (Async.read f) := Triple.read f

theorem now : Moves R (Async.now : Async σ Nat) :=
  Triple.conseq Triple.now (fun _ _ _ _ => trivial) fun _ _ _ h => h

theorem spend : Moves R (Async.spend : Async σ Unit) :=
  Triple.conseq Triple.spend (fun _ _ _ _ => trivial) fun _ _ _ _ => trivial

theorem waitUntil (ready : σ → Bool) (deadline : Option Nat) :
    Moves R (Async.waitUntil ready deadline) :=
  Triple.conseq (Triple.waitUntil ready deadline) (fun _ _ _ _ => trivial) fun _ _ _ _ => trivial

theorem sleep (ms : Nat) : Moves R (Async.sleep ms : Async σ Unit) :=
  Triple.conseq (Triple.sleep ms) (fun _ _ _ _ => trivial) fun _ _ _ _ => trivial

theorem spawn {child : Async σ Unit} (hc : Moves R child) : Moves R (Async.spawn child) :=
  Triple.spawn (Triple.conseq hc (fun _ _ _ => trivial) fun _ _ _ _ => trivial)

theorem forIn {xs : List β} {body : β → Unit → Async σ (ForInStep Unit)}
    (hb : ∀ x, Moves R (body x ())) : Moves R (ForIn.forIn xs () body) :=
  Triple.conseq (Triple.forIn (P := fun _ _ => True) hb) (fun _ _ h => h) fun _ _ _ h => h

/-- The program of such code is a task whose every change is a chain of `R` steps. -/
theorem safe {a : Async σ α} (ha : Moves R a) :
    a.toProgram.Safe (fun _ _ _ => True) (Relation.ReflTransGen R) :=
  Triple.safe (Triple.conseq ha (fun _ _ _ => trivial) fun _ _ _ _ => trivial)

end Moves

end Async

namespace Pool

variable {R : σ → σ → Prop} {env : σ → σ → Prop} {allowed : Program σ → Prop}

/-- Every interleaving of tasks whose changes are chains of `R` steps, with a world whose
changes are too and only such tasks started, is a chain of `R` steps. -/
theorem Reaches.moves (henv : ∀ s s', env s s' → Relation.ReflTransGen R s s')
    (hstart : ∀ p, allowed p → p.Safe (fun _ _ _ => True) (Relation.ReflTransGen R))
    {P Q : Pool σ} (hr : Reaches env allowed P Q)
    (hP : P.AllSafe (fun _ _ _ => True) (Relation.ReflTransGen R)) :
    Relation.ReflTransGen R P.state Q.state := by
  induction hr with
  | refl => exact .refl
  | @step P₀ P₁ P₂ hs _ ih =>
    have hP₁ := Step.allSafe (fun _ _ => trivial) (fun _ => .refl) (fun _ _ _ => .trans) hstart
      hs hP
    refine .trans ?_ (ih hP₁)
    -- each step is one segment, a world change, or none
    cases hs with
    | run hk hp =>
      exact (((hP _ (List.mem_of_getElem? hk)).resume hp).runSegment (fun _ _ => trivial)
        (fun _ => .refl) (fun _ _ _ => .trans) _).2.1
    | tick => exact .refl
    | world hw => exact henv _ _ hw
    | start => exact .refl

end Pool

end AgentLink.Concurrency

namespace AgentLink

open Concurrency Async

namespace Memory

/-- A change that leaves the client and the sinks as they were. -/
def ClientKept (s s' : Memory) : Prop := s'.client = s.client ∧ s'.sinks = s.sinks

theorem ClientKept.refl (s : Memory) : ClientKept s s := ⟨rfl, rfl⟩

theorem ClientKept.trans {s₁ s₂ s₃ : Memory} (h₁ : ClientKept s₁ s₂) (h₂ : ClientKept s₂ s₃) :
    ClientKept s₁ s₃ :=
  ⟨h₂.1.trans h₁.1, h₂.2.trans h₁.2⟩

/-- A fold of changes that keep the client and the sinks keeps them. -/
theorem ClientKept.foldl {β : Type} {f : Memory → β → Memory} (h : ∀ m b, ClientKept m (f m b)) :
    ∀ (xs : List β) (m : Memory), ClientKept m (xs.foldl f m)
  | [], m => ClientKept.refl m
  | x :: xs, m => (h m x).trans (ClientKept.foldl h xs (f m x))

variable (s : Memory)

theorem clientKept_report (i : Nat) (r : ProcessReport) : ClientKept s (s.report i r) := by
  unfold report
  split
  · exact ⟨rfl, rfl⟩
  · exact ClientKept.refl s

theorem clientKept_markClosed (i : Nat) : ClientKept s (s.markClosed i).2 := by
  unfold markClosed
  split
  · exact ClientKept.refl s
  · exact ⟨rfl, rfl⟩

theorem clientKept_modifyCell (c : Nat) (g : Cell → Cell) : ClientKept s (s.modifyCell c g) :=
  ⟨rfl, rfl⟩

theorem clientKept_failPending (i : Nat) : ClientKept s (s.failPending i) := by
  unfold failPending
  exact (show ClientKept s (s.modifyLink i fun c => { c with pending := [] }) from ⟨rfl, rfl⟩).trans
    (ClientKept.foldl (fun m (e : RequestId × Nat) => clientKept_modifyCell m e.2 _) _ _)

theorem clientKept_resolveSlot (i : Nat) (key : String) (v : Json.Value) :
    ClientKept s (s.resolveSlot i key v).2 := by
  unfold resolveSlot
  split
  · exact ⟨rfl, rfl⟩
  · exact ClientKept.refl s

theorem clientKept_cancelSlot (i : Nat) (key : String) : ClientKept s (s.cancelSlot i key).2 := by
  unfold cancelSlot
  split
  · exact ⟨rfl, rfl⟩
  · exact ClientKept.refl s

end Memory

open Memory

/-- Listeners and responders every change of which is a chain of steps of `R`. -/
structure Hooks.MovesBy (hooks : Hooks) (R : Memory → Memory → Prop) : Prop where
  hear : ∀ i l method params, Moves R (hooks.hear i l method params)
  answer : ∀ i r method params id, Moves R (hooks.answer i r method params id)

section Footprint

variable {R : Memory → Memory → Prop} (hR : ∀ s s', ClientKept s s' → R s s')
include hR

/-- A change that keeps the client and the sinks. -/
theorem Moves.kept {f : Memory → Memory} (h : ∀ s, ClientKept s (f s)) :
    Moves R (Async.modify f) :=
  Moves.modify fun s => .single (hR _ _ (h s))

theorem Moves.keptGet {α : Type} {f : Memory → α × Memory} (h : ∀ s, ClientKept s (f s).2) :
    Moves R (Async.modifyGet f) :=
  Moves.modifyGet fun s => .single (hR _ _ (h s))

namespace Link

variable (i : Nat)

theorem moves_report (r : ProcessReport) : Moves R (Link.report i r) :=
  Moves.bind Moves.spend fun _ => Moves.kept hR fun s => clientKept_report s i r

omit hR in
theorem moves_waitForRoom : Moves R (Link.waitForRoom i) := by
  unfold Link.waitForRoom
  exact Moves.bind (Moves.read _) fun _ => Moves.ite (Moves.waitUntil _ _) (Moves.pure ())

theorem moves_enqueue (msg : Message) : Moves R (Link.enqueue i msg) := by
  unfold Link.enqueue
  refine Moves.bind Moves.spend fun _ => Moves.bind (moves_waitForRoom i) fun _ =>
    Moves.keptGet hR fun s => ?_
  split
  · exact ⟨rfl, rfl⟩
  · exact ClientKept.refl s

theorem moves_shutdown : Moves R (Link.shutdown i) := by
  unfold Link.shutdown
  refine Moves.bind (Moves.keptGet hR fun s => clientKept_markClosed s i) fun _ =>
    Moves.ite (Moves.pure _) ?_
  exact Moves.bind Moves.spend fun _ =>
    Moves.bind (Moves.kept hR fun s => clientKept_failPending s i) fun _ => Moves.pure _

theorem moves_close : Moves R (Link.close i) :=
  Moves.bind (moves_shutdown hR i) fun _ => Moves.pure ()

theorem moves_readAtMost (p n : Nat) : Moves R (Link.readAtMost p n) := by
  unfold Link.readAtMost
  refine Moves.bind (Moves.read _) fun fault => ?_
  cases fault with
  | some _ => exact Moves.pure _
  | none =>
    exact Moves.bind (Moves.keptGet hR fun _ => ⟨rfl, rfl⟩) fun _ => Moves.pure _

omit hR in
theorem moves_awaitCell (c : Nat) : Moves R (Act.awaitCell c) :=
  Moves.bind (Moves.waitUntil _ _) fun _ => Moves.read _

theorem moves_sendRequest (method : String) (params : Json.Value) (timeout : Option Duration) :
    Moves R (Link.sendRequest i method params timeout) := by
  unfold Link.sendRequest
  refine Moves.bind (Moves.keptGet hR fun _ => ⟨rfl, rfl⟩) fun id =>
    Moves.bind (Moves.keptGet hR fun _ => ⟨rfl, rfl⟩) fun cell =>
      Moves.bind (Moves.read _) fun _ => Moves.ite (Moves.pure _) ?_
  refine Moves.bind (Moves.kept hR fun _ => ⟨rfl, rfl⟩) fun _ =>
    Moves.bind (moves_enqueue hR i _) fun queued => Moves.ite
      (Moves.bind (Moves.kept hR fun _ => ⟨rfl, rfl⟩) fun _ => Moves.pure _) ?_
  cases timeout with
  | none => exact Moves.bind (moves_awaitCell cell) fun _ => Moves.pure _
  | some limit =>
    exact Moves.bind Moves.now fun _ => Moves.bind (Moves.waitUntil _ _) fun _ =>
      Moves.bind (Moves.read _) fun _ => Moves.ite (Moves.pure _)
        (Moves.bind (Moves.kept hR fun _ => ⟨rfl, rfl⟩) fun _ => Moves.pure _)

theorem moves_sendNotification (method : String) (params : Json.Value) :
    Moves R (Link.sendNotification i method params) := by
  unfold Link.sendNotification
  dsimp only
  refine Moves.bind (Moves.read _) fun closed => Moves.ite ?_ ?_ <;>
    refine Moves.bind ?_ fun _ => Moves.ite (moves_report hR i _) (Moves.pure ())
  · exact Moves.pure _
  · exact moves_enqueue hR i _

theorem moves_openSlot (key : String) : Moves R (Link.openSlot i key) := by
  unfold Link.openSlot
  dsimp only
  refine Moves.bind (Moves.keptGet hR fun _ => ⟨rfl, rfl⟩) fun cell =>
    Moves.bind (Moves.keptGet hR fun _ => ⟨rfl, rfl⟩) fun old => ?_
  cases old with
  | some o => exact Moves.bind (Moves.kept hR fun _ => ⟨rfl, rfl⟩) fun _ => Moves.pure cell
  | none => exact Moves.pure cell

theorem moves_resolveSlot (key : String) (value : Json.Value) :
    Moves R (Link.resolveSlot i key value) :=
  Moves.keptGet hR fun s => clientKept_resolveSlot s i key value

theorem moves_cancelSlot (key : String) : Moves R (Link.cancelSlot i key) :=
  Moves.keptGet hR fun s => clientKept_cancelSlot s i key

theorem moves_stopWriter : Moves R (Link.stopWriter i) := by
  unfold Link.stopWriter
  exact Moves.bind (Moves.read _) fun c => Moves.bind (Moves.kept hR fun _ => ⟨rfl, rfl⟩)
    fun _ => Moves.kept hR fun _ => ⟨rfl, rfl⟩

theorem moves_writer : ∀ fuel, Moves R (Link.writer i fuel)
  | 0 => Moves.pure ()
  | fuel + 1 => by
    unfold Link.writer
    refine Moves.bind (Moves.waitUntil _ _) fun _ => Moves.bind (Moves.read _) fun _ =>
      Moves.ite (moves_stopWriter hR i) ?_
    refine Moves.bind Moves.spend fun _ => Moves.bind (Moves.read _) fun c => ?_
    split
    · exact moves_stopWriter hR i
    · exact moves_writer fuel
    · refine Moves.bind (Moves.kept hR fun _ => ⟨rfl, rfl⟩) fun _ =>
        Moves.bind Moves.spend fun _ => Moves.bind (Moves.keptGet hR fun s => ?_) fun _ =>
          Moves.ite (moves_writer fuel) ?_
      · split
        · exact ⟨rfl, rfl⟩
        · exact ClientKept.refl s
      · exact Moves.bind (moves_report hR i _) fun _ =>
          Moves.bind (moves_shutdown hR i) fun _ => moves_stopWriter hR i

variable {hooks : Hooks} (hh : hooks.MovesBy R)
include hh

/-- Handling a message: a response fills its call's cell, a request goes to its responder on a
task of its own or is refused, a notification goes to the listener. -/
theorem moves_dispatch (msg : Message) : Moves R (Link.dispatch hooks i msg) := by
  unfold Link.dispatch
  split
  · split
    · refine Moves.bind Moves.spend fun _ =>
        Moves.bind (Moves.keptGet hR fun _ => ⟨rfl, rfl⟩) fun cell => ?_
      split
      · exact Moves.kept hR fun _ => ⟨rfl, rfl⟩
      · exact Moves.pure ()
    · exact Moves.pure ()
  · split
    · refine Moves.bind Moves.spend fun _ => Moves.bind (Moves.read _) fun c => ?_
      split
      · exact Moves.bind (moves_enqueue hR i _) fun _ => Moves.pure ()
      · exact Moves.spawn (Moves.bind (hh.answer _ _ _ _ _) fun _ =>
          Moves.bind (moves_enqueue hR i _) fun _ => Moves.pure ())
    · exact Moves.pure ()
  · split
    · refine Moves.bind Moves.spend fun _ => Moves.bind (Moves.read _) fun c => ?_
      split
      · exact hh.hear _ _ _ _
      · exact Moves.pure ()
    · exact Moves.pure ()
  · exact moves_report hR i _

theorem moves_dispatchFrame (f : Frame) : Moves R (Link.dispatchFrame hooks i f) := by
  cases f with
  | malformed line reason => exact moves_report hR i _
  | message msg => exact moves_dispatch hR i hh msg

omit hh in
theorem moves_stopReader : Moves R (Link.stopReader i) := by
  unfold Link.stopReader
  exact Moves.bind (moves_shutdown hR i) fun _ => Moves.bind (Moves.read _) fun _ =>
    Moves.kept hR fun _ => ⟨rfl, rfl⟩

omit hh in
theorem moves_outputEnded : Moves R (Link.outputEnded i) := by
  unfold Link.outputEnded
  dsimp only
  exact Moves.bind (Moves.read _) fun _ =>
    Moves.ite (Moves.bind (moves_report hR i _) fun _ => moves_stopReader hR i)
      (moves_stopReader hR i)

/-- The reader: each round cuts a frame and handles it, or reads the pipe. -/
theorem moves_reader : ∀ fuel fr, Moves R (Link.reader hooks i fuel fr)
  | 0, _ => Moves.pure ()
  | fuel + 1, fr => by
    unfold Link.reader
    refine Moves.bind (Moves.read _) fun c => Moves.ite (moves_stopReader hR i) ?_
    refine Moves.ite ?_ ?_
    · split
      · exact Moves.bind (moves_dispatchFrame hR i hh _) fun _ => moves_reader fuel _
      · exact Moves.ite (moves_outputEnded hR i) (moves_reader fuel _)
    · refine Moves.bind (Moves.read _) fun _ => Moves.ite ?_ ?_
      · exact Moves.bind (Moves.waitUntil _ _) fun _ => moves_reader fuel _
      · refine Moves.bind Moves.spend fun _ => Moves.bind (Moves.read _) fun _ =>
          Moves.ite (moves_stopReader hR i) ?_
        refine Moves.bind (moves_readAtMost hR _ _) fun r => ?_
        cases r with
        | error _ => exact Moves.bind (moves_report hR i _) fun _ => moves_stopReader hR i
        | ok _ => exact Moves.ite (moves_reader fuel _) (moves_reader fuel _)

omit i in
/-- Starting a connection adds it and its writer and reader. -/
theorem moves_start (fromAgent toAgent : Nat) : Moves R (Link.start hooks fromAgent toAgent) := by
  unfold Link.start
  exact Moves.bind (Moves.keptGet hR fun _ => ⟨rfl, rfl⟩) fun j =>
    Moves.bind (Moves.spawn (moves_writer hR j _)) fun _ =>
      Moves.bind (Moves.spawn (moves_reader hR j hh _ _)) fun _ => Moves.pure j

end Link

end Footprint

end AgentLink
