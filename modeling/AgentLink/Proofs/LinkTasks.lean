import AgentLink.Proofs.Interleaving
import AgentLink.Proofs.TableSteps

/-!
# The tasks of a connection keep the registry

Every segment a task of the host runs keeps `Memory.Guarantee`: from a consistent state it
reaches a consistent one and advances, and when it closes a connection it stops right where a
shutdown fails that connection's waiting calls. Every single change keeps `Memory.Sealed`: a
closed connection gets no new waiting call. `Keeps a` says that `a` does so whatever code
follows it; it is proved here of each function of a connection, one at a time, from the lemmas
on the changes each makes.

Only a shutdown closes a connection, and it gives way at once after closing; the segment that
then follows begins by failing the waiting calls. Everything else keeps a stretch of a segment
`Memory.Steady`.
-/

namespace AgentLink

open Concurrency Async

/-- A shutdown of connection `j` that has marked it closed and is about to fail its waiting
calls. -/
def DrainPoint (j : Nat) (q : Program Memory) : Prop :=
  ∃ K, q = .spend (.update (fun m => m.failPending j) K)

namespace Memory

/-- What every segment of a task guarantees: it progresses, and a connection it closes is
drained where it stops. -/
def Guarantee (s₀ s : Memory) (q : Program Memory) : Prop :=
  Progress s₀ s ∧ ∀ j, (s₀.link j).closed = false → (s.link j).closed = true → DrainPoint j q

theorem Steady.guarantee {s₀ s : Memory} (h : Steady s₀ s) (q : Program Memory) :
    Guarantee s₀ s q :=
  ⟨h.1, fun j hopen hclosed => by rw [h.2 j hclosed] at hopen; cases hopen⟩

end Memory

open Memory

/-- Code that keeps the host's guarantees whatever follows it: entered in a steady stretch of a
segment, it leaves one. -/
def Keeps {α : Type} (a : Act α) : Prop :=
  Triple Guarantee Sealed Steady a fun _ => Steady

namespace Keeps

variable {α β : Type}

theorem pure (v : α) : Keeps (Pure.pure v : Act α) := Triple.pure v

theorem bind {a : Act α} {f : α → Act β} (ha : Keeps a) (hf : ∀ v, Keeps (f v)) :
    Keeps (a >>= f) :=
  Triple.bind ha hf

theorem ite {c : Prop} [Decidable c] {a b : Act α} (ha : Keeps a) (hb : Keeps b) :
    Keeps (if c then a else b) := by
  split
  · exact ha
  · exact hb

/-- A single change that keeps the state steady and is sealed. -/
theorem modify {f : Memory → Memory} (h : ∀ s, Steady s (f s) ∧ Sealed s (f s)) :
    Keeps (Async.modify f) :=
  Triple.conseq (Triple.modify f) (fun _ s hs => ⟨(h s).2, hs.trans (h s).1⟩) fun _ _ _ h => h

theorem modifyGet {f : Memory → α × Memory} (h : ∀ s, Steady s (f s).2 ∧ Sealed s (f s).2) :
    Keeps (Async.modifyGet f) :=
  Triple.conseq (Triple.modifyGet f) (fun _ s hs => ⟨(h s).2, hs.trans (h s).1⟩)
    fun _ _ _ h => h

theorem read (f : Memory → α) : Keeps (Async.read f) := Triple.read f

theorem now : Keeps (Async.now : Act Nat) :=
  Triple.conseq Triple.now (fun _ _ h _ => h) fun _ _ _ h => h

theorem spend : Keeps (Async.spend : Act Unit) :=
  Triple.conseq Triple.spend (fun _ _ h q => h.guarantee q) fun _ _ _ h => h ▸ Steady.refl _

theorem waitUntil (ready : Memory → Bool) (deadline : Option Nat) :
    Keeps (Async.waitUntil ready deadline) :=
  Triple.conseq (Triple.waitUntil ready deadline) (fun _ _ h q => h.guarantee q)
    fun _ _ _ h => h ▸ Steady.refl _

theorem sleep (ms : Nat) : Keeps (Async.sleep ms : Act Unit) :=
  Triple.conseq (Triple.sleep ms) (fun _ _ h q => h.guarantee q) fun _ _ _ h => h ▸ Steady.refl _

/-- A task started from code that keeps the guarantees. -/
theorem spawn {child : Act Unit} (hc : Keeps child) : Keeps (Async.spawn child) :=
  Triple.spawn (Triple.conseq hc (fun _ _ h => h ▸ Steady.refl _) fun _ _ _ h => h.guarantee _)

/-- The program of code that keeps the guarantees is a safe task. -/
theorem safe {a : Act α} (ha : Keeps a) : a.toProgram.Safe Guarantee Sealed :=
  Triple.safe (Triple.conseq ha (fun _ _ h => h ▸ Steady.refl _) fun _ _ _ h => h.guarantee _)

end Keeps

namespace Memory

/-- A change that leaves the connections, the cells and the turn's waiters alone. -/
def TablesKept (s s' : Memory) : Prop :=
  s'.links = s.links ∧ s'.cells = s.cells ∧ s'.client.turn.waiters = s.client.turn.waiters

theorem TablesKept.refl (s : Memory) : TablesKept s s := ⟨rfl, rfl, rfl⟩

theorem TablesKept.trans {s₁ s₂ s₃ : Memory} (h₁ : TablesKept s₁ s₂) (h₂ : TablesKept s₂ s₃) : TablesKept s₁ s₃ :=
  ⟨h₂.1.trans h₁.1, h₂.2.1.trans h₁.2.1, h₂.2.2.trans h₁.2.2⟩

theorem TablesKept.steady {s s' : Memory} (h : TablesKept s s') : Steady s s' ∧ Sealed s s' :=
  ⟨Steady.of_frame s h.1 h.2.1 h.2.2, Sealed.of_frame s h.1⟩

/-- Delivering an event to a sink touches nothing else. -/
theorem tablesKept_deliver (s : Memory) (k : Nat) (e : Event) : TablesKept s (s.deliver k e).2 := by
  unfold Memory.deliver
  split
  · split
    · exact ⟨rfl, rfl, rfl⟩
    · exact TablesKept.refl s
  · exact TablesKept.refl s

theorem tablesKept_foldl_deliver (k : Nat) :
    ∀ (es : List Event) (s : Memory), TablesKept s (es.foldl (fun m e => (m.deliver k e).2) s)
  | [], s => TablesKept.refl s
  | e :: es, s => (tablesKept_deliver s k e).trans (tablesKept_foldl_deliver k es _)

end Memory

/-- A change that leaves the connections, the cells and the turn's waiters alone. -/
theorem Keeps.frame {f : Memory → Memory} (h : ∀ s, TablesKept s (f s)) : Keeps (Async.modify f) :=
  Keeps.modify fun s => (h s).steady

theorem Keeps.frameGet {α : Type} {f : Memory → α × Memory} (h : ∀ s, TablesKept s (f s).2) :
    Keeps (Async.modifyGet f) :=
  Keeps.modifyGet fun s => (h s).steady

/-- A change of connection `i` that leaves its tables and its closing alone. -/
theorem Keeps.modifyLink {i : Nat} {f : Connection → Connection}
    (h : ∀ c, (f c).pending = c.pending ∧ (f c).slots = c.slots ∧ (f c).closed = c.closed ∧
      c.nextId ≤ (f c).nextId) : Keeps (Link.modify i f) :=
  Keeps.modify fun s =>
    ⟨Steady.modifyLink s (h _).1 (h _).2.1 (h _).2.2.1 (h _).2.2.2,
      Sealed.modifyLink s (fun hc => by rw [(h _).2.2.1]; exact hc)
        (fun _ e he => by rw [(h _).1] at he; exact he)⟩

/-- Registering a call on connection `i` under its next id, with a new cell: the id is taken,
the cell added, and the call registered, in one stretch. -/
theorem Steady.openCall (sb : Memory) (i : Nat) :
    Steady sb (((sb.modifyLink i fun _ => ((sb.link i).takeId).2).addCell.2).modifyLink i
      fun c => { c with pending := c.pending ++ [(.num (sb.link i).nextId, sb.cells.size)] }) := by
  have h₁ := (Steady.takeId sb i).trans
    (Steady.addCell (sb.modifyLink i fun _ => ((sb.link i).takeId).2))
  -- taking the id and adding the cell leave the tables as they were
  have hcalls := link_modifyLink_rel sb (fun c c' => c'.pending = c.pending) (fun _ => rfl)
    (i := i) (f := fun _ => ((sb.link i).takeId).2) rfl
  have hslots := link_modifyLink_rel sb (fun c c' => c'.slots = c.slots) (fun _ => rfl)
    (i := i) (f := fun _ => ((sb.link i).takeId).2) rfl
  refine h₁.insertCall _ fun h₀ hi => ⟨le_rfl, ?_, ?_, le_rfl, ?_, ?_, ?_⟩
  · have hi' : i < sb.links.size := by simpa [Memory.addCell, Memory.modifyLink] using hi
    have hview : ((sb.modifyLink i fun _ => ((sb.link i).takeId).2).link i).nextId =
        (sb.link i).nextId + 1 := by
      rw [link_modifyLink, if_pos ⟨rfl, hi'⟩]
      rfl
    change (sb.link i).nextId < ((sb.modifyLink i fun _ => ((sb.link i).takeId).2).link i).nextId
    rw [hview]
    exact Nat.lt_succ_self _
  · intro e he heq
    have he' : e ∈ (sb.link i).pending := by rw [← hcalls i]; exact he
    obtain ⟨n, hn, hlt⟩ := h₀.issued i e.1 e.2 he'
    rw [heq] at hn
    cases hn
    exact lt_irrefl _ hlt
  · simp [Memory.addCell, Memory.modifyLink]
  · rw [cell_addCell]
    exact cell_size sb
  · rintro ⟨p, hp⟩
    have hiff : ∀ {c p}, (sb.modifyLink i fun _ => ((sb.link i).takeId).2).Holds c p ↔
        sb.Holds c p :=
      @holds_iff_of_tables sb (sb.modifyLink i fun _ => ((sb.link i).takeId).2) rfl hcalls hslots
    have hp' : sb.Holds sb.cells.size p := hiff.1 ((holds_addCell _).1 hp)
    exact lt_irrefl _ (h₀.live _ p hp').1


/-- Listeners and responders that keep the host's guarantees. -/
structure Hooks.Keep (hooks : Hooks) : Prop where
  hear : ∀ i l method params, Keeps (hooks.hear i l method params)
  answer : ∀ i r method params id, Keeps (hooks.answer i r method params id)

namespace Link

variable (i : Nat)

theorem keeps_get : Keeps (Link.get i) := Keeps.read _

theorem keeps_isClosed : Keeps (Link.isClosed i) := Keeps.read _

theorem keeps_report (r : ProcessReport) : Keeps (Link.report i r) := by
  unfold Link.report
  refine Keeps.bind Keeps.spend fun _ => Keeps.frame fun s => ?_
  unfold Memory.report
  split
  · exact ⟨rfl, rfl, rfl⟩
  · exact TablesKept.refl s

theorem keeps_waitForRoom : Keeps (Link.waitForRoom i) := by
  unfold Link.waitForRoom
  exact Keeps.bind (Keeps.read _) fun _ => Keeps.ite (Keeps.waitUntil _ _) (Keeps.pure ())

theorem keeps_enqueue (msg : Message) : Keeps (Link.enqueue i msg) := by
  unfold Link.enqueue
  refine Keeps.bind Keeps.spend fun _ => Keeps.bind (keeps_waitForRoom i) fun _ =>
    Keeps.modifyGet fun s => ?_
  split
  · exact ⟨Steady.modifyLink s rfl rfl rfl le_rfl, Sealed.modifyLink s (fun h => h) fun _ _ he => he⟩
  · exact ⟨Steady.refl s, Sealed.refl s⟩

/-- A shutdown closes the connection and gives way at once, at a drain point; the segment after
it fails the waiting calls. -/
theorem keeps_shutdown : Keeps (Link.shutdown i) := by
  intro k hk s₀ s hs t
  rcases hm : s.markClosed i with ⟨b, s'⟩
  have hprog : Progress s s' := by
    have h := Progress.markClosed s i
    rwa [hm] at h
  have hseal : Sealed s s' := by
    have h := Sealed.markClosed s i
    rwa [hm] at h
  cases b with
  | false =>
    have hs' : s' = s := by
      unfold Memory.markClosed at hm
      split at hm
      · exact (Prod.mk.inj hm).2.symm
      · cases hm
    simp only [hm, hs']
    exact ⟨Sealed.refl _, hk false s₀ s hs⟩
  | true =>
    -- only connection `i` was closed anew
    have hother : ∀ j, j ≠ i → (s'.link j).closed = (s.link j).closed := by
      intro j hj
      unfold Memory.markClosed at hm
      split at hm
      · cases hm
      · rw [← (Prod.mk.inj hm).2, link_modifyLink, if_neg (fun h => hj h.1.symm)]
    simp only [hm]
    refine ⟨hseal, ?_⟩
    change Program.Guards Guarantee Sealed (.spend (.update (fun x => x.failPending i) (k true)))
      s₀ s'
    refine ⟨⟨hs.1.trans hprog, fun j hopen hclosed => ?_⟩,
      fun s'' => ⟨Sealed.failPending s'' i, hk true s'' _ (Steady.failPending s'' i).1⟩⟩
    by_cases hj : j = i
    · subst hj
      exact ⟨k true, rfl⟩
    · rw [hother j hj] at hclosed
      rw [hs.2 j hclosed] at hopen
      cases hopen

theorem keeps_close : Keeps (Link.close i) := by
  unfold Link.close
  exact Keeps.bind (keeps_shutdown i) fun _ => Keeps.pure ()

theorem keeps_takeAtMost (p n : Nat) : Keeps (Link.takeAtMost p n) :=
  Keeps.frameGet fun _ => TablesKept.refl _

theorem keeps_readAtMost (p n : Nat) : Keeps (Link.readAtMost p n) := by
  unfold Link.readAtMost
  refine Keeps.bind (Keeps.read _) fun fault => ?_
  cases fault with
  | some _ => exact Keeps.pure _
  | none => exact Keeps.bind (keeps_takeAtMost p n) fun _ => Keeps.pure _

theorem keeps_takeBytes (p : Nat) : Keeps (Link.takeBytes p) :=
  Keeps.frameGet fun _ => TablesKept.refl _

/-- Taking back the call of `x`, as a timeout or a failed enqueue does. -/
theorem keeps_dropCall (x : RequestId) : Keeps (Link.modify i fun c => (c.takePending x).2) :=
  Keeps.modify fun s => ⟨(Steady.refl s).takePending s i x, Sealed.takePending s i x⟩

theorem keeps_awaitCell (c : Nat) : Keeps (Act.awaitCell c) :=
  Keeps.bind (Keeps.waitUntil _ _) fun _ => Keeps.read _

/-- Sending a request: the id is taken, the cell made and the call registered in one stretch,
unless the connection is closed; a failed enqueue and a timeout take the call back. -/
theorem keeps_sendRequest (method : String) (params : Json.Value) (timeout : Option Duration) :
    Keeps (Link.sendRequest i method params timeout) := by
  unfold Link.sendRequest
  -- until the call is registered, the stretch is steady up to the state `sb` the id was taken in
  refine Triple.bind (Q := fun id s₀ s => ∃ sb, Steady s₀ sb ∧ id = (sb.link i).nextId ∧
      s = sb.modifyLink i fun _ => ((sb.link i).takeId).2) ?_ fun id => ?_
  · exact Triple.conseq (Triple.modifyGet _)
      (fun s₀ s hs => ⟨Sealed.modifyLink s (fun h => h) fun _ _ he => he, s, hs, rfl, rfl⟩)
      fun _ _ _ h => h
  refine Triple.bind (Q := fun cell s₀ s => ∃ sb, Steady s₀ sb ∧ id = (sb.link i).nextId ∧
      cell = sb.cells.size ∧ s = (sb.modifyLink i fun _ => ((sb.link i).takeId).2).addCell.2)
    ?_ fun cell => ?_
  · refine Triple.conseq (Triple.modifyGet _) (fun s₀ s hs => ?_) fun _ _ _ h => h
    obtain ⟨sb, hsb, rfl, rfl⟩ := hs
    exact ⟨Sealed.addCell _, sb, hsb, rfl, rfl, rfl⟩
  refine Triple.bind (Q := fun closed s₀ s => (∃ sb, Steady s₀ sb ∧ id = (sb.link i).nextId ∧
      cell = sb.cells.size ∧ s = (sb.modifyLink i fun _ => ((sb.link i).takeId).2).addCell.2) ∧
      closed = (s.link i).closed)
    (Triple.conseq (Triple.read _) (fun _ _ hs => ⟨hs, rfl⟩) fun _ _ _ h => h) fun closed => ?_
  by_cases hc : closed = true
  · rw [if_pos hc]
    refine Triple.conseq (Triple.pure _) (fun s₀ s hs => ?_) fun _ _ _ h => h
    obtain ⟨sb, hsb, rfl, rfl, rfl⟩ := hs.1
    exact hsb.trans ((Steady.takeId sb i).trans (Steady.addCell _))
  · rw [if_neg hc]
    refine Triple.bind (Q := fun _ => Steady) ?_ fun _ =>
      Keeps.bind (keeps_enqueue i _) fun queued => Keeps.ite
        (Keeps.bind (keeps_dropCall i _) fun _ => Keeps.pure _) ?_
    · refine Triple.conseq (Triple.modify _) (fun s₀ s hs => ?_) fun _ _ _ h => h
      obtain ⟨⟨sb, hsb, rfl, rfl, rfl⟩, hopen⟩ := hs
      refine ⟨Sealed.insertCall _ ?_, hsb.trans (Steady.openCall sb i)⟩
      simpa [hc] using hopen.symm
    · cases timeout with
      | none => exact Keeps.bind (keeps_awaitCell cell) fun _ => Keeps.pure _
      | some limit =>
        refine Keeps.bind Keeps.now fun _ => Keeps.bind (Keeps.waitUntil _ _) fun _ =>
          Keeps.bind (Keeps.read _) fun c => Keeps.ite (Keeps.pure _) ?_
        exact Keeps.bind (keeps_dropCall i _) fun _ => Keeps.pure _

theorem keeps_sendNotification (method : String) (params : Json.Value) :
    Keeps (Link.sendNotification i method params) := by
  unfold Link.sendNotification
  dsimp only
  refine Keeps.bind (keeps_isClosed i) fun closed => Keeps.ite ?_ ?_ <;>
    refine Keeps.bind ?_ fun delivered => Keeps.ite (keeps_report i _) (Keeps.pure ())
  · exact Keeps.pure _
  · exact keeps_enqueue i _

/-- Opening a slot: the cell is made and the slot put in one stretch; the slot it replaces is
dropped. -/
theorem keeps_openSlot (key : String) : Keeps (Link.openSlot i key) := by
  unfold Link.openSlot
  dsimp only
  refine Triple.bind (Q := fun cell s₀ s => ∃ sb, Steady s₀ sb ∧ cell = sb.cells.size ∧
      s = sb.addCell.2) ?_ fun cell => ?_
  · exact Triple.conseq (Triple.modifyGet _) (fun s₀ s hs => ⟨Sealed.addCell s, s, hs, rfl, rfl⟩)
      fun _ _ _ h => h
  refine Triple.bind (Q := fun old s₀ s => ∃ sb conn, Steady s₀ sb ∧ cell = sb.cells.size ∧
      (sb.link i).putSlot key sb.cells.size = (old, conn) ∧
      s = sb.addCell.2.modifyLink i fun _ => conn) ?_ fun old => ?_
  · refine Triple.conseq (Triple.modifyGet _) (fun s₀ s hs => ?_) fun _ _ _ h => h
    obtain ⟨sb, hsb, rfl, rfl⟩ := hs
    refine ⟨Sealed.modifyLink _ (fun h => h) fun _ _ he => he, sb, _, hsb, rfl, rfl, rfl⟩
  · cases old with
    | some o =>
      refine Triple.bind (Q := fun _ => Steady) ?_ fun _ => Keeps.pure cell
      refine Triple.conseq (Triple.modify _) (fun s₀ s hs => ?_) fun _ _ _ h => h
      obtain ⟨sb, conn, hsb, -, hput, rfl⟩ := hs
      exact ⟨Sealed.of_frame _ rfl, hsb.trans ((Steady.putSlot sb hput).2 o rfl)⟩
    | none =>
      refine Triple.conseq (Keeps.pure cell) (fun s₀ s hs => ?_) fun _ _ _ h => h
      obtain ⟨sb, conn, hsb, -, hput, rfl⟩ := hs
      exact hsb.trans (Steady.putSlot sb hput).1

theorem keeps_resolveSlot (key : String) (value : Json.Value) :
    Keeps (Link.resolveSlot i key value) :=
  Keeps.modifyGet fun s => ⟨Steady.resolveSlot s i key value, Sealed.resolveSlot s i key value⟩

theorem keeps_cancelSlot (key : String) : Keeps (Link.cancelSlot i key) :=
  Keeps.modifyGet fun s => ⟨Steady.cancelSlot s i key, Sealed.cancelSlot s i key⟩

theorem keeps_stopWriter : Keeps (Link.stopWriter i) := by
  unfold Link.stopWriter
  refine Keeps.bind (keeps_get i) fun c => Keeps.bind ?_ fun _ => Keeps.frame fun _ => TablesKept.refl _
  exact Keeps.modifyLink fun _ => ⟨rfl, rfl, rfl, le_rfl⟩

/-- The writer: each round waits, takes a message off the queue and writes it. -/
theorem keeps_writer : ∀ fuel, Keeps (Link.writer i fuel)
  | 0 => Keeps.pure ()
  | fuel + 1 => by
    unfold Link.writer
    refine Keeps.bind (Keeps.waitUntil _ _) fun _ => Keeps.bind (keeps_isClosed i) fun _ =>
      Keeps.ite (keeps_stopWriter i) ?_
    refine Keeps.bind Keeps.spend fun _ => Keeps.bind (keeps_get i) fun c => ?_
    split
    · exact keeps_stopWriter i
    · exact keeps_writer fuel
    · refine Keeps.bind (Keeps.modifyLink fun _ => ⟨rfl, rfl, rfl, le_rfl⟩) fun _ =>
        Keeps.bind Keeps.spend fun _ => Keeps.bind (Keeps.frameGet fun s => ?_) fun _ =>
          Keeps.ite (keeps_writer fuel) ?_
      · split
        · exact ⟨rfl, rfl, rfl⟩
        · exact TablesKept.refl s
      · exact Keeps.bind (keeps_report i _) fun _ => Keeps.bind (keeps_shutdown i) fun _ =>
          keeps_stopWriter i

/-- Handling a message: a response fills the cell of the call it answers, in the stretch that
takes the call back. -/
theorem keeps_dispatch {hooks : Hooks} (hh : hooks.Keep) (msg : Message) :
    Keeps (Link.dispatch hooks i msg) := by
  unfold Link.dispatch
  split
  · rename_i hkind
    split
    · rename_i id hid
      refine Keeps.bind Keeps.spend fun _ => ?_
      refine Triple.bind (Q := fun cell s₀ s => ∃ sb conn, Steady s₀ sb ∧
          (sb.link i).takePending id = (cell, conn) ∧ s = sb.modifyLink i fun _ => conn)
        ?_ fun cell => ?_
      · refine Triple.conseq (Triple.modifyGet _) (fun s₀ s hs => ?_) fun _ _ _ h => h
        rcases h : (s.link i).takePending id with ⟨cell, conn⟩
        obtain ⟨hsub, -, hcl, -⟩ := takePending_shrinks s h
        exact ⟨Sealed.shrink s hsub hcl, s, conn, hs, h, rfl⟩
      · split
        · rename_i c
          refine Triple.conseq (Triple.modify _) (fun s₀ s hs => ?_) fun _ _ _ h => h
          obtain ⟨sb, conn, hsb, htake, rfl⟩ := hs
          exact ⟨Sealed.of_frame _ rfl, hsb.trans (Steady.answer sb htake (.inr ⟨msg, hkind, hid, rfl⟩))⟩
        · refine Triple.conseq (Keeps.pure ()) (fun s₀ s hs => ?_) fun _ _ _ h => h
          obtain ⟨sb, conn, hsb, htake, rfl⟩ := hs
          obtain ⟨hsub, hsl, hcl, hid'⟩ := takePending_shrinks sb htake
          exact hsb.trans ((Steady.refl sb).shrink sb hsub (by rw [hsl]) hcl hid')
    · exact Keeps.pure ()
  · split
    · refine Keeps.bind Keeps.spend fun _ => Keeps.bind (keeps_get i) fun c => ?_
      split
      · exact Keeps.bind (keeps_enqueue i _) fun _ => Keeps.pure ()
      · exact Keeps.spawn (Keeps.bind (hh.answer _ _ _ _ _) fun _ =>
          Keeps.bind (keeps_enqueue i _) fun _ => Keeps.pure ())
    · exact Keeps.pure ()
  · split
    · refine Keeps.bind Keeps.spend fun _ => Keeps.bind (keeps_get i) fun c => ?_
      split
      · exact hh.hear _ _ _ _
      · exact Keeps.pure ()
    · exact Keeps.pure ()
  · exact keeps_report i _

theorem keeps_dispatchFrame {hooks : Hooks} (hh : hooks.Keep) (f : Frame) :
    Keeps (Link.dispatchFrame hooks i f) := by
  cases f with
  | malformed line reason => exact keeps_report i _
  | message msg => exact keeps_dispatch i hh msg

theorem keeps_stopReader : Keeps (Link.stopReader i) := by
  unfold Link.stopReader
  exact Keeps.bind (keeps_shutdown i) fun _ => Keeps.bind (keeps_get i) fun _ =>
    Keeps.frame fun _ => TablesKept.refl _

theorem keeps_outputEnded : Keeps (Link.outputEnded i) := by
  unfold Link.outputEnded
  dsimp only
  exact Keeps.bind (keeps_isClosed i) fun _ =>
    Keeps.ite (Keeps.bind (keeps_report i _) fun _ => keeps_stopReader i) (keeps_stopReader i)

/-- The reader: each round cuts a frame and handles it, or reads the pipe. -/
theorem keeps_reader {hooks : Hooks} (hh : hooks.Keep) :
    ∀ fuel fr, Keeps (Link.reader hooks i fuel fr)
  | 0, _ => Keeps.pure ()
  | fuel + 1, fr => by
    unfold Link.reader
    refine Keeps.bind (keeps_get i) fun c => Keeps.ite (keeps_stopReader i) ?_
    refine Keeps.ite ?_ ?_
    · split
      · exact Keeps.bind (keeps_dispatchFrame i hh _) fun _ => keeps_reader hh fuel _
      · exact Keeps.ite (keeps_outputEnded i) (keeps_reader hh fuel _)
    · refine Keeps.bind (Keeps.read _) fun _ => Keeps.ite ?_ ?_
      · exact Keeps.bind (Keeps.waitUntil _ _) fun _ => keeps_reader hh fuel _
      · refine Keeps.bind Keeps.spend fun _ => Keeps.bind (keeps_isClosed i) fun _ =>
          Keeps.ite (keeps_stopReader i) ?_
        refine Keeps.bind (keeps_readAtMost _ _) fun r => ?_
        cases r with
        | error _ => exact Keeps.bind (keeps_report i _) fun _ => keeps_stopReader i
        | ok _ => exact Keeps.ite (keeps_reader hh fuel _) (keeps_reader hh fuel _)

/-- Starting a connection adds it and its writer and reader. -/
theorem keeps_start {hooks : Hooks} (hh : hooks.Keep) (fromAgent toAgent : Nat) :
    Keeps (Link.start hooks fromAgent toAgent) := by
  unfold Link.start
  refine Keeps.bind (Keeps.modifyGet fun s => ⟨Steady.addLink s _ _, Sealed.addLink s _ _⟩)
    fun j => Keeps.bind (Keeps.spawn (keeps_writer j _)) fun _ =>
      Keeps.bind (Keeps.spawn (keeps_reader j hh _ _)) fun _ => Keeps.pure j

end Link

end AgentLink
