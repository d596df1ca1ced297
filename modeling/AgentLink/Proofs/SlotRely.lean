import AgentLink.Proofs.PermissionSlots
import AgentLink.Proofs.TurnExclusion
import AgentLink.Proofs.TurnEvents

/-!
# Every other step of a client's host is a slot move

`permission_answered_by_first_response` relies on the rest of the host moving the slots of
connection `i` only as `SlotMove i` allows. This module discharges that rely for a client's whole
host: over every interleaving of a client's calls, the tasks of its connections and the listeners
and responders of `Cli.clientHooks`, with a world that leaves the connections, the cells, the turn
and the client's connection alone, the state moves from any pool reached to any later one by a
chain of slot moves (`Pool.Reaches.slotMoves`). It is carried by a step lemma
(`Pool.Step.slotSound`) and a run lemma (`Pool.Reaches.slotSound`).

A single change of the code need not be a move by itself: failing the calls that wait on a
connection fills their cells, and only in a consistent state are those cells not the cells of
slots. So a change is first classed by a footprint that needs no invariant, `Memory.SlotFrame`:
it leaves the slots of `i` and every settled cell alone (the code changes a cell only by filling
or abandoning it, which leave a settled cell as it is), drops no cell and no connection, and
neither gives connection `i` back to a client that let it go nor opens it again. A segment is then
a chain of moves followed by such changes (`SlotStretch`); where it ends in a consistent state, as
every segment of a sound pool does, the changes make one more move (`SlotStretch.moves`).

Two changes touch the slots of `i` themselves: a permission request opening its slot on the
connection the client holds (`Link.openSlot`, a `request` move) and a response resolving one
(`Link.resolveSlot`, a `respond` move). Both run on tasks of their own, whose segments begin with
nothing changed; `KeepsSlotsFrom` is the logic of code entered where the segment so far is a chain
of moves.
-/

namespace AgentLink

open Concurrency Async Memory

namespace Memory

/-- A change that leaves the slots of connection `i` to themselves: their table and every
settled cell stay as they are, no cell and no connection goes away, a client that has let
connection `i` go does not hold it again, and a closed connection `i` stays closed. -/
structure SlotFrame (i : Nat) (s s' : Memory) : Prop where
  slots : (s'.link i).slots = (s.link i).slots
  settled : ∀ d, (s.cell d).isSettled = true → s'.cell d = s.cell d
  cells : s.cells.size ≤ s'.cells.size
  links : s.links.size ≤ s'.links.size
  gone : s.client.link ≠ some i → s'.client.link ≠ some i
  closed : (s.link i).closed = true → (s'.link i).closed = true

namespace SlotFrame

variable {i : Nat} {s₁ s₂ s₃ : Memory}

theorem refl (s : Memory) : SlotFrame i s s := ⟨rfl, fun _ _ => rfl, le_rfl, le_rfl, id, id⟩

theorem trans (h₁ : SlotFrame i s₁ s₂) (h₂ : SlotFrame i s₂ s₃) : SlotFrame i s₁ s₃ where
  slots := h₂.slots.trans h₁.slots
  settled d hd := by
    have h := h₁.settled d hd
    rw [h₂.settled d (by rw [h]; exact hd), h]
  cells := h₁.cells.trans h₂.cells
  links := h₁.links.trans h₂.links
  gone h := h₂.gone (h₁.gone h)
  closed h := h₂.closed (h₁.closed h)

/-- A change that touches neither the connections nor the cells, nor whom the client holds. -/
theorem of_tables (hl : s₂.links = s₁.links) (hc : s₂.cells = s₁.cells)
    (hcl : s₂.client.link = s₁.client.link) : SlotFrame i s₁ s₂ where
  slots := by simp only [link, hl]
  settled _ _ := by simp only [cell, hc]
  cells := by rw [hc]
  links := by rw [hl]
  gone := by rw [hcl]; exact id
  closed := by simp only [link, hl, imp_self]

theorem foldl {β : Type} {f : Memory → β → Memory} (h : ∀ m b, SlotFrame i m (f m b)) :
    ∀ (xs : List β) (m : Memory), SlotFrame i m (xs.foldl f m)
  | [], m => refl m
  | x :: xs, m => (h m x).trans (foldl h xs (f m x))

end SlotFrame

section Changes

variable (s : Memory) (i : Nat)

/-- A change of a connection that keeps its slots and never opens it again. -/
theorem slotFrame_modifyLink (j : Nat) {f : Connection → Connection}
    (hslots : (f (s.link j)).slots = (s.link j).slots)
    (hclosed : (s.link j).closed = true → (f (s.link j)).closed = true) :
    SlotFrame i s (s.modifyLink j f) where
  slots := s.link_modifyLink_rel (fun c c' => c'.slots = c.slots) (fun _ => rfl) hslots i
  settled _ _ := rfl
  cells := le_rfl
  links := (Array.size_modify ..).ge
  gone := id
  closed := s.link_modifyLink_rel (fun c c' => c.closed = true → c'.closed = true) (fun _ => id)
    hclosed i

/-- A change of another connection leaves connection `i` as it was. -/
theorem slotFrame_modifyLink_ne {j : Nat} (hj : j ≠ i) (f : Connection → Connection) :
    SlotFrame i s (s.modifyLink j f) := by
  have hlink : (s.modifyLink j f).link i = s.link i := by
    rw [link_modifyLink, if_neg fun h => hj h.1]
  exact ⟨by rw [hlink], fun _ _ => rfl, le_rfl, (Array.size_modify ..).ge, id,
    by rw [hlink]; exact id⟩

/-- A change of a cell that leaves a settled cell as it is, as filling and abandoning do. -/
theorem slotFrame_modifyCell (c : Nat) {g : Cell → Cell}
    (hg : ∀ x : Cell, x.isSettled = true → g x = x) : SlotFrame i s (s.modifyCell c g) where
  slots := rfl
  settled d hd := by
    rw [cell_modifyCell]
    split
    · exact hg _ hd
    · rfl
  cells := (size_modifyCell s c g).ge
  links := le_rfl
  gone := id
  closed := id

theorem slotFrame_addCell : SlotFrame i s s.addCell.2 where
  slots := rfl
  settled d _ := cell_addCell s d
  cells := by simp [addCell]
  links := le_rfl
  gone := id
  closed := id

theorem slotFrame_addLink (fromAgent toAgent : Nat) :
    SlotFrame i s (s.addLink (Connection.fresh fromAgent toAgent)).2 where
  slots := s.link_addLink_fresh _ _ i (fun c c' => c'.slots = c.slots) (fun _ => rfl) rfl
  settled _ _ := rfl
  cells := le_rfl
  links := by simp [addLink]
  gone := id
  closed := s.link_addLink_fresh _ _ i (fun c c' => c.closed = true → c'.closed = true)
    (fun _ => id) id

/-- The client letting go of its connection. -/
theorem slotFrame_letGo : SlotFrame i s { s with client := { s.client with link := none } } :=
  ⟨rfl, fun _ _ => rfl, le_rfl, le_rfl, (fun _ h => nomatch h), id⟩

theorem slotFrame_report (j : Nat) (r : ProcessReport) : SlotFrame i s (s.report j r) := by
  unfold report
  split
  · exact SlotFrame.of_tables rfl rfl rfl
  · exact SlotFrame.refl s

theorem slotFrame_markClosed (j : Nat) : SlotFrame i s (s.markClosed j).2 := by
  unfold markClosed
  split
  · exact SlotFrame.refl s
  · exact s.slotFrame_modifyLink i j rfl fun _ => rfl

/-- Failing the calls that wait on a connection fills their cells, none of them settled. -/
theorem slotFrame_failPending (j : Nat) : SlotFrame i s (s.failPending j) := by
  unfold failPending
  exact (s.slotFrame_modifyLink i j rfl id).trans
    (SlotFrame.foldl (fun m (e : RequestId × Nat) =>
      m.slotFrame_modifyCell i e.2 (fill_of_settled _)) _ _)

/-- Opening a slot of another connection: a new cell, the other connection's slot, and the
replaced slot's cell abandoned. -/
theorem slotFrame_openSlot_ne {j : Nat} (hj : j ≠ i) (key : String) :
    SlotFrame i s (s.openSlot j key).2 := by
  unfold Memory.openSlot Connection.putSlot
  simp only [show s.addCell.1 = s.cells.size from rfl, link_addCell]
  have hput : ∀ f, SlotFrame i s (s.addCell.2.modifyLink j f) := fun f =>
    (s.slotFrame_addCell i).trans (s.addCell.2.slotFrame_modifyLink_ne i hj f)
  rcases putEntry key s.cells.size (s.link j).slots with ⟨_ | o, slots⟩
  · exact hput _
  · exact (hput _).trans (slotFrame_modifyCell _ i o abandon_of_settled)

theorem slotFrame_resolveSlot_ne {j : Nat} (hj : j ≠ i) (key : String) (v : Json.Value) :
    SlotFrame i s (s.resolveSlot j key v).2 := by
  unfold resolveSlot
  split
  · exact (s.slotFrame_modifyLink_ne i hj _).trans (slotFrame_modifyCell _ i _ (fill_of_settled _))
  · exact SlotFrame.refl s

end Changes

end Memory

theorem Client.clientLink_endTurn (k : Nat) (outcome : Except Failure Json.Value) (m : Memory) :
    (Client.endTurn k outcome m).2.client.link = m.client.link := by
  unfold Client.endTurn
  dsimp only
  split
  · split
    · rw [Memory.client_deliver]
    · rfl
  · rfl

/-- What every segment of a client's host guarantees the slots of connection `i`: where it ends
in a consistent state, it was a chain of slot moves. -/
def SlotGuarantee (i : Nat) (s₀ s : Memory) (_ : Program Memory) : Prop :=
  s.Consistent → Relation.ReflTransGen (SlotMove i) s₀ s

/-- A segment so far, as the slots of connection `i` see it: a chain of moves, then changes that
leave the slots to themselves. -/
def SlotStretch (i : Nat) (s₀ s : Memory) : Prop :=
  ∃ sb, Relation.ReflTransGen (SlotMove i) s₀ sb ∧ SlotFrame i sb s

namespace SlotStretch

variable {i : Nat} {s₀ s s' : Memory}

theorem of_moves (h : Relation.ReflTransGen (SlotMove i) s₀ s) : SlotStretch i s₀ s :=
  ⟨s, h, .refl s⟩

theorem refl (s : Memory) : SlotStretch i s s := of_moves .refl

theorem frame (h : SlotStretch i s₀ s) (hf : SlotFrame i s s') : SlotStretch i s₀ s' :=
  let ⟨sb, hrun, hb⟩ := h
  ⟨sb, hrun, hb.trans hf⟩

/-- A stretch that ends in a consistent state is a chain of moves: a slot's cell is empty there,
so changes that keep every settled cell kept it too. -/
theorem moves (h : SlotStretch i s₀ s) (hs : s.Consistent) :
    Relation.ReflTransGen (SlotMove i) s₀ s := by
  obtain ⟨sb, hrun, hf⟩ := h
  refine hrun.tail (.frame hf.slots (fun e he => ?_) hf.settled hf.cells hf.links hf.gone hf.closed)
  have hempty : s.cell e.2 = .empty :=
    (hs.live e.2 (.slot i e.1) (by show (e.1, e.2) ∈ (s.link i).slots; rw [hf.slots]; exact he)).2
  cases hsb : (sb.cell e.2).isSettled with
  | true => exact hf.settled _ hsb
  | false => rw [hempty, Cell.eq_empty_of_not_settled hsb]

/-- A permission request opening its slot on the connection the client holds: a `request` move
when that is connection `i`, and a change that leaves its slots alone otherwise. -/
theorem openSlot (h : Relation.ReflTransGen (SlotMove i) s₀ s) {j : Nat}
    (hlink : s.client.link = some j) (key : String) : SlotStretch i s₀ (s.openSlot j key).2 := by
  by_cases hj : j = i
  · subst hj
    exact of_moves (h.tail (.request key hlink))
  · exact ⟨s, h, s.slotFrame_openSlot_ne i hj key⟩

/-- A response resolving a slot of the connection the client holds: a `respond` move when that is
connection `i`, and a change that leaves its slots alone otherwise. -/
theorem resolveSlot (h : Relation.ReflTransGen (SlotMove i) s₀ s) {j : Nat}
    (hlink : s.client.link = some j) (key : String) (r : PermissionResponse) :
    SlotStretch i s₀ (s.resolveSlot j key r.outcome).2 := by
  by_cases hj : j = i
  · subst hj
    exact of_moves (h.tail (.respond key r hlink))
  · exact ⟨s, h, s.slotFrame_resolveSlot_ne i hj key _⟩

end SlotStretch

/-- Code that moves the slots of connection `i` only by slot moves, whatever follows it: entered
in a stretch it leaves one, and every segment it ends in a consistent state was a chain of moves. -/
def KeepsSlots (i : Nat) {α : Type} (a : Act α) : Prop :=
  Triple (SlotGuarantee i) (fun _ _ => True) (SlotStretch i) a fun _ => SlotStretch i

/-- The same, for code entered where the segment so far has been a chain of moves, as at the start
of a task. -/
def KeepsSlotsFrom (i : Nat) {α : Type} (a : Act α) : Prop :=
  Triple (SlotGuarantee i) (fun _ _ => True) (Relation.ReflTransGen (SlotMove i)) a
    fun _ => SlotStretch i

namespace KeepsSlots

variable {i : Nat} {α β : Type}

theorem pure (v : α) : KeepsSlots i (Pure.pure v : Act α) := Triple.pure v

theorem bind {a : Act α} {f : α → Act β} (ha : KeepsSlots i a) (hf : ∀ v, KeepsSlots i (f v)) :
    KeepsSlots i (a >>= f) :=
  Triple.bind ha hf

theorem ite {c : Prop} [Decidable c] {a b : Act α} (ha : KeepsSlots i a) (hb : KeepsSlots i b) :
    KeepsSlots i (if c then a else b) := by
  split
  · exact ha
  · exact hb

theorem frame {f : Memory → Memory} (h : ∀ s, SlotFrame i s (f s)) :
    KeepsSlots i (Async.modify f) :=
  Triple.conseq (Triple.modify f) (fun _ s hs => ⟨trivial, hs.frame (h s)⟩) fun _ _ _ h => h

theorem frameGet {f : Memory → α × Memory} (h : ∀ s, SlotFrame i s (f s).2) :
    KeepsSlots i (Async.modifyGet f) :=
  Triple.conseq (Triple.modifyGet f) (fun _ s hs => ⟨trivial, hs.frame (h s)⟩) fun _ _ _ h => h

theorem read (f : Memory → α) : KeepsSlots i (Async.read f) := Triple.read f

theorem now : KeepsSlots i (Async.now : Act Nat) :=
  Triple.conseq Triple.now (fun _ _ h _ => h) fun _ _ _ h => h

/-- Giving way ends the segment in a stretch, a chain of moves where it ends consistent. -/
theorem spend : KeepsSlots i (Async.spend : Act Unit) :=
  Triple.conseq Triple.spend (fun _ _ h _ => h.moves) fun _ _ _ h => h ▸ SlotStretch.refl _

theorem waitUntil (ready : Memory → Bool) (deadline : Option Nat) :
    KeepsSlots i (Async.waitUntil ready deadline) :=
  Triple.conseq (Triple.waitUntil ready deadline) (fun _ _ h _ => h.moves)
    fun _ _ _ h => h ▸ SlotStretch.refl _

theorem sleep (ms : Nat) : KeepsSlots i (Async.sleep ms : Act Unit) :=
  Triple.conseq (Triple.sleep ms) (fun _ _ h _ => h.moves) fun _ _ _ h => h ▸ SlotStretch.refl _

/-- A task started from code that keeps to slot moves from its start. -/
theorem spawn {child : Act Unit} (hc : KeepsSlotsFrom i child) : KeepsSlots i (Async.spawn child) :=
  Triple.spawn (Triple.conseq hc (fun _ _ h => h ▸ .refl) fun _ _ _ h => h.moves)

theorem forIn {xs : List β} {body : β → Unit → Act (ForInStep Unit)}
    (hb : ∀ x, KeepsSlots i (body x ())) : KeepsSlots i (ForIn.forIn xs () body) :=
  Triple.forIn hb

theorem keepsSlotsFrom {a : Act α} (ha : KeepsSlots i a) : KeepsSlotsFrom i a :=
  Triple.conseq ha (fun _ _ => SlotStretch.of_moves) fun _ _ _ h => h

/-- The program of such code is a task every segment of which keeps to slot moves. -/
theorem safe {a : Act α} (ha : KeepsSlots i a) :
    a.toProgram.Safe (SlotGuarantee i) fun _ _ => True :=
  Triple.safe (Triple.conseq ha (fun _ _ h => h ▸ SlotStretch.refl _) fun _ _ _ h => h.moves)

end KeepsSlots

namespace KeepsSlotsFrom

variable {i : Nat} {α β : Type}

theorem bind {a : Act α} {f : α → Act β} (ha : KeepsSlotsFrom i a)
    (hf : ∀ v, KeepsSlots i (f v)) : KeepsSlotsFrom i (a >>= f) :=
  Triple.bind ha hf

/-- Reading the client where the segment so far is a chain of moves: what follows may use whom
the client holds, as no change has been made since. -/
theorem bind_get {f : Client → Act β}
    (hf : ∀ c, Triple (SlotGuarantee i) (fun _ _ => True)
      (fun s₀ s => Relation.ReflTransGen (SlotMove i) s₀ s ∧ s.client = c) (f c)
      fun _ => SlotStretch i) :
    KeepsSlotsFrom i (Client.get >>= f) :=
  Triple.bind ((Triple.read _).conseq (fun _ _ h => ⟨h, rfl⟩) fun _ _ _ h => h) hf

end KeepsSlotsFrom

/-- Listeners and responders that keep to slot moves, a responder from the start of the task it
runs on. -/
structure Hooks.KeepSlots (hooks : Hooks) (i : Nat) : Prop where
  hear : ∀ j l method params, KeepsSlots i (hooks.hear j l method params)
  answer : ∀ j r method params id, KeepsSlotsFrom i (hooks.answer j r method params id)

/-- Opening a slot, three changes in one segment, acts as the one change `Memory.openSlot`. -/
theorem Link.triple_openSlot {G : Memory → Memory → Program Memory → Prop}
    {Q : Nat → Memory → Memory → Prop} (j : Nat) (key : String) :
    Triple G (fun _ _ => True) (fun s₀ s => Q (s.openSlot j key).1 s₀ (s.openSlot j key).2)
      (Link.openSlot j key) Q := by
  unfold Link.openSlot Act.newCell
  refine Triple.bind (Q := fun cell s₀ s => ∃ m : Memory,
      Q (m.openSlot j key).1 s₀ (m.openSlot j key).2 ∧ m.addCell = (cell, s))
    ((Triple.modifyGet _).conseq (fun _ s h => ⟨trivial, s, h, rfl⟩) fun _ _ _ h => h)
    fun cell => ?_
  refine Triple.bind (Q := fun old s₀ s => ∃ m : Memory,
      Q (m.openSlot j key).1 s₀ (m.openSlot j key).2 ∧
        m.openSlot j key = (cell, old.elim s fun o => s.modifyCell o Cell.abandon))
    ((Triple.modifyGet _).conseq (fun _ s h => ⟨trivial, ?_⟩) fun _ _ _ h => h) fun old => ?_
  · -- the new cell and the slot are the first two changes of `Memory.openSlot`
    obtain ⟨m, hq, hadd⟩ := h
    refine ⟨m, hq, ?_⟩
    unfold Memory.openSlot
    rw [hadd]
    dsimp only
    rcases (s.link j).putSlot key cell with ⟨_ | o, c⟩ <;> rfl
  · cases old with
    | some o =>
      dsimp only
      refine Triple.bind ((Triple.modify _).conseq (fun _ _ h => ⟨trivial, ?_⟩) fun _ _ _ h => h)
        fun _ => Triple.pure cell
      obtain ⟨m, hq, hopen⟩ := h
      rw [hopen] at hq
      exact hq
    | none =>
      refine (Triple.pure cell).conseq (fun _ _ h => ?_) fun _ _ _ h => h
      obtain ⟨m, hq, hopen⟩ := h
      rw [hopen] at hq
      exact hq

namespace Link

variable {i : Nat} (j : Nat)

/-- A change of a connection's tables other than its slots, which leaves it open or closed. -/
theorem keepsSlots_modify {f : Connection → Connection} (hslots : ∀ c, (f c).slots = c.slots)
    (hclosed : ∀ c, (f c).closed = c.closed) : KeepsSlots i (Link.modify j f) :=
  KeepsSlots.frame fun s => s.slotFrame_modifyLink i j (hslots _) fun h => (hclosed _).trans h

theorem keepsSlots_report (r : ProcessReport) : KeepsSlots i (Link.report j r) :=
  KeepsSlots.bind KeepsSlots.spend fun _ => KeepsSlots.frame fun s => s.slotFrame_report i j r

theorem keepsSlots_waitForRoom : KeepsSlots i (Link.waitForRoom j) := by
  unfold Link.waitForRoom
  exact KeepsSlots.bind (KeepsSlots.read _) fun _ =>
    KeepsSlots.ite (KeepsSlots.waitUntil _ _) (KeepsSlots.pure ())

theorem keepsSlots_enqueue (msg : Message) : KeepsSlots i (Link.enqueue j msg) := by
  unfold Link.enqueue
  refine KeepsSlots.bind KeepsSlots.spend fun _ => KeepsSlots.bind (keepsSlots_waitForRoom j)
    fun _ => KeepsSlots.frameGet fun s => ?_
  split
  · exact s.slotFrame_modifyLink i j rfl id
  · exact SlotFrame.refl s

theorem keepsSlots_shutdown : KeepsSlots i (Link.shutdown j) := by
  unfold Link.shutdown
  refine KeepsSlots.bind (KeepsSlots.frameGet fun s => s.slotFrame_markClosed i j) fun _ =>
    KeepsSlots.ite (KeepsSlots.pure _) ?_
  exact KeepsSlots.bind KeepsSlots.spend fun _ =>
    KeepsSlots.bind (KeepsSlots.frame fun s => s.slotFrame_failPending i j) fun _ =>
      KeepsSlots.pure _

theorem keepsSlots_close : KeepsSlots i (Link.close j) :=
  KeepsSlots.bind (keepsSlots_shutdown j) fun _ => KeepsSlots.pure ()

theorem keepsSlots_readAtMost (p n : Nat) : KeepsSlots i (Link.readAtMost p n) := by
  unfold Link.readAtMost
  refine KeepsSlots.bind (KeepsSlots.read _) fun fault => ?_
  cases fault with
  | some _ => exact KeepsSlots.pure _
  | none =>
    exact KeepsSlots.bind (KeepsSlots.frameGet fun _ => SlotFrame.of_tables rfl rfl rfl) fun _ =>
      KeepsSlots.pure _

theorem keepsSlots_awaitCell (c : Nat) : KeepsSlots i (Act.awaitCell c) :=
  KeepsSlots.bind (KeepsSlots.waitUntil _ _) fun _ => KeepsSlots.read _

/-- A request takes an id, a new cell and a place among the waiting calls, and takes the place
back if it cannot be queued or times out. -/
theorem keepsSlots_sendRequest (method : String) (params : Json.Value)
    (timeout : Option Duration) : KeepsSlots i (Link.sendRequest j method params timeout) := by
  unfold Link.sendRequest
  refine KeepsSlots.bind (KeepsSlots.frameGet fun s => s.slotFrame_modifyLink i j rfl id) fun id =>
    KeepsSlots.bind (KeepsSlots.frameGet fun s => s.slotFrame_addCell i) fun cell =>
      KeepsSlots.bind (KeepsSlots.read _) fun _ => KeepsSlots.ite (KeepsSlots.pure _) ?_
  refine KeepsSlots.bind (keepsSlots_modify j (fun _ => rfl) fun _ => rfl) fun _ =>
    KeepsSlots.bind (keepsSlots_enqueue j _) fun queued => KeepsSlots.ite
      (KeepsSlots.bind (keepsSlots_modify j (fun _ => rfl) fun _ => rfl) fun _ =>
        KeepsSlots.pure _) ?_
  cases timeout with
  | none => exact KeepsSlots.bind (keepsSlots_awaitCell cell) fun _ => KeepsSlots.pure _
  | some limit =>
    exact KeepsSlots.bind KeepsSlots.now fun _ => KeepsSlots.bind (KeepsSlots.waitUntil _ _) fun _ =>
      KeepsSlots.bind (KeepsSlots.read _) fun _ => KeepsSlots.ite (KeepsSlots.pure _)
        (KeepsSlots.bind (keepsSlots_modify j (fun _ => rfl) fun _ => rfl) fun _ =>
          KeepsSlots.pure _)

theorem keepsSlots_sendNotification (method : String) (params : Json.Value) :
    KeepsSlots i (Link.sendNotification j method params) := by
  unfold Link.sendNotification
  dsimp only
  refine KeepsSlots.bind (KeepsSlots.read _) fun closed => KeepsSlots.ite ?_ ?_ <;>
    refine KeepsSlots.bind ?_ fun _ => KeepsSlots.ite (keepsSlots_report j _) (KeepsSlots.pure ())
  · exact KeepsSlots.pure _
  · exact keepsSlots_enqueue j _

theorem keepsSlots_stopWriter : KeepsSlots i (Link.stopWriter j) := by
  unfold Link.stopWriter
  exact KeepsSlots.bind (KeepsSlots.read _) fun c =>
    KeepsSlots.bind (keepsSlots_modify j (fun _ => rfl) fun _ => rfl) fun _ =>
      KeepsSlots.frame fun _ => SlotFrame.of_tables rfl rfl rfl

theorem keepsSlots_writer : ∀ fuel, KeepsSlots i (Link.writer j fuel)
  | 0 => KeepsSlots.pure ()
  | fuel + 1 => by
    unfold Link.writer
    refine KeepsSlots.bind (KeepsSlots.waitUntil _ _) fun _ => KeepsSlots.bind (KeepsSlots.read _)
      fun _ => KeepsSlots.ite (keepsSlots_stopWriter j) ?_
    refine KeepsSlots.bind KeepsSlots.spend fun _ => KeepsSlots.bind (KeepsSlots.read _) fun c => ?_
    split
    · exact keepsSlots_stopWriter j
    · exact keepsSlots_writer fuel
    · refine KeepsSlots.bind (keepsSlots_modify j (fun _ => rfl) fun _ => rfl) fun _ =>
        KeepsSlots.bind KeepsSlots.spend fun _ =>
          KeepsSlots.bind (KeepsSlots.frameGet fun s => ?_) fun _ =>
            KeepsSlots.ite (keepsSlots_writer fuel) ?_
      · split
        · exact SlotFrame.of_tables rfl rfl rfl
        · exact SlotFrame.refl s
      · exact KeepsSlots.bind (keepsSlots_report j _) fun _ =>
          KeepsSlots.bind (keepsSlots_shutdown j) fun _ => keepsSlots_stopWriter j

theorem keepsSlots_stopReader : KeepsSlots i (Link.stopReader j) := by
  unfold Link.stopReader
  exact KeepsSlots.bind (keepsSlots_shutdown j) fun _ => KeepsSlots.bind (KeepsSlots.read _) fun _ =>
    KeepsSlots.frame fun _ => SlotFrame.of_tables rfl rfl rfl

theorem keepsSlots_outputEnded : KeepsSlots i (Link.outputEnded j) := by
  unfold Link.outputEnded
  dsimp only
  exact KeepsSlots.bind (KeepsSlots.read _) fun _ =>
    KeepsSlots.ite (KeepsSlots.bind (keepsSlots_report j _) fun _ => keepsSlots_stopReader j)
      (keepsSlots_stopReader j)

variable {hooks : Hooks} (hh : hooks.KeepSlots i)
include hh

/-- Handling a message: a response fills its call's cell, a request goes to its responder on a
task of its own or is refused, a notification goes to the listener. -/
theorem keepsSlots_dispatch (msg : Message) : KeepsSlots i (Link.dispatch hooks j msg) := by
  unfold Link.dispatch
  split
  · split
    · refine KeepsSlots.bind KeepsSlots.spend fun _ =>
        KeepsSlots.bind (KeepsSlots.frameGet fun s => s.slotFrame_modifyLink i j rfl id) fun cell => ?_
      split
      · exact KeepsSlots.frame fun s => s.slotFrame_modifyCell i _ (fill_of_settled _)
      · exact KeepsSlots.pure ()
    · exact KeepsSlots.pure ()
  · split
    · refine KeepsSlots.bind KeepsSlots.spend fun _ => KeepsSlots.bind (KeepsSlots.read _) fun c => ?_
      split
      · exact KeepsSlots.bind (keepsSlots_enqueue j _) fun _ => KeepsSlots.pure ()
      · exact KeepsSlots.spawn (KeepsSlotsFrom.bind (hh.answer _ _ _ _ _) fun _ =>
          KeepsSlots.bind (keepsSlots_enqueue j _) fun _ => KeepsSlots.pure ())
    · exact KeepsSlots.pure ()
  · split
    · refine KeepsSlots.bind KeepsSlots.spend fun _ => KeepsSlots.bind (KeepsSlots.read _) fun c => ?_
      split
      · exact hh.hear _ _ _ _
      · exact KeepsSlots.pure ()
    · exact KeepsSlots.pure ()
  · exact keepsSlots_report j _

theorem keepsSlots_dispatchFrame (f : Frame) : KeepsSlots i (Link.dispatchFrame hooks j f) := by
  cases f with
  | malformed line reason => exact keepsSlots_report j _
  | message msg => exact keepsSlots_dispatch j hh msg

/-- The reader: each round cuts a frame and handles it, or reads the pipe. -/
theorem keepsSlots_reader : ∀ fuel fr, KeepsSlots i (Link.reader hooks j fuel fr)
  | 0, _ => KeepsSlots.pure ()
  | fuel + 1, fr => by
    unfold Link.reader
    refine KeepsSlots.bind (KeepsSlots.read _) fun c => KeepsSlots.ite (keepsSlots_stopReader j) ?_
    refine KeepsSlots.ite ?_ ?_
    · split
      · exact KeepsSlots.bind (keepsSlots_dispatchFrame j hh _) fun _ => keepsSlots_reader fuel _
      · exact KeepsSlots.ite (keepsSlots_outputEnded j) (keepsSlots_reader fuel _)
    · refine KeepsSlots.bind (KeepsSlots.read _) fun _ => KeepsSlots.ite ?_ ?_
      · exact KeepsSlots.bind (KeepsSlots.waitUntil _ _) fun _ => keepsSlots_reader fuel _
      · refine KeepsSlots.bind KeepsSlots.spend fun _ => KeepsSlots.bind (KeepsSlots.read _) fun _ =>
          KeepsSlots.ite (keepsSlots_stopReader j) ?_
        refine KeepsSlots.bind (keepsSlots_readAtMost _ _) fun r => ?_
        cases r with
        | error _ =>
          exact KeepsSlots.bind (keepsSlots_report j _) fun _ => keepsSlots_stopReader j
        | ok _ => exact KeepsSlots.ite (keepsSlots_reader fuel _) (keepsSlots_reader fuel _)

omit j in
/-- Starting a connection adds it and starts its writer and reader. -/
theorem keepsSlots_start (fromAgent toAgent : Nat) :
    KeepsSlots i (Link.start hooks fromAgent toAgent) := by
  unfold Link.start
  exact KeepsSlots.bind (KeepsSlots.frameGet fun s => s.slotFrame_addLink i _ _) fun j =>
    KeepsSlots.bind (KeepsSlots.spawn (keepsSlots_writer j _).keepsSlotsFrom) fun _ =>
      KeepsSlots.bind (KeepsSlots.spawn (keepsSlots_reader j hh _ _).keepsSlotsFrom) fun _ =>
        KeepsSlots.pure j

end Link

namespace Client

variable {i : Nat}

theorem keepsSlots_modifyTurn (f : Turn → Turn) : KeepsSlots i (modifyTurn f) :=
  KeepsSlots.frame fun _ => SlotFrame.of_tables rfl rfl rfl

theorem keepsSlots_retrying {α : Type} (p : RetryPolicy) {op : Act (Except Failure α)}
    (hop : KeepsSlots i op) : ∀ attempt fuel, KeepsSlots i (retrying p op attempt fuel)
  | _, 0 => hop
  | attempt, fuel + 1 => by
    rw [retrying]
    refine KeepsSlots.bind hop fun r => ?_
    split
    · exact KeepsSlots.pure _
    · exact KeepsSlots.ite (KeepsSlots.bind (KeepsSlots.sleep _) fun _ =>
        keepsSlots_retrying p hop _ fuel) (KeepsSlots.pure _)

theorem keepsSlots_newSession (cwd : String) (servers : List Json.Value) :
    KeepsSlots i (newSession cwd servers) := by
  unfold newSession
  refine KeepsSlots.bind (KeepsSlots.read _) fun link => ?_
  cases link with
  | none => exact KeepsSlots.pure _
  | some j =>
    refine KeepsSlots.bind (KeepsSlots.read _) fun c =>
      KeepsSlots.bind (keepsSlots_retrying _ (Link.keepsSlots_sendRequest j _ _ _) _ _) fun r => ?_
    split
    · exact KeepsSlots.pure _
    · split
      · refine KeepsSlots.ite (KeepsSlots.pure _) ?_
        exact KeepsSlots.bind (keepsSlots_modifyTurn _) fun _ => KeepsSlots.pure _
      · exact KeepsSlots.pure _

theorem keepsSlots_cancel (session : String) : KeepsSlots i (cancel session) := by
  unfold cancel
  dsimp only
  refine KeepsSlots.bind (KeepsSlots.read _) fun c => ?_
  split
  · exact KeepsSlots.bind (Link.keepsSlots_sendNotification _ _ _) fun _ => KeepsSlots.pure _
  · exact KeepsSlots.pure _

/-- Dropping the connection lets it go for good, then closes it. -/
theorem keepsSlots_disconnect : KeepsSlots i disconnect := by
  unfold disconnect
  dsimp only
  refine KeepsSlots.bind (KeepsSlots.frameGet fun s => s.slotFrame_letGo i) fun link => ?_
  split
  · exact KeepsSlots.bind (keepsSlots_modifyTurn _) fun _ =>
      KeepsSlots.bind (Link.keepsSlots_close _) fun _ => KeepsSlots.pure _
  · exact KeepsSlots.pure _

theorem keepsSlots_waitComplete : KeepsSlots i waitComplete := by
  unfold waitComplete
  dsimp only
  refine KeepsSlots.bind (KeepsSlots.frameGet fun s => ?_) fun cell => ?_
  · split
    · exact (s.slotFrame_addCell i).trans (SlotFrame.of_tables rfl rfl rfl)
    · exact SlotFrame.refl s
  · split
    · exact KeepsSlots.bind (Link.keepsSlots_awaitCell _) fun _ => KeepsSlots.pure _
    · exact KeepsSlots.pure _

/-- A prompt: starting and ending the turn touch only the client and the sink, and the waiters'
cells are filled one by one. -/
theorem keepsSlots_prompt (session : String) (content : List PromptItem) (sink : Nat) :
    KeepsSlots i (prompt session content sink) := by
  unfold prompt
  refine KeepsSlots.bind (KeepsSlots.read _) fun link => ?_
  cases link with
  | none => exact KeepsSlots.pure _
  | some j =>
    refine KeepsSlots.bind (KeepsSlots.frameGet fun s => ?_) fun busy =>
      KeepsSlots.ite (KeepsSlots.pure _) ?_
    · dsimp only
      split
      · exact SlotFrame.refl s
      · exact SlotFrame.of_tables rfl rfl rfl
    refine KeepsSlots.bind (Link.keepsSlots_sendRequest j _ _ _) fun outcome =>
      KeepsSlots.bind (KeepsSlots.frameGet fun s => SlotFrame.of_tables (links_endTurn _ _ s)
        (cells_endTurn _ _ s) (clientLink_endTurn _ _ s)) fun ws => ?_
    exact KeepsSlots.bind (KeepsSlots.forIn fun w => KeepsSlots.bind
      (KeepsSlots.frame fun s => s.slotFrame_modifyCell i w (fill_of_settled _)) fun _ =>
        KeepsSlots.pure _) fun _ => KeepsSlots.pure _

theorem keepsSlots_hear (method : String) (params : Json.Value) :
    KeepsSlots i (hear method params) := by
  unfold hear
  split
  · exact KeepsSlots.bind KeepsSlots.spend fun _ => KeepsSlots.frame fun s =>
      SlotFrame.of_tables (tablesKept_routeUpdate _ s).1 (tablesKept_routeUpdate _ s).2.1
        (by rw [client_routeUpdate])
  · exact KeepsSlots.pure ()

/-- A response, on a task of its own: it resolves the slot of the connection the client holds,
read in the same segment, so it is a `respond` move when that connection is `i`. -/
theorem keepsSlotsFrom_respondPermission (id : String) (response : PermissionResponse) :
    KeepsSlotsFrom i (respondPermission id response) := by
  unfold respondPermission
  refine KeepsSlotsFrom.bind_get fun c => ?_
  split
  · rename_i j hj
    refine Triple.bind ((Triple.modifyGet _).conseq (fun _ s h => ⟨trivial, ?_⟩) fun _ _ _ h => h)
      fun _ => KeepsSlots.pure _
    exact SlotStretch.resolveSlot h.1 (by rw [h.2]; exact hj) id response
  · exact (KeepsSlots.pure _).conseq (fun _ _ h => SlotStretch.of_moves h.1) fun _ _ _ h => h

/-- A permission request, on a task of its own: the made-up id and the request's slot, opened on
the connection the client holds as read in the same segment, are moves, a `request` when that
connection is `i`; then the subscriber is told and the answer awaited. -/
theorem keepsSlotsFrom_answerPermission (params : Json.Value) :
    KeepsSlotsFrom i (answerPermission params) := by
  unfold answerPermission
  dsimp only
  split
  · refine Triple.bind (Q := fun _ s₀ s => Relation.ReflTransGen (SlotMove i) s₀ s)
      ((Triple.modifyGet _).conseq
        (fun _ _ h => ⟨trivial, h.tail (SlotMove.of_frame (by rfl) (by rfl) (by rfl))⟩)
        fun _ _ _ h => h) fun req => KeepsSlotsFrom.bind_get fun c => ?_
    split
    · exact (KeepsSlots.pure _).conseq (fun _ _ h => SlotStretch.of_moves h.1) fun _ _ _ h => h
    · exact (KeepsSlots.pure _).conseq (fun _ _ h => SlotStretch.of_moves h.1) fun _ _ _ h => h
    · rename_i subscriber j _ hj
      refine Triple.bind ((Link.triple_openSlot (Q := fun _ => SlotStretch i) j _).conseq
        (fun _ _ h => SlotStretch.openSlot h.1 (by rw [h.2]; exact hj) _) fun _ _ _ h => h)
        fun cell => ?_
      split
      · refine KeepsSlots.bind (KeepsSlots.frame fun _ => SlotFrame.of_tables rfl rfl rfl) fun _ =>
          KeepsSlots.bind (KeepsSlots.waitUntil _ _) fun _ =>
            KeepsSlots.bind (KeepsSlots.read _) fun _ => ?_
        split <;> exact KeepsSlots.pure _
      · refine KeepsSlots.bind (KeepsSlots.spawn (KeepsSlotsFrom.bind
          (keepsSlotsFrom_respondPermission _ _) fun _ => KeepsSlots.pure ())) fun _ =>
            KeepsSlots.bind (KeepsSlots.waitUntil _ _) fun _ =>
              KeepsSlots.bind (KeepsSlots.read _) fun _ => ?_
        split <;> exact KeepsSlots.pure _
  · exact (KeepsSlots.pure _).conseq (fun _ _ h => SlotStretch.of_moves h) fun _ _ _ h => h

end Client

/-- The command line's listeners and responders keep to slot moves of every connection. -/
theorem Cli.clientHooks_keepSlots (i : Nat) : Cli.clientHooks.KeepSlots i where
  hear _ _ method params := Client.keepsSlots_hear method params
  answer _ _ _ params _ := Client.keepsSlotsFrom_answerPermission params

section Tasks

variable {hooks : Hooks} {i : Nat} {p : Program Memory}

theorem TransportTask.keepsSlots (hh : hooks.KeepSlots i) (h : TransportTask hooks p) :
    p.Safe (SlotGuarantee i) fun _ _ => True := by
  cases h with
  | request j method params timeout =>
    exact (Link.keepsSlots_sendRequest j method params timeout).safe
  | notify j method params => exact (Link.keepsSlots_sendNotification j method params).safe
  | close j => exact (Link.keepsSlots_close j).safe
  | start fromAgent toAgent => exact (Link.keepsSlots_start hh fromAgent toAgent).safe
  | reader j fuel fr => exact (Link.keepsSlots_reader j hh fuel fr).safe
  | writer j fuel => exact (Link.keepsSlots_writer j fuel).safe

theorem ClientTask.keepsSlots (hh : hooks.KeepSlots i) (h : ClientTask hooks p) :
    p.Safe (SlotGuarantee i) fun _ _ => True := by
  cases h with
  | transport h => exact h.keepsSlots hh
  | prompt session content sink => exact (Client.keepsSlots_prompt session content sink).safe
  | waitComplete => exact Client.keepsSlots_waitComplete.safe
  | newSession cwd servers => exact (Client.keepsSlots_newSession cwd servers).safe
  | cancel session => exact (Client.keepsSlots_cancel session).safe
  | disconnect => exact Client.keepsSlots_disconnect.safe

end Tasks

/-- The world of a client's host, as the slots see it: the world of the turn's tasks, which also
leaves whom the client holds alone. -/
def SlotWorld (s s' : Memory) : Prop := TurnWorld s s' ∧ s'.client.link = s.client.link

namespace Concurrency.Pool

/-- What a pool of a client's tasks keeps, for the slots of connection `i`: the client's
invariants, and every task keeps to slot moves. -/
structure SlotSound (i : Nat) (P : Pool Memory) : Prop where
  client : P.ClientSound
  safe : P.AllSafe (SlotGuarantee i) fun _ _ => True

section Lifting

variable {hooks : Hooks} {i : Nat} (hh : hooks.Keep) (hh' : hooks.KeepTurn)
  (hs : hooks.KeepSlots i)
include hh hh' hs

/-- One step of an interleaving keeps the pool sound and moves the state by a chain of slot
moves: a segment ends in a consistent state, a change of the world leaves the connections, the
cells and whom the client holds alone, and the clock and a new task change nothing. -/
theorem Step.slotSound {P Q : Pool Memory} (hstep : Step SlotWorld (ClientTask hooks) P Q)
    (hP : P.SlotSound i) : Q.SlotSound i ∧ Relation.ReflTransGen (SlotMove i) P.state Q.state := by
  have hQ := (Step.clientSound hh hh' (hstep.mono fun _ _ h => h.1) hP.client).1
  have hsafe := Step.allSafe (fun _ _ _ => .refl) (fun _ => trivial) (fun _ _ _ _ _ => trivial)
    (fun _ hp => hp.keepsSlots hs) hstep hP.safe
  refine ⟨⟨hQ, hsafe⟩, ?_⟩
  cases hstep with
  | run hk hp =>
    exact (((hP.safe _ (List.mem_of_getElem? hk)).resume hp).runSegment (fun _ _ _ => .refl)
      (fun _ => trivial) (fun _ _ _ _ _ => trivial) _).1 hQ.sound.consistent
  | tick => exact .refl
  | world hw => exact .single (SlotMove.of_frame hw.1.1.1 hw.1.1.2.1 hw.2)
  | start => exact .refl

/-- A whole interleaving keeps the pool sound and is a chain of slot moves. -/
theorem Reaches.slotSound {P Q : Pool Memory} (hr : Reaches SlotWorld (ClientTask hooks) P Q)
    (hP : P.SlotSound i) : Q.SlotSound i ∧ Relation.ReflTransGen (SlotMove i) P.state Q.state := by
  induction hr with
  | refl => exact ⟨hP, .refl⟩
  | step hstep _ ih =>
    obtain ⟨hQ, hmove⟩ := Step.slotSound hh hh' hs hstep hP
    obtain ⟨hR, hrest⟩ := ih hQ
    exact ⟨hR, hmove.trans hrest⟩

end Lifting

/-- Every other step of a client's host is a slot move. Take any interleaving of a client's
calls and the tasks of its connections, with the listeners and responders of the command line,
from a consistent state with no turn in progress and no call waiting on a closed connection, and
a world that leaves the connections, the cells, the turn and whom the client holds alone. From any
pool reached to any later one, the state moves by a chain of slot moves of every connection `i`:
the rely of `permission_answered_by_first_response` holds of the whole host. -/
theorem Reaches.slotMoves {P R R' : Pool Memory} (hinv : P.state.Consistent)
    (hclosed : ∀ j, (P.state.link j).closed = true → (P.state.link j).pending = [])
    (hidle : P.state.client.turn.inProgress = false) (hnone : P.state.client.turn.waiters = [])
    (htasks : ∀ p ∈ P.tasks, ClientTask Cli.clientHooks p)
    (hR : Reaches SlotWorld (ClientTask Cli.clientHooks) P R)
    (hR' : Reaches SlotWorld (ClientTask Cli.clientHooks) R R') (i : Nat) :
    Relation.ReflTransGen (SlotMove i) R.state R'.state := by
  have hP : P.SlotSound i :=
    ⟨Pool.clientSound_start Cli.clientHooks_keep Cli.clientHooks_keepTurn hinv hclosed hidle hnone
      htasks, fun p hp => (htasks p hp).keepsSlots (Cli.clientHooks_keepSlots i)⟩
  have hRs := (Reaches.slotSound Cli.clientHooks_keep Cli.clientHooks_keepTurn
    (Cli.clientHooks_keepSlots i) hR hP).1
  exact (Reaches.slotSound Cli.clientHooks_keep Cli.clientHooks_keepTurn
    (Cli.clientHooks_keepSlots i) hR' hRs).2

end Concurrency.Pool

end AgentLink
