import Mathlib
import AgentLink.Proofs.InitLock
import AgentLink.Proofs.RequestReplies
import AgentLink.Proofs.TurnRecord

/-!
# Initialisation under the lock

Take any number of tasks calling `handshake`, each with a connector that leaves the lock alone,
and `disconnect`, on one client, and a world that may do anything but change the tickets, the
count of connections made and the stored connection: the connections' own tasks, and an agent
that hangs up and the reader that then closes its connection. Interleave their segments in any
order, start more such tasks at any time, and let the clock run.

Each task is in a phase of the lock and keeps the lock's guarantee (`LockMove`). In every pool
reached the lock's invariant holds (`LockInv`, `Pool.Reaches.lockPhased`): every ticket held was
taken, by one task only, and is not served past, and the task holding the lock is the one whose
ticket is served, with no connection stored while it holds it; so at most one task holds the
lock (`LockInv.holder_unique`). Every step makes at most one connection, and only from a state
with no live connection stored; it changes the stored connection only by dropping it, or as the
holder lets the lock go from such a state (`InitStep`, `Pool.Step.initStep`).

What the holder does: with a live connection stored it is done at once, changing nothing
(`Client.handshakeHeld_live`); otherwise it drops the stored connection and connects anew
(`Client.handshakeHeld_dead`). The new connection is stored only on an answer with a numeric
`protocolVersion`, and is closed before the handshake fails otherwise (`Client.greet_outcome`).
-/

namespace AgentLink

open Concurrency Async Memory

/-- The ticket a task holds in a phase. -/
def InitPhase.ticket : InitPhase → Option Nat
  | .idle => none
  | .queued t => some t
  | .holding t => some t

/-- The ticket task `j` holds. -/
def ticketAt (phases : List InitPhase) (j : Nat) : Option Nat := phases[j]?.bind InitPhase.ticket

section Tickets

variable {phases : List InitPhase} {j k t : Nat} {g : InitPhase}

theorem ticketAt_of_getElem? (h : phases[j]? = some g) : ticketAt phases j = g.ticket := by
  simp [ticketAt, h]

theorem lt_of_ticketAt (h : ticketAt phases j = some t) : j < phases.length := by
  cases hj : phases[j]? with
  | none => simp [ticketAt, hj] at h
  | some g => exact (List.getElem?_eq_some_iff.1 hj).1

theorem ticketAt_set_ne (h : k ≠ j) : ticketAt (phases.set k g) j = ticketAt phases j := by
  simp only [ticketAt, List.getElem?_set_ne h]

theorem ticketAt_set_self (hk : k < phases.length) : ticketAt (phases.set k g) k = g.ticket := by
  simp [ticketAt, List.getElem?_set_self hk]

/-- A task that holds no ticket any more leaves every other ticket where it was. -/
theorem ticketAt_set_idle (h : ticketAt (phases.set k .idle) j = some t) :
    k ≠ j ∧ ticketAt phases j = some t := by
  by_cases hkj : k = j
  · subst hkj
    simp only [ticketAt, List.getElem?_set, if_true] at h
    split at h <;> simp [InitPhase.ticket] at h
  · exact ⟨hkj, by rwa [ticketAt_set_ne hkj] at h⟩

theorem ticketAt_append_idle : ticketAt (phases ++ [.idle]) j = ticketAt phases j := by
  by_cases hj : j < phases.length
  · simp [ticketAt, List.getElem?_append_left hj]
  · have hle : phases.length ≤ j := Nat.le_of_not_lt hj
    simp only [ticketAt, List.getElem?_append_right hle, List.getElem?_eq_none hle]
    cases j - phases.length <;> rfl

theorem getElem?_append_idle {g' : InitPhase} (h : (phases ++ [.idle])[j]? = some g')
    (hg : g' ≠ .idle) : phases[j]? = some g' := by
  by_cases hj : j < phases.length
  · rwa [List.getElem?_append_left hj] at h
  · rw [List.getElem?_append_right (Nat.le_of_not_lt hj)] at h
    cases hn : j - phases.length with
    | zero => rw [hn] at h; cases h; exact absurd rfl hg
    | succ n => rw [hn] at h; cases h

theorem ticketAt_replicate_idle (n : Nat) : ticketAt (List.replicate n .idle) j = none := by
  simp only [ticketAt, List.getElem?_replicate]
  split <;> rfl

/-- Giving task `k` a phase whose ticket no other task holds keeps every ticket held by one task
only. -/
theorem distinct_set
    (hd : ∀ j j' t, ticketAt phases j = some t → ticketAt phases j' = some t → j = j')
    (hfresh : ∀ j t, k ≠ j → g.ticket = some t → ticketAt phases j ≠ some t)
    (hk : k < phases.length) :
    ∀ j j' t, ticketAt (phases.set k g) j = some t → ticketAt (phases.set k g) j' = some t →
      j = j' := by
  intro j j' t hj hj'
  by_cases hkj : k = j <;> by_cases hkj' : k = j'
  · exact hkj.symm.trans hkj'
  · subst hkj
    rw [ticketAt_set_self hk] at hj
    rw [ticketAt_set_ne hkj'] at hj'
    exact absurd hj' (hfresh j' t hkj' hj)
  · subst hkj'
    rw [ticketAt_set_self hk] at hj'
    rw [ticketAt_set_ne hkj] at hj
    exact absurd hj (hfresh j t hkj hj')
  · rw [ticketAt_set_ne hkj] at hj
    rw [ticketAt_set_ne hkj'] at hj'
    exact hd j j' t hj hj'

end Tickets

/-- What the lock keeps true of the state and the tasks' phases: no ticket is served before it
is taken; every ticket held was taken, is not served past, and is held by one task only; and the
task holding the lock is the one whose ticket is served, with no connection stored. -/
structure LockInv (s : Memory) (phases : List InitPhase) : Prop where
  served : s.client.serving ≤ s.client.nextTicket
  issued : ∀ j t, ticketAt phases j = some t → s.client.serving ≤ t ∧ t < s.client.nextTicket
  distinct : ∀ j j' t, ticketAt phases j = some t → ticketAt phases j' = some t → j = j'
  holder : ∀ (j t : Nat), phases[j]? = some (.holding t) →
    s.client.serving = t ∧ s.client.link = none

namespace LockInv

variable {s₀ s : Memory} {phases : List InitPhase} {j k t : Nat} {g₀ g : InitPhase}

/-- Only the task whose ticket is served may hold the lock. -/
theorem holder_eq (hI : LockInv s phases) (hk : ticketAt phases k = some s.client.serving)
    {t' : Nat} (hj : phases[j]? = some (.holding t')) : j = k := by
  have hserved := (hI.holder j t' hj).1
  refine hI.distinct j k t' (ticketAt_of_getElem? hj) ?_
  rw [← hserved]
  exact hk

/-- At most one task holds the lock. -/
theorem holder_unique (hI : LockInv s phases) {i t' : Nat} (hi : phases[i]? = some (.holding t))
    (hj : phases[j]? = some (.holding t')) : i = j := by
  refine hI.holder_eq ?_ hi
  rw [(hI.holder j t' hj).1]
  exact ticketAt_of_getElem? hj

/-- Changes that leave the lock alone keep the invariant. -/
theorem kept (hI : LockInv s₀ phases) (hk : LockKept s₀ s) : LockInv s phases where
  served := by rw [hk.serving, hk.nextTicket]; exact hI.served
  issued j t ht := by rw [hk.serving, hk.nextTicket]; exact hI.issued j t ht
  distinct := hI.distinct
  holder j t hj := by rw [hk.serving, hk.link]; exact hI.holder j t hj

/-- A task started holds no ticket. -/
theorem spawn (hI : LockInv s phases) : LockInv s (phases ++ [.idle]) where
  served := hI.served
  issued j t ht := hI.issued j t (by rwa [ticketAt_append_idle] at ht)
  distinct j j' t hj hj' :=
    hI.distinct j j' t (by rwa [ticketAt_append_idle] at hj) (by rwa [ticketAt_append_idle] at hj')
  holder j t hj := hI.holder j t (getElem?_append_idle hj (by simp))

/-- A task with no ticket leaves the tickets alone and at most drops the stored connection. -/
theorem aside (hI : LockInv s₀ phases) (hk : phases[k]? = some .idle)
    (hnext : s.client.nextTicket = s₀.client.nextTicket)
    (hserving : s.client.serving = s₀.client.serving)
    (hlink : s.client.link = s₀.client.link ∨ s.client.link = none) :
    LockInv s (phases.set k .idle) := by
  obtain ⟨hklt, hkg⟩ := List.getElem?_eq_some_iff.1 hk
  have hset : phases.set k .idle = phases := by
    rw [← hkg]
    exact List.set_getElem_self hklt
  rw [hset]
  refine ⟨by rw [hnext, hserving]; exact hI.served, fun j t ht => ?_, hI.distinct, fun j t hj => ?_⟩
  · rw [hnext, hserving]
    exact hI.issued j t ht
  · -- the holder saw no connection stored, and none is stored anew
    obtain ⟨hserved, hnone⟩ := hI.holder j t hj
    refine ⟨hserving.trans hserved, ?_⟩
    rcases hlink with h | h
    · exact h.trans hnone
    · exact h

/-- A task with no ticket takes the next one. -/
theorem take (hI : LockInv s₀ phases) (hk : phases[k]? = some .idle)
    (hnext : s.client.nextTicket = s₀.client.nextTicket + 1)
    (hserving : s.client.serving = s₀.client.serving) (hlink : s.client.link = s₀.client.link) :
    LockInv s (phases.set k (.queued s₀.client.nextTicket)) := by
  have hklt : k < phases.length := (List.getElem?_eq_some_iff.1 hk).1
  have hserved := hI.served
  refine ⟨by omega, fun j t ht => ?_, ?_, fun j t hj => ?_⟩
  · by_cases hkj : k = j
    · subst hkj
      rw [ticketAt_set_self hklt] at ht
      obtain rfl : s₀.client.nextTicket = t := Option.some.inj ht
      omega
    · rw [ticketAt_set_ne hkj] at ht
      have := hI.issued j t ht
      omega
  · -- the new ticket is held by no other task: every ticket held was taken before it
    refine distinct_set hI.distinct (fun j t _ ht hj => ?_) hklt
    obtain rfl : s₀.client.nextTicket = t := Option.some.inj ht
    have := hI.issued j _ hj
    omega
  · have hkj : k ≠ j := by
      rintro rfl
      rw [List.getElem?_set_self hklt] at hj
      cases hj
    rw [List.getElem?_set_ne hkj] at hj
    obtain ⟨h₁, h₂⟩ := hI.holder j t hj
    exact ⟨hserving.trans h₁, hlink.trans h₂⟩

/-- The task whose ticket is served lets the lock go: it holds no ticket any more, and the next
ticket is served. -/
theorem release (hI : LockInv s₀ phases) (hk : ticketAt phases k = some s₀.client.serving)
    (hnext : s.client.nextTicket = s₀.client.nextTicket)
    (hserving : s.client.serving = s₀.client.serving + 1) : LockInv s (phases.set k .idle) := by
  have hklt := lt_of_ticketAt hk
  refine ⟨?_, fun j t ht => ?_, fun j j' t hj hj' => ?_, fun j t hj => ?_⟩
  · have := (hI.issued k _ hk).2
    omega
  · -- every other ticket held comes after the one served
    obtain ⟨hkj, ht⟩ := ticketAt_set_idle ht
    have hne : t ≠ s₀.client.serving := by
      rintro rfl
      exact hkj (hI.distinct k j _ hk ht)
    have := hI.issued j t ht
    omega
  · exact hI.distinct j j' t (ticketAt_set_idle hj).2 (ticketAt_set_idle hj').2
  · have hkj : k ≠ j := by
      rintro rfl
      rw [List.getElem?_set_self hklt] at hj
      cases hj
    rw [List.getElem?_set_ne hkj] at hj
    exact absurd (hI.holder_eq hk hj).symm hkj

/-- The task whose ticket `t` is served holds the lock, with no connection stored. -/
theorem hold (hI : LockInv s₀ phases) (hk : ticketAt phases k = some t)
    (hserved : s₀.client.serving = t) (hnext : s.client.nextTicket = s₀.client.nextTicket)
    (hserving : s.client.serving = s₀.client.serving) (hlink : s.client.link = none) :
    LockInv s (phases.set k (.holding t)) := by
  have hklt := lt_of_ticketAt hk
  refine ⟨by rw [hnext, hserving]; exact hI.served, fun j t' ht => ?_, ?_, fun j t' hj => ?_⟩
  · rw [hnext, hserving]
    by_cases hkj : k = j
    · subst hkj
      rw [ticketAt_set_self hklt] at ht
      obtain rfl : t = t' := Option.some.inj ht
      exact hI.issued k t hk
    · rw [ticketAt_set_ne hkj] at ht
      exact hI.issued j t' ht
  · -- the task keeps its ticket, which no other task holds
    refine distinct_set hI.distinct (fun j t' hkj ht hj => hkj ?_) hklt
    obtain rfl : t = t' := Option.some.inj ht
    exact hI.distinct k j t hk hj
  · by_cases hkj : k = j
    · subst hkj
      rw [List.getElem?_set_self hklt] at hj
      obtain rfl : t = t' := InitPhase.holding.inj (Option.some.inj hj)
      exact ⟨hserving.trans hserved, hlink⟩
    · rw [List.getElem?_set_ne hkj] at hj
      exact absurd (hI.holder_eq (by rw [hserved]; exact hk) hj).symm hkj

/-- A segment of the task whose ticket `t` is served, which holds the lock or lets it go. -/
theorem held (hI : LockInv s₀ phases) (hk : ticketAt phases k = some t)
    (hserved : s₀.client.serving = t) (hstep : HeldStep t s₀ s g)
    (hlink : g = .holding t → s.client.link = none) : LockInv s (phases.set k g) := by
  rcases hstep.serving with ⟨rfl, hs⟩ | ⟨rfl, hs⟩
  · exact hI.hold hk hserved hstep.nextTicket hs (hlink rfl)
  · exact hI.release (by rw [hserved]; exact hk) hstep.nextTicket hs

/-- Every segment of every task keeps the invariant. -/
theorem move (hI : LockInv s₀ phases) (hk : phases[k]? = some g₀) (h : LockMove g₀ s₀ s g) :
    LockInv s (phases.set k g) := by
  have htk := ticketAt_of_getElem? hk
  cases h with
  | aside hnext hserving _ hlink => exact hI.aside hk hnext hserving hlink
  | take hnext hserving _ hlink => exact hI.take hk hnext hserving hlink
  | found hserved _ hnext hserving =>
    exact hI.release (by rw [htk, hserved]; rfl) hnext hserving
  | enter hserved _ hlink hstep => exact hI.held htk hserved hstep hlink
  | hold hlink hstep =>
    obtain ⟨hserved, hnone⟩ := hI.holder k _ hk
    exact hI.held htk hserved hstep fun hg => (hlink hg).trans hnone

end LockInv

/-- What one step does to the connections: it makes at most one, and only from a state with no
live connection stored; it changes the stored connection only by dropping it, or in a step that
serves the next ticket from a state with no live connection stored. -/
structure InitStep (s₀ s : Memory) : Prop where
  connections : s.client.connections = s₀.client.connections ∨
    s.client.connections = s₀.client.connections + 1 ∧ Client.isInitialized s₀ = false
  link : s.client.link = s₀.client.link ∨ s.client.link = none ∨
    s.client.serving = s₀.client.serving + 1 ∧ Client.isInitialized s₀ = false

namespace InitStep

variable {s₀ s : Memory}

theorem refl (s : Memory) : InitStep s s := ⟨.inl rfl, .inl rfl⟩

theorem of_kept (h : LockKept s₀ s) : InitStep s₀ s := ⟨.inl h.connections, .inl h.link⟩

/-- A segment of the task whose ticket is served, begun with no live connection stored. -/
theorem of_held {t : Nat} {g : InitPhase} (hstep : HeldStep t s₀ s g)
    (hdead : Client.isInitialized s₀ = false)
    (hlink : g = .holding t → s.client.link = none ∨ s.client.link = s₀.client.link) :
    InitStep s₀ s where
  connections := hstep.connections.imp_right fun h => ⟨h, hdead⟩
  link := by
    rcases hstep.serving with ⟨rfl, -⟩ | ⟨-, hs⟩
    · rcases hlink rfl with h | h
      · exact .inr (.inl h)
      · exact .inl h
    · exact .inr (.inr ⟨hs, hdead⟩)

/-- Every segment of every task is such a step. -/
theorem of_move {phases : List InitPhase} {k : Nat} {g₀ g : InitPhase} (hI : LockInv s₀ phases)
    (hk : phases[k]? = some g₀) (h : LockMove g₀ s₀ s g) : InitStep s₀ s := by
  cases h with
  | aside _ _ hconn hlink => exact ⟨.inl hconn, hlink.imp_right .inl⟩
  | take _ _ hconn hlink => exact ⟨.inl hconn, .inl hlink⟩
  | found _ _ _ _ hconn hlink => exact ⟨.inl hconn, .inl hlink⟩
  | enter _ hdead hlink hstep => exact of_held hstep hdead fun hg => .inl (hlink hg)
  | hold hlink hstep =>
    -- the holder finds no connection stored
    have hnone := (hI.holder k _ hk).2
    exact of_held hstep (by simp [Client.isInitialized, hnone]) fun hg => .inr (hlink hg)

end InitStep

/-- The tasks of initialisation: handshakes, each with a connector that leaves the lock alone,
and disconnects. -/
inductive InitTask : Program Memory → Prop
  | handshake {connect : Act (Except Failure Nat)} (hconn : KeepsLock connect) :
      InitTask (Client.handshake connect).toProgram
  | disconnect : InitTask Client.disconnect.toProgram

theorem InitTask.wsafe {p : Program Memory} (h : InitTask p) :
    p.WSafe LockGuarantee (fun _ _ => True) .idle .idle := by
  cases h with
  | handshake hconn => exact Client.handshake_wsafe hconn
  | disconnect => exact Client.disconnect_wsafe

namespace Concurrency.Pool

/-- The tasks of the pool are in phases of the lock, each ready to keep the lock's guarantee,
and the lock's invariant holds. -/
def LockPhased (P : Pool Memory) : Prop :=
  P.PhasedBy (fun g p => p.WReady LockGuarantee (fun _ _ => True) .idle g) LockInv

variable {P Q : Pool Memory}

/-- A pool of tasks not yet started, where no ticket is served before it is taken. -/
theorem lockPhased_start (hserved : P.state.client.serving ≤ P.state.client.nextTicket)
    (htasks : ∀ p ∈ P.tasks, InitTask p) : P.LockPhased := by
  refine ⟨List.replicate P.tasks.length .idle, by simp, fun i p g hp hg => ?_, ?_⟩
  · obtain rfl : g = .idle := (List.getElem?_eq_some_iff.1 hg).2.symm.trans (by simp)
    exact (htasks p (List.mem_of_getElem? hp)).wsafe.wready
  · refine ⟨hserved, fun j t ht => ?_, fun j _ t hj _ => ?_, fun j t hj => ?_⟩
    · simp [ticketAt_replicate_idle] at ht
    · simp [ticketAt_replicate_idle] at hj
    · simp [List.getElem?_replicate] at hj

/-- Every interleaving keeps the lock's invariant. -/
theorem Reaches.lockPhased (hr : Reaches LockKept InitTask P Q) (hP : P.LockPhased) :
    Q.LockPhased :=
  hr.wphased (fun _ => trivial) (fun _ _ _ _ _ => trivial)
    (fun _ _ _ _ _ _ _ hk hI hG _ => hI.move hk hG) (fun _ _ hI => hI.spawn)
    (fun _ _ _ hw hI => hI.kept hw) (fun _ hp => hp.wsafe) hP

/-- Every step of an interleaving makes at most one connection, from a state with no live
connection stored, and stores one only as the lock's holder lets it go. -/
theorem Step.initStep (hs : Step LockKept InitTask P Q) (hP : P.LockPhased) :
    InitStep P.state Q.state :=
  Step.wphased_rel (fun _ => trivial) (fun _ _ _ _ _ => trivial) InitStep.refl
    (fun _ _ hw => .of_kept hw) (fun _ _ _ _ _ _ _ hk hI hG => .of_move hI hk hG) hs hP

end Concurrency.Pool

namespace Link

variable {i j : Nat} {E : Memory → Memory → Prop}

theorem closed_markClosed {s : Memory} (hi : i < s.links.size) :
    ((s.markClosed i).2.link i).closed = true := by
  by_cases h : (s.link i).closed = true
  · simp [Memory.markClosed, h]
  · simp [Memory.markClosed, h, Memory.link_modifyLink, hi]

/-- Closing a connection that exists leaves it closed, whatever the rest of the host does
meanwhile, as long as it keeps closed connections closed. -/
theorem puts_close (hE : ∀ s s', E s s' → (s.link i).closed = true → (s'.link i).closed = true) :
    Puts j E (fun s => i < s.links.size) (Link.close i) fun _ _ s => (s.link i).closed = true := by
  unfold Link.close Link.shutdown
  refine Puts.bind (Q := fun _ _ s => (s.link i).closed = true) ?_ fun _ _ =>
    (Puts.pure ()).conseq (fun _ h => h) fun _ _ _ h => h.2.2
  refine (Puts.modifyGet _).bind fun closed _ => ?_
  -- the connection is closed once marked, and stays closed
  have hmarked : ∀ s₀ s : Memory, i < s₀.links.size → s₀.markClosed i = (closed, s) →
      (s.link i).closed = true := by
    intro s₀ s hi hm
    rw [← closed_markClosed hi, hm]
  cases closed with
  | false =>
    simp only [Bool.not_false, if_true]
    refine (Puts.pure false).conseq (fun _ h => h) fun _ _ s h => ?_
    obtain ⟨-, -, s₀, hi, hm, -⟩ := h
    exact hmarked s₀ s hi hm
  | true =>
    simp only [Bool.not_true, Bool.false_eq_true, if_false]
    refine Puts.spend.bind fun _ _ => (Puts.modify _).bind fun _ _ =>
      (Puts.pure true).conseq (fun _ h => h) fun _ _ s h => ?_
    obtain ⟨-, -, s₂, ⟨⟨s₁, ⟨s₀, hi, hm, -⟩, hE'⟩, -⟩, rfl, -⟩ := h
    exact (Sealed.failPending s₂ i).closed_stay i (hE _ _ hE' (hmarked s₀ s₁ hi hm))

end Link

namespace Client

variable {i : Nat} {E : Memory → Memory → Prop}

/-- Holding the lock with a live connection stored, the handshake is done at once: its segment
runs as the code after it would, from the same state. -/
theorem handshakeHeld_live (connect : Act (Except Failure Nat))
    (k : Except Failure Unit → Program Memory) (t : Nat) (m : Memory) (h : isInitialized m = true) :
    (handshakeHeld connect k).runSegment t m = (k (.ok ())).runSegment t m := by
  obtain ⟨i, hlink, hopen⟩ : ∃ i, m.client.link = some i ∧ (m.link i).closed = false := by
    unfold isInitialized at h
    cases hc : m.client.link with
    | none => simp [hc] at h
    | some i => exact ⟨i, rfl, by simpa [hc] using h⟩
  simp [handshakeHeld, bind, get, Link.isClosed, Async.read, Program.runSegment, hlink, hopen,
    pure]

/-- Holding the lock with no live connection stored, the handshake drops the stored connection
and connects anew. -/
theorem handshakeHeld_dead (connect : Act (Except Failure Nat))
    (k : Except Failure Unit → Program Memory) (t : Nat) (m : Memory) (h : isInitialized m = false) :
    (handshakeHeld connect k).runSegment t m =
      (connectHeld connect k).runSegment t { m with client := { m.client with link := none } } := by
  cases hc : m.client.link with
  | none =>
    have hsame : { m with client := { m.client with link := none } } = m := by rw [← hc]
    simp [handshakeHeld, bind, get, Async.read, Program.runSegment, hc, hsame, pure]
  | some i =>
    have hclosed : (m.link i).closed = true := by simpa [isInitialized, hc] using h
    simp [handshakeHeld, bind, get, modify, Link.isClosed, Async.read, Async.modify,
      Program.runSegment, hc, hclosed, pure]

/-- Keeping or refusing the new connection `i` on the handshake's outcome `r`, whatever the rest
of the host does meanwhile as long as it keeps closed connections closed: every finished run
stores `i` and succeeds only on an answer with a numeric `protocolVersion`; otherwise `i` is closed
when it fails with `InitializationFailed`, carrying the failure of the handshake or naming the
missing `protocolVersion`. -/
theorem greet_outcome
    (hE : ∀ s s', E s s' → (s.link i).closed = true → (s'.link i).closed = true)
    (r : Except Failure Json.Value) :
    Puts i E (fun s => i < s.links.size) (greet i r) fun v _ s =>
      (∃ resp n, r = .ok resp ∧ resp.get? "protocolVersion" = some (.number n) ∧ v = .ok () ∧
        s.client.link = some i) ∨
      ((s.link i).closed = true ∧
        ((∃ e, r = .error e ∧ v = .error (.initializationFailed e.display)) ∨
          (∃ resp, r = .ok resp ∧ (∀ n, resp.get? "protocolVersion" ≠ some (.number n)) ∧
            v = .error (.initializationFailed
              "invalid initialize response: missing numeric protocolVersion")))) := by
  cases r with
  | error e =>
    exact (Link.puts_close hE).bind fun _ _ => (Puts.pure _).conseq (fun _ h => h)
      fun _ _ _ h => .inr ⟨h.2.2, .inl ⟨e, rfl, h.1⟩⟩
  | ok resp =>
    simp only [greet]
    split
    · rename_i n hn
      refine (Puts.modify _).bind fun _ _ => (Puts.pure _).conseq (fun _ h => h) fun _ _ _ h => ?_
      obtain ⟨rfl, -, s, -, rfl, -⟩ := h
      exact .inl ⟨resp, n, rfl, hn, rfl, rfl⟩
    · rename_i hn
      exact (Link.puts_close hE).bind fun _ _ => (Puts.pure _).conseq (fun _ h => h)
        fun _ _ _ h => .inr ⟨h.2.2, .inr ⟨resp, rfl, fun n hv => hn n hv, h.1⟩⟩

/-- Asking for a session with no live connection stored fails with `NotInitialized` at once. -/
theorem newSession_uninitialized (cwd : String) (servers : List Json.Value)
    (k : Except Failure Json.Value → Program Memory) (t : Nat) (m : Memory)
    (h : isInitialized m = false) :
    (newSession cwd servers k).runSegment t m = (k (.error .notInitialized)).runSegment t m := by
  simp [newSession, bind, liveLink, Async.read, Program.runSegment, live_eq_none h, pure]

end Client

theorem keepsLock_agentConnector (n : Nat) : KeepsLock (agentConnector n) :=
  KeepsLock.bind (KeepsLock.read _) fun _ => KeepsLock.ite (KeepsLock.pure _) (KeepsLock.pure _)

/-- Initialisation under the lock, over every interleaving of handshakes, disconnects and a
world that leaves the lock alone, from a state where no ticket is served before it is taken and
no task is under way: the lock's invariant holds in every pool reached; every step makes at most
one connection, only from a state with no live connection stored, and changes the stored
connection only by dropping it or as the holder lets the lock go; the holder is done at once
when a live connection is stored, and otherwise drops it and connects anew; a new connection is
stored only on an answer with a numeric `protocolVersion` and is closed before the handshake
fails otherwise; and a stored connection that has closed counts as none. -/
theorem initialize_under_lock {P R : Pool Memory}
    (hserved : P.state.client.serving ≤ P.state.client.nextTicket)
    (htasks : ∀ p ∈ P.tasks, InitTask p) (hR : Pool.Reaches LockKept InitTask P R) :
    R.LockPhased ∧
    (∀ R', Pool.Step LockKept InitTask R R' → InitStep R.state R'.state) ∧
    (∀ connect k t m, Client.isInitialized m = true →
      (Client.handshakeHeld connect k).runSegment t m = (k (.ok ())).runSegment t m) ∧
    (∀ connect k t m, Client.isInitialized m = false →
      (Client.handshakeHeld connect k).runSegment t m =
        (Client.connectHeld connect k).runSegment t
          { m with client := { m.client with link := none } }) ∧
    (∀ i (E : Memory → Memory → Prop) r,
      (∀ s s', E s s' → (s.link i).closed = true → (s'.link i).closed = true) →
      Puts i E (fun s => i < s.links.size) (Client.greet i r) fun v _ s =>
        (∃ resp n, r = .ok resp ∧ resp.get? "protocolVersion" = some (.number n) ∧ v = .ok () ∧
          s.client.link = some i) ∨
        ((s.link i).closed = true ∧
          ((∃ e, r = .error e ∧ v = .error (.initializationFailed e.display)) ∨
            (∃ resp, r = .ok resp ∧ (∀ n, resp.get? "protocolVersion" ≠ some (.number n)) ∧
              v = .error (.initializationFailed
                "invalid initialize response: missing numeric protocolVersion"))))) ∧
    (∀ (m : Memory) i, m.client.link = some i → (m.link i).closed = true →
      Client.isInitialized m = false) ∧
    (∀ cwd servers k t m, Client.isInitialized m = false →
      (Client.newSession cwd servers k).runSegment t m =
        (k (.error .notInitialized)).runSegment t m) ∧
    (∀ session content sink k t m, Client.isInitialized m = false →
      (Client.prompt session content sink k).runSegment t m =
        (k (.error .notInitialized)).runSegment t m) := by
  have hRp := Pool.Reaches.lockPhased hR (Pool.lockPhased_start hserved htasks)
  exact ⟨hRp, fun _ hs => Pool.Step.initStep hs hRp, Client.handshakeHeld_live,
    Client.handshakeHeld_dead, fun _ _ r hE => Client.greet_outcome hE r,
    fun m i hlink hclosed => by simp [Client.isInitialized, hlink, hclosed],
    Client.newSession_uninitialized, Client.prompt_uninitialized⟩

/-- A client with no connection and one agent's connection open, two handshakes through the
bench's connector and a disconnect, none of them yet started. -/
def handshakesBesideDisconnect : Pool Memory :=
  ⟨((Memory.new (Client.new default)).addLink (Connection.fresh 0 1)).2, 0,
    [(Client.handshake (agentConnector 1)).toProgram,
      (Client.handshake (agentConnector 1)).toProgram, Client.disconnect.toProgram]⟩

/-- Both handshakes of `handshakesBesideDisconnect` take a ticket, the disconnect runs, and the
first handshake, served, connects while the second waits for its turn: along that run the pool
keeps the lock's invariant, and each next step is one the lock allows. -/
theorem initialize_under_lock_fresh : ∃ R : Pool Memory,
    Pool.Reaches LockKept InitTask handshakesBesideDisconnect R ∧
      R.state.client.nextTicket = 2 ∧ R.state.client.serving = 0 ∧
      R.state.client.connections = 1 ∧ R.LockPhased ∧
      ∀ R', Pool.Step LockKept InitTask R R' → InitStep R.state R'.state := by
  have htasks : ∀ p ∈ handshakesBesideDisconnect.tasks, InitTask p := by
    intro p hp
    simp only [handshakesBesideDisconnect, List.mem_cons, List.not_mem_nil, or_false] at hp
    rcases hp with rfl | rfl | rfl
    · exact .handshake (keepsLock_agentConnector 1)
    · exact .handshake (keepsLock_agentConnector 1)
    · exact .disconnect
  -- both handshakes take a ticket and the disconnect runs; the first handshake, served, then
  -- connects and sends its request
  have hr : Pool.Reaches LockKept InitTask handshakesBesideDisconnect _ :=
    .step (.run (k := 0) rfl rfl) (.step (.run (k := 1) rfl rfl) (.step (.run (k := 2) rfl rfl)
      (.step (.run (k := 0) rfl rfl) (.step (.run (k := 0) rfl rfl) (.refl _)))))
  obtain ⟨hphased, hsteps, -⟩ := initialize_under_lock (Nat.le_refl 0) htasks hr
  exact ⟨_, hr, by decide, by decide, by decide, hphased, hsteps⟩

end AgentLink
