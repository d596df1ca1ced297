import Mathlib
import AgentLink.Proofs.WaitPhases
import AgentLink.Proofs.TurnGuarantee

/-!
# The initialisation lock's guarantee

Initialisation is serialised by a ticket lock: a caller takes the next ticket and waits until it
is served; it then checks for a live connection, connects and makes the handshake if there is
none, and lets the lock go by serving the next ticket. Each task carries a ghost phase: `idle`,
`queued t` from taking ticket `t` to the end of its wait, and `holding t` from there to letting
the lock go.

`LockMove` is what every segment of every task guarantees. A task holding no ticket takes the
next one, or leaves the tickets, the count of connections made and the stored connection alone,
at most dropping the stored connection. A task whose ticket is served finds a live connection and
lets the lock go at once, changing nothing else, or holds the lock: the stored connection is
dropped, at most one connection is made per segment, and the stored connection changes only in
the segment that lets the lock go. `KeepsLock` says this of code that leaves the lock, the count
and the stored connection alone, whatever follows it; it is proved here of each operation a
handshake runs on a connection. The handshake and the client's `disconnect` keep the guarantee
(`Client.handshake_wsafe`, `Client.disconnect_wsafe`).
-/

namespace AgentLink

open Concurrency Async

/-- Where a task stands with respect to the initialisation lock. -/
inductive InitPhase where
  /-- Holding no ticket. -/
  | idle
  /-- Holding ticket `t`, waiting for it to be served. -/
  | queued (t : Nat)
  /-- Holding the lock under ticket `t`. -/
  | holding (t : Nat)
  deriving DecidableEq

namespace Memory

/-- A change that leaves the tickets, the count of connections made and the stored connection
alone. -/
structure LockKept (s s' : Memory) : Prop where
  link : s'.client.link = s.client.link
  connections : s'.client.connections = s.client.connections
  nextTicket : s'.client.nextTicket = s.client.nextTicket
  serving : s'.client.serving = s.client.serving

theorem LockKept.refl (s : Memory) : LockKept s s := ⟨rfl, rfl, rfl, rfl⟩

theorem LockKept.trans {s₁ s₂ s₃ : Memory} (h₁ : LockKept s₁ s₂) (h₂ : LockKept s₂ s₃) :
    LockKept s₁ s₃ :=
  ⟨h₂.link.trans h₁.link, h₂.connections.trans h₁.connections, h₂.nextTicket.trans h₁.nextTicket,
    h₂.serving.trans h₁.serving⟩

theorem LockKept.of_client {s s' : Memory} (h : s'.client = s.client) : LockKept s s' :=
  ⟨by rw [h], by rw [h], by rw [h], by rw [h]⟩

/-- A segment of the lock's holder: it takes no ticket and makes at most one connection, and it
either still holds the lock under ticket `t` or lets it go by serving the next ticket. -/
structure HeldStep (t : Nat) (s₀ s : Memory) (g : InitPhase) : Prop where
  nextTicket : s.client.nextTicket = s₀.client.nextTicket
  connections : s.client.connections = s₀.client.connections ∨
    s.client.connections = s₀.client.connections + 1
  serving : g = .holding t ∧ s.client.serving = s₀.client.serving ∨
    g = .idle ∧ s.client.serving = s₀.client.serving + 1

/-- Letting the lock go: the next ticket is served, and the tickets, the count of connections
made and the stored connection stay. -/
structure LetsGo (s s' : Memory) : Prop where
  link : s'.client.link = s.client.link
  connections : s'.client.connections = s.client.connections
  nextTicket : s'.client.nextTicket = s.client.nextTicket
  serving : s'.client.serving = s.client.serving + 1

namespace HeldStep

variable {t : Nat} {s₀ s s' : Memory}

/-- A holder's segment that still holds the lock holds it under its own ticket. -/
theorem ticket_eq {t' : Nat} (h : HeldStep t s₀ s (.holding t')) : t' = t := by
  rcases h.serving with ⟨h, -⟩ | ⟨h, -⟩
  · exact InitPhase.holding.inj h
  · cases h

theorem serving_eq (h : HeldStep t s₀ s (.holding t)) : s.client.serving = s₀.client.serving := by
  rcases h.serving with ⟨-, h⟩ | ⟨h, -⟩
  · exact h
  · cases h

/-- The holder lets the lock go, whatever the stored connection has become. -/
theorem letGo (h : HeldStep t s₀ s (.holding t))
    (hnext : s'.client.nextTicket = s.client.nextTicket)
    (hconn : s'.client.connections = s.client.connections)
    (hserving : s'.client.serving = s.client.serving + 1) : HeldStep t s₀ s' .idle :=
  ⟨hnext.trans h.nextTicket, hconn ▸ h.connections, .inr ⟨rfl, by rw [hserving, h.serving_eq]⟩⟩

/-- The holder makes its one connection of the segment. -/
theorem connect (h : HeldStep t s₀ s (.holding t))
    (hnone : s.client.connections = s₀.client.connections)
    (hnext : s'.client.nextTicket = s.client.nextTicket)
    (hconn : s'.client.connections = s.client.connections + 1)
    (hserving : s'.client.serving = s.client.serving) : HeldStep t s₀ s' (.holding t) :=
  ⟨hnext.trans h.nextTicket, .inr (by rw [hconn, hnone]), .inl ⟨rfl, hserving.trans h.serving_eq⟩⟩

end HeldStep

end Memory

open Memory

/-- What a segment of a task does to the initialisation lock, from phase `g₀` and state `s₀` to
phase `g` and state `s`. -/
inductive LockMove : InitPhase → Memory → Memory → InitPhase → Prop
  /-- A task holding no ticket leaves the tickets and the count alone, and at most drops the
  stored connection. -/
  | aside {s₀ s : Memory} (hnext : s.client.nextTicket = s₀.client.nextTicket)
      (hserving : s.client.serving = s₀.client.serving)
      (hconn : s.client.connections = s₀.client.connections)
      (hlink : s.client.link = s₀.client.link ∨ s.client.link = none) : LockMove .idle s₀ s .idle
  /-- It takes the next ticket, and waits for it to be served. -/
  | take {s₀ s : Memory} (hnext : s.client.nextTicket = s₀.client.nextTicket + 1)
      (hserving : s.client.serving = s₀.client.serving)
      (hconn : s.client.connections = s₀.client.connections)
      (hlink : s.client.link = s₀.client.link) :
      LockMove .idle s₀ s (.queued s₀.client.nextTicket)
  /-- Its ticket served, it finds a live connection stored and lets the lock go, changing
  nothing else of the lock's. -/
  | found {t : Nat} {s₀ s : Memory} (hserved : s₀.client.serving = t)
      (hlive : Client.isInitialized s₀ = true) (hnext : s.client.nextTicket = s₀.client.nextTicket)
      (hserving : s.client.serving = s₀.client.serving + 1)
      (hconn : s.client.connections = s₀.client.connections)
      (hlink : s.client.link = s₀.client.link) : LockMove (.queued t) s₀ s .idle
  /-- Its ticket served, with no live connection stored, it holds the lock: it drops the stored
  connection, and holds none while it holds the lock. -/
  | enter {t : Nat} {s₀ s : Memory} {g : InitPhase} (hserved : s₀.client.serving = t)
      (hdead : Client.isInitialized s₀ = false) (hlink : g = .holding t → s.client.link = none)
      (hstep : HeldStep t s₀ s g) : LockMove (.queued t) s₀ s g
  /-- Holding the lock, it leaves the stored connection alone until it lets the lock go. -/
  | hold {t : Nat} {s₀ s : Memory} {g : InitPhase}
      (hlink : g = .holding t → s.client.link = s₀.client.link) (hstep : HeldStep t s₀ s g) :
      LockMove (.holding t) s₀ s g

/-- The lock's guarantee, as a guarantee of segments. -/
def LockGuarantee (g₀ : InitPhase) (s₀ s : Memory) (_ : Program Memory) (g : InitPhase) : Prop :=
  LockMove g₀ s₀ s g

namespace LockMove

variable {g₀ g : InitPhase} {s₀ s s' : Memory}

/-- A move stays one through a change that leaves the lock alone. -/
theorem kept (h : LockMove g₀ s₀ s g) (hk : LockKept s s') : LockMove g₀ s₀ s' g := by
  have hstep : ∀ {t}, HeldStep t s₀ s g → HeldStep t s₀ s' g := fun hs =>
    ⟨hk.nextTicket.trans hs.nextTicket, by rw [hk.connections]; exact hs.connections,
      by rw [hk.serving]; exact hs.serving⟩
  cases h with
  | aside hnext hserving hconn hlink =>
    exact .aside (hk.nextTicket.trans hnext) (hk.serving.trans hserving)
      (hk.connections.trans hconn) (by rw [hk.link]; exact hlink)
  | take hnext hserving hconn hlink =>
    exact .take (hk.nextTicket.trans hnext) (hk.serving.trans hserving)
      (hk.connections.trans hconn) (hk.link.trans hlink)
  | found hserved hlive hnext hserving hconn hlink =>
    exact .found hserved hlive (hk.nextTicket.trans hnext) (hk.serving.trans hserving)
      (hk.connections.trans hconn) (hk.link.trans hlink)
  | enter hserved hdead hlink hs =>
    exact .enter hserved hdead (fun hg => hk.link.trans (hlink hg)) (hstep hs)
  | hold hlink hs => exact .hold (fun hg => hk.link.trans (hlink hg)) (hstep hs)

/-- The holder of the lock may let it go at any point of a segment, whatever the stored
connection has become meanwhile. -/
theorem release {t : Nat} (h : LockMove g₀ s₀ s (.holding t))
    (hnext : s'.client.nextTicket = s.client.nextTicket)
    (hconn : s'.client.connections = s.client.connections)
    (hserving : s'.client.serving = s.client.serving + 1) : LockMove g₀ s₀ s' .idle := by
  cases h with
  | enter hserved hdead _ hs =>
    obtain rfl := hs.ticket_eq
    exact .enter hserved hdead (fun hg => by cases hg) (hs.letGo hnext hconn hserving)
  | hold _ hs =>
    obtain rfl := hs.ticket_eq
    exact .hold (fun hg => by cases hg) (hs.letGo hnext hconn hserving)

/-- The holder of the lock makes its one connection of the segment. -/
theorem connect {t : Nat} (h : LockMove g₀ s₀ s (.holding t))
    (hnone : s.client.connections = s₀.client.connections)
    (hlink : s'.client.link = s.client.link) (hnext : s'.client.nextTicket = s.client.nextTicket)
    (hconn : s'.client.connections = s.client.connections + 1)
    (hserving : s'.client.serving = s.client.serving) : LockMove g₀ s₀ s' (.holding t) := by
  cases h with
  | enter hserved hdead hl hs =>
    obtain rfl := hs.ticket_eq
    exact .enter hserved hdead (fun hg => hlink.trans (hl hg)) (hs.connect hnone hnext hconn hserving)
  | hold hl hs =>
    obtain rfl := hs.ticket_eq
    exact .hold (fun hg => hlink.trans (hl hg)) (hs.connect hnone hnext hconn hserving)

/-- A task whose ticket is served, finding no live connection, holds the lock once none is
stored. -/
theorem enter_of {t : Nat} (hserved : s₀.client.serving = t) (hdead : Client.isInitialized s₀ = false)
    (hlink : s.client.link = none) (hnext : s.client.nextTicket = s₀.client.nextTicket)
    (hconn : s.client.connections = s₀.client.connections)
    (hserving : s.client.serving = s₀.client.serving) : LockMove (.queued t) s₀ s (.holding t) :=
  .enter hserved hdead (fun _ => hlink) ⟨hnext, .inl hconn, .inl ⟨rfl, hserving⟩⟩

/-- A segment that starts holding the lock and does nothing is a move. -/
theorem rest (t : Nat) (s : Memory) : LockMove (.holding t) s s (.holding t) :=
  .hold (fun _ => rfl) ⟨rfl, .inl rfl, .inl ⟨rfl, rfl⟩⟩

/-- A segment that starts with no ticket and does nothing is a move. -/
theorem idle (s : Memory) : LockMove .idle s s .idle := .aside rfl rfl rfl (.inl rfl)

end LockMove

/-- A stretch of a segment run in phase `g`: what has happened since the segment began, after
which the task may give way, which holds when the segment has just begun, and which every change
that leaves the lock alone keeps. -/
structure Stretch (g : InitPhase) (R : InitPhase → Memory → Memory → Prop) : Prop where
  move : ∀ g₀ s₀ s, R g₀ s₀ s → LockMove g₀ s₀ s g
  fresh : ∀ s, R g s s
  kept : ∀ g₀ s₀ s s', R g₀ s₀ s → LockKept s s' → R g₀ s₀ s'

/-- Code that keeps the lock's guarantee whatever follows it, in any stretch of a segment, its
task staying in its phase. -/
def KeepsLock {α : Type} (a : Act α) : Prop :=
  ∀ g R, Stretch g R → TripleP LockGuarantee (fun _ _ => True) .idle
    (fun g₀ g' s₀ s => g' = g ∧ R g₀ s₀ s) a fun _ g₀ g' s₀ s => g' = g ∧ R g₀ s₀ s

namespace KeepsLock

variable {α β : Type}

theorem pure (v : α) : KeepsLock (Pure.pure v : Act α) := fun _ _ _ => TripleP.pure v

theorem bind {a : Act α} {f : α → Act β} (ha : KeepsLock a) (hf : ∀ v, KeepsLock (f v)) :
    KeepsLock (a >>= f) :=
  fun g R hR => TripleP.bind (ha g R hR) fun v => hf v g R hR

theorem ite {c : Prop} [Decidable c] {a b : Act α} (ha : KeepsLock a) (hb : KeepsLock b) :
    KeepsLock (if c then a else b) :=
  fun g R hR => TripleP.ite (ha g R hR) (hb g R hR)

/-- A change that leaves the lock alone. -/
theorem modify {f : Memory → Memory} (h : ∀ s, LockKept s (f s)) : KeepsLock (Async.modify f) :=
  fun g _ hR => TripleP.conseq (TripleP.modify f)
    (fun _ _ _ s hs => ⟨trivial, g, rfl, hR.kept _ _ _ _ hs.2 (h s)⟩) fun _ _ _ _ _ h => h

theorem modifyGet {f : Memory → α × Memory} (h : ∀ s, LockKept s (f s).2) :
    KeepsLock (Async.modifyGet f) :=
  fun g _ hR => TripleP.conseq (TripleP.modifyGet f)
    (fun _ _ _ s hs => ⟨trivial, g, rfl, hR.kept _ _ _ _ hs.2 (h s)⟩) fun _ _ _ _ _ h => h

theorem read (f : Memory → α) : KeepsLock (Async.read f) := fun _ _ _ => TripleP.read f

theorem now : KeepsLock (Async.now : Act Nat) := fun _ _ _ =>
  TripleP.conseq TripleP.now (fun _ _ _ _ h _ => h) fun _ _ _ _ _ h => h

/-- Giving way ends the segment in a move, and the next one begins afresh. -/
theorem spend : KeepsLock (Async.spend : Act Unit) := fun g _ hR =>
  TripleP.conseq TripleP.spend
    (fun _ _ _ _ h => by
      obtain ⟨rfl, hr⟩ := h
      exact ⟨fun _ => hR.move _ _ _ hr, fun s' => ⟨rfl, hR.fresh s'⟩⟩)
    fun _ _ _ _ _ h => h

theorem waitUntil (ready : Memory → Bool) (deadline : Option Nat) :
    KeepsLock (Async.waitUntil ready deadline) := fun g _ hR =>
  TripleP.conseq (TripleP.waitUntil ready deadline)
    (fun _ _ _ _ h => by
      obtain ⟨rfl, hr⟩ := h
      exact ⟨fun _ => hR.move _ _ _ hr, fun s' => ⟨rfl, hR.fresh s'⟩⟩)
    fun _ _ _ _ _ h => h

theorem sleep (ms : Nat) : KeepsLock (Async.sleep ms : Act Unit) := fun g _ hR =>
  TripleP.conseq (TripleP.sleep ms)
    (fun _ _ _ _ h => by
      obtain ⟨rfl, hr⟩ := h
      exact ⟨fun _ => hR.move _ _ _ hr, fun s' => ⟨rfl, hR.fresh s'⟩⟩)
    fun _ _ _ _ _ h => h

/-- A change of connection `i`. -/
theorem modifyLink (i : Nat) (f : Connection → Connection) : KeepsLock (Link.modify i f) :=
  modify fun _ => LockKept.of_client rfl

end KeepsLock

/-- Letting the lock go now would end the segment in a move. -/
def Releasable (g₀ : InitPhase) (s₀ s : Memory) : Prop :=
  ∀ s', LetsGo s s' → LockMove g₀ s₀ s' .idle

/-- Once the holder's stretch is a move that still holds the lock, it may let the lock go, also
after storing a connection. -/
theorem LockMove.releasable {g₀ : InitPhase} {s₀ s s' : Memory} {t : Nat}
    (h : LockMove g₀ s₀ s (.holding t)) (hnext : s'.client.nextTicket = s.client.nextTicket)
    (hconn : s'.client.connections = s.client.connections)
    (hserving : s'.client.serving = s.client.serving) : Releasable g₀ s₀ s' :=
  fun _ h' => h.release (h'.nextTicket.trans hnext) (h'.connections.trans hconn)
    (by rw [h'.serving, hserving])

/-- The holder's stretch: a move that still holds the lock. -/
theorem holding_stretch (t : Nat) :
    Stretch (.holding t) fun g₀ s₀ s => LockMove g₀ s₀ s (.holding t) :=
  ⟨fun _ _ _ h => h, LockMove.rest t, fun _ _ _ _ h hk => h.kept hk⟩

/-- The holder's stretch before it has made a connection in the segment. -/
def Unconnected (t : Nat) (g₀ : InitPhase) (s₀ s : Memory) : Prop :=
  LockMove g₀ s₀ s (.holding t) ∧ s.client.connections = s₀.client.connections

theorem unconnected_stretch (t : Nat) : Stretch (.holding t) (Unconnected t) :=
  ⟨fun _ _ _ h => h.1, fun s => ⟨LockMove.rest t s, rfl⟩,
    fun _ _ _ _ h hk => ⟨h.1.kept hk, hk.connections.trans h.2⟩⟩

namespace Link

variable (i : Nat)

theorem keepsLock_waitForRoom : KeepsLock (Link.waitForRoom i) := by
  unfold Link.waitForRoom
  exact KeepsLock.bind (KeepsLock.read _) fun _ =>
    KeepsLock.ite (KeepsLock.waitUntil _ _) (KeepsLock.pure ())

theorem keepsLock_enqueue (msg : Message) : KeepsLock (Link.enqueue i msg) := by
  unfold Link.enqueue
  refine KeepsLock.bind KeepsLock.spend fun _ => KeepsLock.bind (keepsLock_waitForRoom i) fun _ =>
    KeepsLock.modifyGet fun s => ?_
  split <;> exact LockKept.of_client rfl

theorem keepsLock_shutdown : KeepsLock (Link.shutdown i) := by
  unfold Link.shutdown
  refine KeepsLock.bind (KeepsLock.modifyGet fun s => LockKept.of_client (by simp)) fun closed => ?_
  refine KeepsLock.ite (KeepsLock.pure _) ?_
  exact KeepsLock.bind KeepsLock.spend fun _ =>
    KeepsLock.bind (KeepsLock.modify fun s => LockKept.of_client (by simp)) fun _ =>
      KeepsLock.pure _

theorem keepsLock_close : KeepsLock (Link.close i) :=
  KeepsLock.bind (keepsLock_shutdown i) fun _ => KeepsLock.pure ()

theorem keepsLock_awaitCell (c : Nat) : KeepsLock (Act.awaitCell c) :=
  KeepsLock.bind (KeepsLock.waitUntil _ _) fun _ => KeepsLock.read _

theorem keepsLock_sendRequest (method : String) (params : Json.Value) (timeout : Option Duration) :
    KeepsLock (Link.sendRequest i method params timeout) := by
  unfold Link.sendRequest
  refine KeepsLock.bind (KeepsLock.modifyGet fun _ => LockKept.of_client rfl) fun id =>
    KeepsLock.bind (KeepsLock.modifyGet fun _ => LockKept.of_client rfl) fun cell =>
      KeepsLock.bind (KeepsLock.read _) fun _ => KeepsLock.ite (KeepsLock.pure _) ?_
  refine KeepsLock.bind (KeepsLock.modifyLink i _) fun _ =>
    KeepsLock.bind (keepsLock_enqueue i _) fun queued =>
      KeepsLock.ite (KeepsLock.bind (KeepsLock.modifyLink i _) fun _ => KeepsLock.pure _) ?_
  cases timeout with
  | none => exact KeepsLock.bind (keepsLock_awaitCell cell) fun _ => KeepsLock.pure _
  | some limit =>
    exact KeepsLock.bind KeepsLock.now fun _ => KeepsLock.bind (KeepsLock.waitUntil _ _) fun _ =>
      KeepsLock.bind (KeepsLock.read _) fun _ => KeepsLock.ite (KeepsLock.pure _)
        (KeepsLock.bind (KeepsLock.modifyLink i _) fun _ => KeepsLock.pure _)

end Link

namespace Client

theorem keepsLock_retrying {α : Type} (p : RetryPolicy) {op : Act (Except Failure α)}
    (hop : KeepsLock op) : ∀ attempt fuel, KeepsLock (retrying p op attempt fuel)
  | _, 0 => hop
  | attempt, fuel + 1 => by
    rw [retrying]
    refine KeepsLock.bind hop fun r => ?_
    split
    · exact KeepsLock.pure _
    · exact KeepsLock.ite (KeepsLock.bind (KeepsLock.sleep _) fun _ => keepsLock_retrying p hop _ fuel)
        (KeepsLock.pure _)

theorem keepsLock_modifyTurn (f : Turn → Turn) : KeepsLock (modifyTurn f) :=
  KeepsLock.modify fun _ => ⟨rfl, rfl, rfl, rfl⟩

theorem keepsLock_registerHandlers (i : Nat) : KeepsLock (registerHandlers i) := by
  unfold registerHandlers
  refine KeepsLock.bind (KeepsLock.modifyLink i _) fun _ => KeepsLock.bind (KeepsLock.read _) fun _ => ?_
  exact KeepsLock.ite (KeepsLock.modifyLink i _) (KeepsLock.pure ())

end Client

namespace Client

variable {connect : Act (Except Failure Nat)}

/-- After the handshake's attempts, the holder stores the new connection or closes it, and may
then let the lock go. -/
theorem greet_lock (t i : Nat) (r : Except Failure Json.Value) :
    TripleP LockGuarantee (fun _ _ => True) .idle
      (fun g₀ g s₀ s => g = .holding t ∧ LockMove g₀ s₀ s (.holding t)) (greet i r)
      fun _ g₀ g s₀ s => g = .holding t ∧ Releasable g₀ s₀ s := by
  have hdone : ∀ v : Except Failure Unit, TripleP LockGuarantee (fun _ _ => True) .idle
      (fun g₀ g s₀ s => g = .holding t ∧ LockMove g₀ s₀ s (.holding t)) (Pure.pure v : Act _)
      fun _ g₀ g s₀ s => g = .holding t ∧ Releasable g₀ s₀ s := fun v =>
    TripleP.conseq (TripleP.pure v) (fun _ _ _ _ h => ⟨h.1, h.2.releasable rfl rfl rfl⟩)
      fun _ _ _ _ _ h => h
  unfold greet
  cases r with
  | error e => exact TripleP.bind (Link.keepsLock_close i _ _ (holding_stretch t)) fun _ => hdone _
  | ok resp =>
    dsimp only
    split
    · -- a numeric protocolVersion: the connection is stored, and the lock may be let go
      refine TripleP.bind (TripleP.conseq
        (TripleP.modify (Q := fun _ g₀ g s₀ s => g = .holding t ∧ Releasable g₀ s₀ s) _)
        (fun _ _ _ _ h => ⟨trivial, .holding t, rfl, h.2.releasable rfl rfl rfl⟩)
        fun _ _ _ _ _ h => h) fun _ => ?_
      exact TripleP.pure _
    · exact TripleP.bind (Link.keepsLock_close i _ _ (holding_stretch t)) fun _ => hdone _

/-- Connecting and making the handshake: the one connection made is counted, and the holder may
let the lock go at the end. -/
theorem connectHeld_lock (t : Nat) (hconn : KeepsLock connect) :
    TripleP LockGuarantee (fun _ _ => True) .idle
      (fun g₀ g s₀ s => g = .holding t ∧ Unconnected t g₀ s₀ s) (connectHeld connect)
      fun _ g₀ g s₀ s => g = .holding t ∧ Releasable g₀ s₀ s := by
  unfold connectHeld
  refine TripleP.bind (hconn _ _ (unconnected_stretch t)) fun r => ?_
  cases r with
  | error e =>
    exact TripleP.conseq (TripleP.pure _) (fun _ _ _ _ h => ⟨h.1, h.2.1.releasable rfl rfl rfl⟩)
      fun _ _ _ _ _ h => h
  | ok i =>
    dsimp only
    -- the connection made is counted, once in the segment
    refine TripleP.bind (TripleP.conseq
      (TripleP.modify (Q := fun _ g₀ g s₀ s => g = .holding t ∧ LockMove g₀ s₀ s (.holding t)) _)
      (fun _ _ _ _ h => ⟨trivial, .holding t, rfl, h.2.1.connect h.2.2 rfl rfl rfl rfl⟩)
      fun _ _ _ _ _ h => h) fun _ => ?_
    refine TripleP.bind (keepsLock_registerHandlers i _ _ (holding_stretch t)) fun _ =>
      TripleP.bind (KeepsLock.read _ _ _ (holding_stretch t)) fun _ => ?_
    exact TripleP.bind (keepsLock_retrying _ (Link.keepsLock_sendRequest i _ _ _) _ _ _ _
      (holding_stretch t)) fun r => greet_lock t i r

/-- The held part of the handshake, from the moment the caller's ticket is served: it finds a live
connection and may let the lock go at once, or it drops a dead one and connects. -/
theorem handshakeHeld_lock (t : Nat) (hconn : KeepsLock connect) :
    TripleP LockGuarantee (fun _ _ => True) .idle
      (fun g₀ g s₀ s => g₀ = .queued t ∧ g = .holding t ∧ s₀ = s ∧ s.client.serving = t)
      (handshakeHeld connect) fun _ g₀ g s₀ s => g = .holding t ∧ Releasable g₀ s₀ s := by
  unfold handshakeHeld
  refine TripleP.bind (Q := fun c g₀ g s₀ s =>
      g₀ = .queued t ∧ g = .holding t ∧ s₀ = s ∧ s.client.serving = t ∧ c = s.client)
    (TripleP.conseq (TripleP.read _) (fun _ _ _ _ h => ⟨h.1, h.2.1, h.2.2.1, h.2.2.2, rfl⟩)
      fun _ _ _ _ _ h => h) fun c => ?_
  dsimp only
  split
  · rename_i i hi
    refine TripleP.bind (Q := fun b g₀ g s₀ s => g₀ = .queued t ∧ g = .holding t ∧ s₀ = s ∧
        s.client.serving = t ∧ s.client.link = some i ∧ b = (s.link i).closed)
      (TripleP.conseq (TripleP.read _) (fun _ _ _ _ h => ⟨h.1, h.2.1, h.2.2.1, h.2.2.2.1,
        h.2.2.2.2 ▸ hi, rfl⟩) fun _ _ _ _ _ h => h) fun b => ?_
    split
    · -- a live connection: the caller may let the lock go at once
      rename_i hopen
      refine TripleP.conseq (TripleP.pure _) (fun g₀ g s₀ s h => ?_) fun _ _ _ _ _ h => h
      obtain ⟨rfl, rfl, rfl, hserved, hlink, rfl⟩ := h
      have hlive : Client.isInitialized s₀ = true := by
        simpa [Client.isInitialized, hlink] using hopen
      exact ⟨rfl, fun s' h' => .found hserved hlive h'.nextTicket h'.serving h'.connections h'.link⟩
    · -- a dead one is dropped, and the caller connects
      rename_i hdead
      refine TripleP.bind (TripleP.conseq
        (TripleP.modify (Q := fun _ g₀ g s₀ s => g = .holding t ∧ Unconnected t g₀ s₀ s) _)
        (fun g₀ g s₀ s h => ?_) fun _ _ _ _ _ h => h) fun _ => connectHeld_lock t hconn
      obtain ⟨rfl, rfl, rfl, hserved, hlink, rfl⟩ := h
      have hdead' : Client.isInitialized s₀ = false := by
        simpa [Client.isInitialized, hlink] using hdead
      exact ⟨trivial, .holding t, rfl, LockMove.enter_of hserved hdead' rfl rfl rfl rfl, rfl⟩
  · -- none stored: the caller connects
    rename_i hnone
    refine TripleP.conseq (connectHeld_lock t hconn) (fun g₀ g s₀ s h => ?_) fun _ _ _ _ _ h => h
    obtain ⟨rfl, rfl, rfl, hserved, rfl⟩ := h
    have hlink : s₀.client.link = none := by
      cases h : s₀.client.link with
      | none => rfl
      | some i => exact absurd h (hnone i)
    have hdead : Client.isInitialized s₀ = false := by simp [Client.isInitialized, hlink]
    exact ⟨rfl, LockMove.enter_of hserved hdead hlink rfl rfl rfl, rfl⟩

/-- The held part of the handshake followed by letting the lock go ends the task's last segment in
a move, the task holding no ticket. -/
theorem heldThenRelease_lock (t : Nat) (hconn : KeepsLock connect) :
    TripleP LockGuarantee (fun _ _ => True) .idle
      (fun g₀ g s₀ s => g₀ = .queued t ∧ g = .holding t ∧ s₀ = s ∧ s.client.serving = t)
      (do
        let r ← handshakeHeld connect
        modify fun c => { c with serving := c.serving + 1 }
        return r)
      fun _ g₀ g s₀ s => LockGuarantee g₀ s₀ s .done g := by
  refine TripleP.bind (handshakeHeld_lock t hconn) fun r => ?_
  refine TripleP.bind (Q := fun _ g₀ g s₀ s => g = .idle ∧ LockMove g₀ s₀ s .idle)
    (TripleP.conseq (TripleP.modify _)
      (fun _ _ _ _ h => ⟨trivial, .idle, rfl, h.2 _ ⟨rfl, rfl, rfl, rfl⟩⟩) fun _ _ _ _ _ h => h)
    fun _ => TripleP.conseq (TripleP.pure r) ?_ fun _ _ _ _ _ h => h
  rintro g₀ g s₀ s ⟨rfl, h⟩
  exact h

theorem handshake_toProgram (connect : Act (Except Failure Nat)) : (handshake connect).toProgram =
    .look fun _ s => .update
      (fun _ => { s with client := { s.client with nextTicket := s.client.nextTicket + 1 } })
      (.wait (fun m => m.client.serving == s.client.nextTicket) none
        ((do
          let r ← handshakeHeld connect
          modify fun c => { c with serving := c.serving + 1 }
          return r : Act _) fun _ => .done)) := rfl

/-- A handshake keeps the lock's guarantee: its first segment takes the next ticket, and once
that ticket is served its task holds the lock until it lets it go. -/
theorem handshake_wsafe (hconn : KeepsLock connect) :
    (handshake connect).toProgram.WSafe LockGuarantee (fun _ _ => True) .idle .idle := by
  intro s₀
  rw [handshake_toProgram]
  intro _
  refine ⟨trivial, .queued s₀.client.nextTicket, .take rfl rfl rfl rfl, fun s hready => ?_⟩
  -- the wait ends only once the ticket is served
  have hserved : s.client.serving = s₀.client.nextTicket := by simpa using hready
  exact ⟨.holding s₀.client.nextTicket, Program.PGuards.wguards
    (heldThenRelease_lock _ hconn (fun _ => .done) (fun _ _ _ _ _ h => h) _ _ _ _ ⟨rfl, rfl, rfl, hserved⟩)⟩

/-- A task with no ticket: a stretch that has been a move of such a task so far. -/
theorem aside_stretch : Stretch .idle fun g₀ s₀ s => g₀ = .idle ∧ LockMove g₀ s₀ s .idle :=
  ⟨fun _ _ _ h => h.2, fun s => ⟨rfl, LockMove.idle s⟩, fun _ _ _ _ h hk => ⟨h.1, h.2.kept hk⟩⟩

/-- Dropping the connection keeps the lock's guarantee: it drops the stored connection and takes
no ticket. -/
theorem disconnect_wsafe : disconnect.toProgram.WSafe LockGuarantee (fun _ _ => True) .idle .idle := by
  refine Program.PSafe.wsafe (TripleP.safe ?_)
  unfold disconnect
  refine TripleP.bind (TripleP.conseq
    (TripleP.modifyGet (Q := fun _ g₀ g s₀ s => g = .idle ∧ g₀ = .idle ∧ LockMove g₀ s₀ s .idle) _)
    (fun g₀ g s₀ s h => ?_) fun _ _ _ _ _ h => h) fun link => ?_
  · obtain ⟨rfl, rfl, rfl⟩ := h
    exact ⟨trivial, .idle, rfl, rfl, .aside rfl rfl rfl (.inr rfl)⟩
  · have hdone : TripleP LockGuarantee (fun _ _ => True) .idle
        (fun g₀ g s₀ s => g = .idle ∧ g₀ = .idle ∧ LockMove g₀ s₀ s .idle)
        (Pure.pure (.ok .null) : Act (Except Failure Json.Value))
        fun _ g₀ g s₀ s => LockGuarantee g₀ s₀ s .done g :=
      TripleP.conseq (TripleP.pure _) (fun _ _ _ _ ⟨hg, _, h⟩ => hg ▸ h) fun _ _ _ _ _ h => h
    dsimp only
    split
    · exact TripleP.bind (keepsLock_modifyTurn _ _ _ aside_stretch)
        fun _ => TripleP.bind (Link.keepsLock_close _ _ _ aside_stretch) fun _ => hdone
    · exact hdone

end Client

end AgentLink
