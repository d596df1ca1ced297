import Mathlib
import AgentLink.Bench.Run
import AgentLink.Cli.Run
import AgentLink.Proofs.HookTasks

/-!
# What a task puts on a connection's queue

A message reaches the agent only through the queue of its connection, which the writer empties
in order. Which messages a task puts there is a question about all its runs, in any
interleaving: `Program.Puts i E p s ms` says that `p`, started in state `s`, has a finished run
(its own and those of the tasks it starts) in which, all in all, it puts `ms` on the queue of
connection `i`. Whenever the task gives way, the rest of the host may move the state from `s` to
any `s'` with `E s s'`; within a segment nothing but the task runs, so what a segment puts is
what the queue holds at its end beyond what it held at its start (`Memory.queued`).

`Async.Puts` is the same for code that goes on with a continuation, in the manner of a Hoare
triple: every finished run of `a` followed by `k` is a finished run of `a`, which puts `put` and
returns `v` in a state where the postcondition holds, followed by one of `k v`. The rules below
give it for each primitive and for `bind`; `Hooks.Quiet` asks it of the listeners and responders,
and the bench's and the client's keep it.
-/

namespace AgentLink

open Concurrency

namespace Memory

/-- What the queue of connection `i` holds at `s'` beyond what it held at `s`. -/
def queued (i : Nat) (s s' : Memory) : List Message :=
  (s'.link i).outbox.drop (s.link i).outbox.length

theorem queued_of_outbox {i : Nat} {s s' : Memory} (h : (s'.link i).outbox = (s.link i).outbox) :
    queued i s s' = [] := by
  simp [queued, h]

theorem outbox_of_links {i : Nat} {s s' : Memory} (h : s'.links = s.links) :
    (s'.link i).outbox = (s.link i).outbox := by
  simp only [link, h]

/-- A change of one connection that keeps its queue keeps every queue. -/
theorem outbox_modifyLink (s : Memory) (i j : Nat) {f : Connection → Connection}
    (hf : (f (s.link j)).outbox = (s.link j).outbox) :
    ((s.modifyLink j f).link i).outbox = (s.link i).outbox :=
  link_modifyLink_rel s (fun c c' => c'.outbox = c.outbox) (fun _ => rfl) hf i

/-- Only a connection that exists has a queue the writer takes messages from. -/
theorem lt_of_outboxOpen {s : Memory} {i : Nat} (h : (s.link i).outboxOpen = true) :
    i < s.links.size := by
  by_contra hi
  rw [link_of_le s (Nat.le_of_not_lt hi)] at h
  cases h

/-- Putting `msg` on an open queue puts exactly it. -/
theorem queued_append (s : Memory) (i : Nat) (hi : i < s.links.size) (msg : Message) :
    queued i s (s.modifyLink i fun c => { c with outbox := c.outbox ++ [msg] }) = [msg] := by
  simp [queued, link_modifyLink, hi]

end Memory

theorem Connection.outbox_putSlot (c : Connection) (key : String) (cell : Nat) :
    (c.putSlot key cell).2.outbox = c.outbox := by
  unfold Connection.putSlot
  split
  rfl

theorem Connection.outbox_takeSlot (c : Connection) (key : String) :
    (c.takeSlot key).2.outbox = c.outbox := by
  unfold Connection.takeSlot
  split
  rfl

theorem Connection.outbox_takePending (c : Connection) (x : RequestId) :
    (c.takePending x).2.outbox = c.outbox := by
  unfold Connection.takePending
  split
  rfl

namespace Concurrency.Program

/-- Finished runs of a task and of the tasks it starts, in which they put `ms` on the queue of
connection `i`. Whenever a task gives way the rest of the host moves the state from `s` to some
`s'` with `E s s'`, and a task started runs from such a state; a wait ends once its condition
holds, or at any time when it has a deadline. -/
inductive Puts (i : Nat) (E : Memory → Memory → Prop) :
    Program Memory → Memory → List Message → Prop
  | done (s : Memory) : Puts i E .done s []
  | update {f : Memory → Memory} {next : Program Memory} {s : Memory} {ms : List Message} :
      Puts i E next (f s) ms → Puts i E (.update f next) s (Memory.queued i s (f s) ++ ms)
  | look {next : Nat → Memory → Program Memory} {s : Memory} {ms : List Message} (t : Nat) :
      Puts i E (next t s) s ms → Puts i E (.look next) s ms
  | wait {ready : Memory → Bool} {deadline : Option Nat} {next : Program Memory} {s : Memory}
      {ms : List Message} (s' : Memory) (hw : E s s') (hready : ready s' = true ∨ deadline.isSome) :
      Puts i E next s' ms → Puts i E (.wait ready deadline next) s ms
  | spend {next : Program Memory} {s : Memory} {ms : List Message} (s' : Memory) (hw : E s s') :
      Puts i E next s' ms → Puts i E (.spend next) s ms
  | spawn {child next : Program Memory} {s : Memory} {ms ms' : List Message} (s' : Memory)
      (hw : E s s') : Puts i E child s' ms → Puts i E next s ms' →
      Puts i E (.spawn child next) s (ms ++ ms')

end Concurrency.Program

namespace Concurrency.Async

variable {α β : Type} {i : Nat} {E : Memory → Memory → Prop}

/-- Every finished run of `a` followed by `k`, from a state where `P` holds, is a finished run of
`a` that puts `put` on the queue of connection `i` and returns `v` in a state `s'` with
`R v put s'`, followed by a finished run of `k v` from `s'`. -/
def Puts (i : Nat) (E : Memory → Memory → Prop) (P : Memory → Prop) (a : Act α)
    (R : α → List Message → Memory → Prop) : Prop :=
  ∀ k s ms, P s → (a k).Puts i E s ms →
    ∃ v put s' rest, R v put s' ∧ (k v).Puts i E s' rest ∧ ms = put ++ rest

namespace Puts

variable {P P' : Memory → Prop} {R R' : α → List Message → Memory → Prop}

theorem conseq {a : Act α} (h : Puts i E P a R) (hP : ∀ s, P' s → P s)
    (hR : ∀ v put s, R v put s → R' v put s) : Puts i E P' a R' := by
  intro k s ms hs hrun
  obtain ⟨v, put, s', rest, hr, hk, rfl⟩ := h k s ms (hP s hs) hrun
  exact ⟨v, put, s', rest, hR v put s' hr, hk, rfl⟩

/-- A fact the precondition carries may be assumed. -/
theorem assume {a : Act α} {c : Prop} (hc : ∀ s, P s → c) (h : c → Puts i E P a R) :
    Puts i E P a R :=
  fun k s ms hs => h (hc s hs) k s ms hs

theorem pure (v : α) : Puts i E P (Pure.pure v : Act α) fun w put s => w = v ∧ put = [] ∧ P s :=
  fun _ s ms hs hrun => ⟨v, [], s, ms, ⟨rfl, rfl, hs⟩, hrun, rfl⟩

/-- What `a` puts comes first, then what `f` puts. -/
theorem bind {a : Act α} {f : α → Act β} {Q : α → List Message → Memory → Prop}
    {R : β → List Message → Memory → Prop} (ha : Puts i E P a Q)
    (hf : ∀ v put, Puts i E (Q v put) (f v) fun w put' s => R w (put ++ put') s) :
    Puts i E P (a >>= f) R := by
  intro k s ms hs hrun
  obtain ⟨v, put, s₁, rest, hq, hrest, rfl⟩ := ha (fun v => f v k) s ms hs hrun
  obtain ⟨w, put', s₂, rest', hr, hk, rfl⟩ := hf v put k s₁ rest hq hrest
  exact ⟨w, put ++ put', s₂, rest', hr, hk, (List.append_assoc _ _ _).symm⟩

theorem modify (f : Memory → Memory) :
    Puts i E P (Async.modify f : Act Unit) fun _ put s' =>
      ∃ s, P s ∧ s' = f s ∧ put = Memory.queued i s (f s) := by
  intro k s ms hs hrun
  cases hrun with
  | update hk => exact ⟨(), _, f s, _, ⟨s, hs, rfl, rfl⟩, hk, rfl⟩

theorem modifyGet (f : Memory → α × Memory) :
    Puts i E P (Async.modifyGet f : Act α) fun v put s' =>
      ∃ s, P s ∧ f s = (v, s') ∧ put = Memory.queued i s s' := by
  intro k s ms hs hrun
  cases hrun with
  | look t hnext =>
    cases hnext with
    | update hk => exact ⟨(f s).1, _, (f s).2, _, ⟨s, hs, rfl, rfl⟩, hk, rfl⟩

theorem read (f : Memory → α) :
    Puts i E P (Async.read f : Act α) fun v put s => P s ∧ v = f s ∧ put = [] := by
  intro k s ms hs hrun
  cases hrun with
  | look t hk => exact ⟨f s, [], s, ms, ⟨hs, rfl, rfl⟩, hk, rfl⟩

theorem now : Puts i E P (Async.now : Act Nat) fun _ put s => P s ∧ put = [] := by
  intro k s ms hs hrun
  cases hrun with
  | look t hk => exact ⟨t, [], s, ms, ⟨hs, rfl⟩, hk, rfl⟩

/-- Giving way lets the rest of the host move the state as `E` allows. -/
theorem spend : Puts i E P (Async.spend : Act Unit) fun _ put s' => (∃ s, P s ∧ E s s') ∧ put = [] := by
  intro k s ms hs hrun
  cases hrun with
  | spend s' hw hk => exact ⟨(), [], s', ms, ⟨⟨s, hs, hw⟩, rfl⟩, hk, rfl⟩

/-- A wait ends where its condition holds, or anywhere when it has a deadline. -/
theorem waitUntil (ready : Memory → Bool) (deadline : Option Nat) :
    Puts i E P (Async.waitUntil ready deadline : Act Unit) fun _ put s' =>
      (∃ s, P s ∧ E s s') ∧ (ready s' = true ∨ deadline.isSome) ∧ put = [] := by
  intro k s ms hs hrun
  cases hrun with
  | wait s' hw hready hk => exact ⟨(), [], s', ms, ⟨⟨s, hs, hw⟩, hready, rfl⟩, hk, rfl⟩

theorem sleep (n : Nat) :
    Puts i E P (Async.sleep n : Act Unit) fun _ put s' => (∃ s, P s ∧ E s s') ∧ put = [] := by
  refine now.bind fun t put => assume (fun _ h => h.2) fun hput => ?_
  subst hput
  refine (waitUntil _ _).conseq (fun _ h => h) fun _ _ _ h => ⟨?_, by simp [h.2.2]⟩
  obtain ⟨⟨s, hs, hE⟩, -, -⟩ := h
  exact ⟨s, hs.1, hE⟩

/-- A task started puts, over its own finished run, what it puts. -/
theorem spawn (child : Act Unit) :
    Puts i E P (Async.spawn child) fun _ put s =>
      P s ∧ ∃ s', E s s' ∧ child.toProgram.Puts i E s' put := by
  intro k s ms hs hrun
  cases hrun with
  | spawn s' hw hchild hk => exact ⟨(), _, s, _, ⟨hs, s', hw, hchild⟩, hk, rfl⟩

end Puts

/-- Code that puts nothing on the queue of connection `i` and returns a value `R` allows. -/
def Quiet (i : Nat) (E : Memory → Memory → Prop) (a : Act α) (R : α → Prop) : Prop :=
  Puts i E (fun _ => True) a fun v put _ => put = [] ∧ R v

namespace Quiet

variable {R R' : α → Prop}

theorem conseq {a : Act α} (h : Quiet i E a R) (hR : ∀ v, R v → R' v) : Quiet i E a R' :=
  Puts.conseq h (fun _ h => h) fun v _ _ h => ⟨h.1, hR v h.2⟩

theorem pure {v : α} (h : R v) : Quiet i E (Pure.pure v : Act α) R :=
  (Puts.pure v).conseq (fun _ h => h) fun _ _ _ hv => ⟨hv.2.1, hv.1 ▸ h⟩

theorem bind {a : Act α} {f : α → Act β} {Q : α → Prop} {R : β → Prop} (ha : Quiet i E a Q)
    (hf : ∀ v, Q v → Quiet i E (f v) R) : Quiet i E (a >>= f) R := by
  refine Puts.bind ha fun v put => Puts.assume (fun _ h => h) fun hv => ?_
  obtain ⟨rfl, hq⟩ := hv
  exact Puts.conseq (hf v hq) (fun _ _ => trivial) fun _ _ _ h => h

/-- A change of the state that keeps the queue of connection `i`. -/
theorem modify {f : Memory → Memory} (hf : ∀ s, ((f s).link i).outbox = (s.link i).outbox) :
    Quiet i E (Async.modify f : Act Unit) fun _ => True := by
  refine (Puts.modify f).conseq (fun _ h => h) ?_
  rintro _ put _ ⟨s, -, -, rfl⟩
  exact ⟨Memory.queued_of_outbox (hf s), trivial⟩

theorem modifyGet {f : Memory → α × Memory} (hf : ∀ s, ((f s).2.link i).outbox = (s.link i).outbox) :
    Quiet i E (Async.modifyGet f : Act α) fun _ => True := by
  refine (Puts.modifyGet f).conseq (fun _ h => h) ?_
  rintro v put s' ⟨s, -, hs, rfl⟩
  refine ⟨Memory.queued_of_outbox ?_, trivial⟩
  rw [← hf s, hs]

theorem read (f : Memory → α) : Quiet i E (Async.read f : Act α) fun _ => True :=
  Puts.conseq (Puts.read f) (fun _ h => h) fun _ _ _ h => ⟨h.2.2, trivial⟩

theorem spend : Quiet i E (Async.spend : Act Unit) fun _ => True :=
  Puts.conseq Puts.spend (fun _ h => h) fun _ _ _ h => ⟨h.2, trivial⟩

theorem waitUntil (ready : Memory → Bool) (deadline : Option Nat) :
    Quiet i E (Async.waitUntil ready deadline : Act Unit) fun _ => True :=
  Puts.conseq (Puts.waitUntil ready deadline) (fun _ h => h) fun _ _ _ h => ⟨h.2.2, trivial⟩

theorem sleep (n : Nat) : Quiet i E (Async.sleep n : Act Unit) fun _ => True :=
  Puts.conseq (Puts.sleep n) (fun _ h => h) fun _ _ _ h => ⟨h.2, trivial⟩

/-- Every finished run of quiet code, on its own, puts nothing. -/
theorem toProgram {a : Act Unit} {R : Unit → Prop} (h : Quiet i E a R) {s : Memory} {put : List Message}
    (hrun : a.toProgram.Puts i E s put) : put = [] := by
  obtain ⟨_, put₁, _, rest, ⟨rfl, -⟩, hdone, rfl⟩ := h (fun _ => .done) s put trivial hrun
  cases hdone
  rfl

theorem spawn {child : Act Unit} {R : Unit → Prop} (hc : Quiet i E child R) :
    Quiet i E (Async.spawn child) fun _ => True := by
  refine (Puts.spawn child).conseq (fun _ h => h) ?_
  rintro _ put _ ⟨-, s', -, hrun⟩
  exact ⟨hc.toProgram hrun, trivial⟩

theorem ite {c : Prop} [Decidable c] {a b : Act α} (ha : Quiet i E a R) (hb : Quiet i E b R) :
    Quiet i E (if c then a else b) R := by
  split
  · exact ha
  · exact hb

end Quiet

end Concurrency.Async

namespace Link

open Async

variable {i : Nat} {E : Memory → Memory → Prop}

theorem quiet_modify (j : Nat) {f : Connection → Connection} (hf : ∀ c, (f c).outbox = c.outbox) :
    Quiet i E (Link.modify j f) fun _ => True :=
  Quiet.modify fun s => Memory.outbox_modifyLink s i j (hf _)

theorem quiet_get (j : Nat) : Quiet i E (Link.get j) fun _ => True := Quiet.read _

theorem quiet_isClosed (j : Nat) : Quiet i E (Link.isClosed j) fun _ => True := Quiet.read _

theorem quiet_report (j : Nat) (r : ProcessReport) : Quiet i E (Link.report j r) fun _ => True := by
  unfold Link.report
  refine Quiet.spend.bind fun _ _ => Quiet.modify fun s => Memory.outbox_of_links ?_
  unfold Memory.report
  split <;> rfl

theorem quiet_openSlot (j : Nat) (key : String) : Quiet i E (Link.openSlot j key) fun _ => True := by
  unfold Link.openSlot Act.newCell
  refine (Quiet.modifyGet fun s => Memory.outbox_of_links (by rfl)).bind
    fun cell _ => (Quiet.modifyGet fun s => ?_).bind fun old _ => ?_
  · rcases h : (s.link j).putSlot key cell with ⟨old, c⟩
    refine Memory.outbox_modifyLink s i j ?_
    rw [← Connection.outbox_putSlot (s.link j) key cell, h]
  · split
    · dsimp only
      exact (Quiet.modify fun s => Memory.outbox_of_links (by rfl)).bind fun _ _ => Quiet.pure trivial
    · exact Quiet.pure trivial

theorem quiet_resolveSlot (j : Nat) (key : String) (v : Json.Value) :
    Quiet i E (Link.resolveSlot j key v) fun _ => True := by
  refine Quiet.modifyGet fun s => ?_
  unfold Memory.resolveSlot
  rcases h : (s.link j).takeSlot key with ⟨_ | cell, c⟩
  · rfl
  · rw [Memory.outbox_of_links (by rfl)]
    refine Memory.outbox_modifyLink s i j ?_
    rw [← Connection.outbox_takeSlot (s.link j) key, h]

theorem quiet_cancelSlot (j : Nat) (key : String) :
    Quiet i E (Link.cancelSlot j key) fun _ => True := by
  refine Quiet.modifyGet fun s => ?_
  unfold Memory.cancelSlot
  rcases h : (s.link j).takeSlot key with ⟨_ | cell, c⟩
  · rfl
  · rw [Memory.outbox_of_links (by rfl)]
    refine Memory.outbox_modifyLink s i j ?_
    rw [← Connection.outbox_takeSlot (s.link j) key, h]

/-- Waiting for room on a queue puts nothing, and keeps what the rest of the host keeps. -/
theorem puts_waitForRoom (j : Nat) {P : Memory → Prop} (hP : ∀ s s', P s → E s s' → P s') :
    Puts i E P (Link.waitForRoom j) fun _ put s' => P s' ∧ put = [] := by
  unfold Link.waitForRoom
  refine (Puts.read _).bind fun full put => Puts.assume (fun _ h => h.2.2) fun hput => ?_
  subst hput
  cases full with
  | true =>
    simp only [if_true]
    refine (Puts.waitUntil _ _).conseq (fun _ h => h.1) ?_
    rintro _ _ s' ⟨⟨s, hs, hw⟩, -, rfl⟩
    exact ⟨hP s s' hs hw, rfl⟩
  | false =>
    simp only [Bool.false_eq_true, if_false]
    refine (Puts.pure ()).conseq (fun _ h => h.1) ?_
    rintro _ _ s' ⟨-, rfl, hs⟩
    exact ⟨hs, rfl⟩

/-- Putting a message on the queue: once the task resumes, in a state `s` the rest of the host
moved to last, after the task gave way and perhaps waited for room, the message is put exactly
when the writer still takes messages. -/
theorem puts_enqueue {P : Memory → Prop} (msg : Message) :
    Puts i E P (Link.enqueue i msg) fun ok put _ =>
      ∃ s₀ s₁ s, P s₀ ∧ Relation.ReflTransGen E s₀ s₁ ∧ E s₁ s ∧ ok = (s.link i).outboxOpen ∧
        put = if ok then [msg] else [] := by
  unfold Link.enqueue
  refine Puts.spend.bind fun _ put => Puts.assume (fun _ h => h.2) fun hput => ?_
  subst hput
  -- the state the message goes in was last moved by the rest of the host
  refine Puts.conseq (P := fun s => ∃ s₀ s₁, P s₀ ∧ Relation.ReflTransGen E s₀ s₁ ∧ E s₁ s) ?_
    (fun s ⟨⟨s₀, hs₀, hE⟩, _⟩ => ⟨s₀, s₀, hs₀, .refl, hE⟩) fun _ _ _ h => h
  refine (puts_waitForRoom i fun s s' ⟨s₀, s₁, hs₀, hrun, hE⟩ hE' =>
    ⟨s₀, s, hs₀, hrun.tail hE, hE'⟩).bind fun _ put => Puts.assume (fun _ h => h.2) fun hput => ?_
  subst hput
  refine (Puts.modifyGet _).conseq (fun s h => h.1) ?_
  rintro ok put s' ⟨s, ⟨s₀, s₁, hs₀, hrun, hE⟩, hf, rfl⟩
  refine ⟨s₀, s₁, s, hs₀, hrun, hE, ?_⟩
  split at hf
  · rename_i hopen
    obtain ⟨rfl, rfl⟩ := Prod.mk.inj hf
    exact ⟨hopen.symm, Memory.queued_append s i (Memory.lt_of_outboxOpen hopen) msg⟩
  · rename_i hshut
    obtain ⟨rfl, rfl⟩ := Prod.mk.inj hf
    exact ⟨(Bool.eq_false_iff.2 hshut).symm, Memory.queued_of_outbox rfl⟩

end Link

namespace Act

open Async

variable {i : Nat} {E : Memory → Memory → Prop}

theorem quiet_fill (c : Nat) (o : Except Failure Json.Value) :
    Quiet i E (Act.fill c o) fun _ => True :=
  Quiet.modify fun _ => Memory.outbox_of_links (by rfl)

theorem quiet_awaitCell (c : Nat) : Quiet i E (Act.awaitCell c) fun _ => True :=
  (Quiet.waitUntil _ _).bind fun _ _ => Quiet.read _

end Act

theorem quiet_logInbound {i : Nat} {E : Memory → Memory → Prop} (v : Json.Value) :
    Async.Quiet i E (logInbound v) fun _ => True :=
  Async.Quiet.modify fun _ => Memory.outbox_of_links (by rfl)

theorem quiet_pause {i : Nat} {E : Memory → Memory → Prop} (n : Nat) :
    Async.Quiet i E (pause n) fun _ => True := by
  unfold pause
  exact Async.Quiet.ite ((Async.Quiet.sleep n).bind fun _ _ => Async.Quiet.spend)
    (Async.Quiet.pure trivial)

namespace Client

open Async

variable {i : Nat} {E : Memory → Memory → Prop}

theorem quiet_hear (method : String) (params : Json.Value) :
    Quiet i E (Client.hear method params) fun _ => True := by
  unfold Client.hear
  split
  · exact Quiet.spend.bind fun _ _ =>
      Quiet.modify fun s => Memory.outbox_of_links (Client.tablesKept_routeUpdate _ s).1
  · exact Quiet.pure trivial

theorem quiet_respondPermission (id : String) (response : PermissionResponse) :
    Quiet i E (Client.respondPermission id response) fun _ => True := by
  unfold Client.respondPermission
  refine (Quiet.read _).bind fun c _ => ?_
  split
  · exact (Link.quiet_resolveSlot _ _ _).bind fun _ _ => Quiet.pure trivial
  · exact Quiet.pure trivial

theorem quiet_answerPermission (params : Json.Value) :
    Quiet i E (Client.answerPermission params) fun _ => True := by
  unfold Client.answerPermission
  dsimp only
  split
  · refine (Quiet.modifyGet fun _ => Memory.outbox_of_links (by rfl)).bind fun req _ =>
      (Quiet.read _).bind fun c _ => ?_
    split
    · exact Quiet.pure trivial
    · exact Quiet.pure trivial
    · refine (Link.quiet_openSlot _ _).bind fun cell _ => ?_
      -- the subscriber is told, then the answer is read off the slot's cell
      split
      · refine (Quiet.modify fun _ => Memory.outbox_of_links (by rfl)).bind fun _ _ =>
          (Quiet.waitUntil _ _).bind fun _ _ => (Quiet.read _).bind fun c _ => ?_
        split <;> exact Quiet.pure trivial
      · refine (Quiet.spawn ((quiet_respondPermission _ _).bind fun _ _ =>
          Quiet.pure (R := fun _ => True) trivial)).bind fun _ _ =>
            (Quiet.waitUntil _ _).bind fun _ _ => (Quiet.read _).bind fun c _ => ?_
        split <;> exact Quiet.pure trivial
  · exact Quiet.pure trivial

end Client

/-- Listeners and responders that put nothing on the queue of connection `i` themselves, whose
responders answer as `R` allows. -/
structure Hooks.Quiet (hooks : Hooks) (i : Nat) (E : Memory → Memory → Prop)
    (R : Responder → Except Failure Json.Value → Prop) : Prop where
  hear : ∀ l method params, Async.Quiet i E (hooks.hear i l method params) fun _ => True
  answer : ∀ r method params id, Async.Quiet i E (hooks.answer i r method params id) (R r)

/-- What the bench's responders answer: a scripted result or failure as it is; anything from a
slot or from the permission flow. -/
def benchAnswers : Responder → Except Failure Json.Value → Prop
  | .scripted (.result v) _, out => out = .ok v
  | .scripted (.failure f) _, out => out = .error f
  | _, _ => True

theorem benchHooks_quiet (i : Nat) (E : Memory → Memory → Prop) : benchHooks.Quiet i E benchAnswers where
  hear l method params := by
    cases l with
    | log delay => exact (quiet_pause delay).bind fun _ _ => quiet_logInbound _
    | client => exact Client.quiet_hear method params
  answer r method params id := by
    cases r with
    | scripted reply delay =>
      refine (quiet_logInbound _).bind fun _ _ => (quiet_pause delay).bind fun _ _ => ?_
      cases reply with
      | result v => exact Async.Quiet.pure rfl
      | failure f => exact Async.Quiet.pure rfl
      | slot =>
        refine (Link.quiet_openSlot i _).bind fun c _ => (Act.quiet_awaitCell c).bind fun cl _ => ?_
        split <;> exact Async.Quiet.pure trivial
    | permission => exact Client.quiet_answerPermission params

theorem clientHooks_quiet (i : Nat) (E : Memory → Memory → Prop) :
    Cli.clientHooks.Quiet i E fun _ _ => True where
  hear _ method params := Client.quiet_hear method params
  answer _ _ params _ := Client.quiet_answerPermission params

end AgentLink

