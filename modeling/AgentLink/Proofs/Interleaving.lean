import AgentLink.Concurrency.Scheduler

/-!
# Interleavings of cooperative tasks

The scheduler runs the ready tasks first come, first served. Here the same tasks may interleave
in any order. A `Pool` holds the shared state, the clock and every task, each stopped where it
last gave way; `Pool.Step` lets one task that may go on run one segment, up to its next wait or
spend, or moves the clock forward, or lets the world outside the tasks change the state, or
starts a new task. A segment is atomic, as on the scheduler: nothing else runs until the task
gives way. The scheduler's runs are some of these interleavings.

Facts about every interleaving come from guarantees. `Program.Guards G H` says that every
segment of a task ends in a step of `G` from the state it started in, with the place where the
task stopped, and that every single change of the state on the way is a step of `H`. Proved of
every task, a guarantee is a fact about every state the pool reaches. `Async.Respects` states a
guarantee of a piece of code whatever follows it, so that it is proved one function at a time:
the code is entered in the middle of a segment that has been a step of `Pre` so far.
-/

namespace AgentLink.Concurrency

variable {σ α β : Type}

namespace Program

/-- Run a task from state `s` at clock `t` until it waits, spends a unit or finishes: the state it
leaves, the tasks it started in order, and where it stopped. -/
def runSegment (t : Nat) : Program σ → σ → σ × List (Program σ) × Program σ
  | .done, s => (s, [], .done)
  | .update f next, s => runSegment t next (f s)
  | .look next, s => runSegment t (next t s) s
  | .wait ready deadline next, s => (s, [], .wait ready deadline next)
  | .spawn child next, s =>
    let r := runSegment t next s
    (r.1, child :: r.2.1, r.2.2)
  | .spend next, s => (s, [], .spend next)

/-- Where a stopped task goes on at clock `t` in state `s`, if it may: past a wait whose
condition holds or whose deadline has come, past a spend, or from its start. -/
def resume (t : Nat) (s : σ) : Program σ → Option (Program σ)
  | .done => none
  | .wait ready deadline next =>
    if ready s || (match deadline with | some d => decide (d ≤ t) | none => false) then some next
    else none
  | .spend next => some next
  | .update f next => some (.update f next)
  | .look next => some (.look next)
  | .spawn child next => some (.spawn child next)

/-- A stopped task goes on where it stopped, or past the wait or the spend it stopped at. -/
theorem resume_eq_some {t : Nat} {s : σ} {p p' : Program σ} (h : p.resume t s = some p') :
    p = p' ∨ (∃ ready deadline, p = .wait ready deadline p') ∨ p = .spend p' := by
  cases p with
  | done => simp [resume] at h
  | wait ready deadline next =>
    simp only [resume, Option.ite_none_right_eq_some, Option.some.injEq] at h
    exact .inr (.inl ⟨ready, deadline, h.2 ▸ rfl⟩)
  | spend next => cases h; exact .inr (.inr rfl)
  | update f next => cases h; exact .inl rfl
  | look next => cases h; exact .inl rfl
  | spawn child next => cases h; exact .inl rfl

/-- Every segment of the task ends in a step of `G` from the state it started in to where the
task stopped, every change of the state within a segment is a step of `H`, and the tasks it
starts do the same. `s₀` is the state the segment under way started in, `s` the state now. -/
def Guards (G : σ → σ → Program σ → Prop) (H : σ → σ → Prop) : Program σ → σ → σ → Prop
  | .done, s₀, s => G s₀ s .done
  | .update f next, s₀, s => H s (f s) ∧ next.Guards G H s₀ (f s)
  | .look next, s₀, s => ∀ t, (next t s).Guards G H s₀ s
  | .wait ready deadline next, s₀, s =>
    G s₀ s (.wait ready deadline next) ∧ ∀ s', next.Guards G H s' s'
  | .spawn child next, s₀, s => (∀ s', child.Guards G H s' s') ∧ next.Guards G H s₀ s
  | .spend next, s₀, s => G s₀ s (.spend next) ∧ ∀ s', next.Guards G H s' s'

/-- A task every segment of which keeps the guarantees, whatever state it starts in. -/
def Safe (G : σ → σ → Program σ → Prop) (H : σ → σ → Prop) (p : Program σ) : Prop :=
  ∀ s, p.Guards G H s s

section Guarantees

variable {G : σ → σ → Program σ → Prop} {H : σ → σ → Prop}

/-- Where a safe task may go on, its next segment keeps the guarantees. -/
theorem Safe.resume {p p' : Program σ} (hp : p.Safe G H) {t : Nat} {s : σ}
    (hr : p.resume t s = some p') : p'.Guards G H s s := by
  rcases resume_eq_some hr with rfl | ⟨ready, deadline, rfl⟩ | rfl
  · exact hp s
  · exact (hp s).2 s
  · exact (hp s).2 s

/-- What a guarded segment does: it is a step of `G` to where it stops, a chain of `H`-steps,
and it leaves the task and the tasks it started safe. -/
theorem Guards.runSegment (hG : ∀ s q, G s s q) (hrefl : ∀ s, H s s)
    (htrans : ∀ s₁ s₂ s₃, H s₁ s₂ → H s₂ s₃ → H s₁ s₃) (t : Nat) :
    ∀ {p : Program σ} {s₀ s : σ}, p.Guards G H s₀ s →
      G s₀ (p.runSegment t s).1 (p.runSegment t s).2.2 ∧ H s (p.runSegment t s).1 ∧
        (p.runSegment t s).2.2.Safe G H ∧ ∀ c ∈ (p.runSegment t s).2.1, c.Safe G H
  | .done, _, s, h => ⟨h, hrefl s, fun s' => hG s' _, by simp [Program.runSegment]⟩
  | .update f next, _, s, h => by
    obtain ⟨hH, hnext⟩ := h
    obtain ⟨hg, hh, hq, hc⟩ := Guards.runSegment hG hrefl htrans t hnext
    exact ⟨hg, htrans _ _ _ hH hh, hq, hc⟩
  | .look next, _, _, h => by
    have := Guards.runSegment hG hrefl htrans t (h t)
    exact this
  | .wait ready deadline next, _, s, h =>
    ⟨h.1, hrefl s, fun s' => ⟨hG s' _, h.2⟩, by simp [Program.runSegment]⟩
  | .spawn child next, _, _, h => by
    obtain ⟨hchild, hnext⟩ := h
    obtain ⟨hg, hh, hq, hc⟩ := Guards.runSegment hG hrefl htrans t hnext
    refine ⟨hg, hh, hq, ?_⟩
    intro c hmem
    simp only [Program.runSegment, List.mem_cons] at hmem
    rcases hmem with rfl | hmem
    · exact hchild
    · exact hc c hmem
  | .spend next, _, s, h =>
    ⟨h.1, hrefl s, fun s' => ⟨hG s' _, h.2⟩, by simp [Program.runSegment]⟩

end Guarantees

end Program

/-- Tasks over one shared state and clock, each stopped where it last gave way (or not yet
started). Tasks are never removed: a finished one stays as `.done`. -/
structure Pool (σ : Type) where
  state : σ
  clock : Nat
  tasks : List (Program σ)

namespace Pool

/-- Run task `k`, going on as `p`, for one segment. -/
def runTask (P : Pool σ) (k : Nat) (p : Program σ) : Pool σ :=
  let r := p.runSegment P.clock P.state
  ⟨r.1, P.clock, P.tasks.set k r.2.2 ++ r.2.1⟩

/-- One step of an interleaving: a task that may go on runs a segment, the clock moves forward,
the world outside the tasks changes the state as `env` allows, or a task that `allowed` allows
starts. -/
inductive Step (env : σ → σ → Prop) (allowed : Program σ → Prop) : Pool σ → Pool σ → Prop
  | run {P : Pool σ} {k : Nat} {p p' : Program σ} (hk : P.tasks[k]? = some p)
      (hp : p.resume P.clock P.state = some p') : Step env allowed P (P.runTask k p')
  | tick {P : Pool σ} {t : Nat} (ht : P.clock ≤ t) : Step env allowed P { P with clock := t }
  | world {P : Pool σ} {s : σ} (hs : env P.state s) : Step env allowed P { P with state := s }
  | start {P : Pool σ} {p : Program σ} (hp : allowed p) :
      Step env allowed P { P with tasks := P.tasks ++ [p] }

/-- The pools an interleaving reaches. -/
inductive Reaches (env : σ → σ → Prop) (allowed : Program σ → Prop) : Pool σ → Pool σ → Prop
  | refl (P : Pool σ) : Reaches env allowed P P
  | step {P Q R : Pool σ} : Step env allowed P Q → Reaches env allowed Q R → Reaches env allowed P R

/-- Every task of the pool keeps the guarantees. -/
def AllSafe (G : σ → σ → Program σ → Prop) (H : σ → σ → Prop) (P : Pool σ) : Prop :=
  ∀ p ∈ P.tasks, p.Safe G H

section Lifting

variable {G : σ → σ → Program σ → Prop} {H : σ → σ → Prop}
variable {env : σ → σ → Prop} {allowed : Program σ → Prop}

theorem mem_runTask {P : Pool σ} {k : Nat} {p q : Program σ}
    (hq : q ∈ (P.runTask k p).tasks) :
    q ∈ P.tasks ∨ q = (p.runSegment P.clock P.state).2.2 ∨
      q ∈ (p.runSegment P.clock P.state).2.1 := by
  simp only [runTask, List.mem_append] at hq
  rcases hq with hq | hq
  · rcases List.mem_or_eq_of_mem_set hq with h | h
    · exact .inl h
    · exact .inr (.inl h)
  · exact .inr (.inr hq)

/-- A step keeps every task safe, when every task it may start is safe. -/
theorem Step.allSafe (hG : ∀ s q, G s s q) (hrefl : ∀ s, H s s)
    (htrans : ∀ s₁ s₂ s₃, H s₁ s₂ → H s₂ s₃ → H s₁ s₃) (hstart : ∀ p, allowed p → p.Safe G H)
    {P Q : Pool σ} (hs : Step env allowed P Q) (hP : P.AllSafe G H) : Q.AllSafe G H := by
  cases hs with
  | @run k p p' hk hp =>
    have hpsafe := hP p (List.mem_of_getElem? hk)
    obtain ⟨-, -, hq, hc⟩ := (hpsafe.resume hp).runSegment hG hrefl htrans P.clock
    intro q hmem
    rcases mem_runTask hmem with h | rfl | h
    · exact hP q h
    · exact hq
    · exact hc q h
  | tick => exact hP
  | world => exact hP
  | start hp =>
    intro q hmem
    simp only [List.mem_append, List.mem_singleton] at hmem
    rcases hmem with h | rfl
    · exact hP q h
    · exact hstart q hp

end Lifting

end Pool

namespace Async

/-- A guarantee of `a` whatever code follows it: entered in a segment where `Pre` holds of the
state it started in and the state now, and followed by code that keeps the guarantees wherever
`Post` holds of its value and the states, it keeps them. `Pre` and `Post` speak of the segment
under way; a wait or a spend begins a new one. -/
def Triple (G : σ → σ → Program σ → Prop) (H : σ → σ → Prop) (Pre : σ → σ → Prop)
    (a : Async σ α) (Post : α → σ → σ → Prop) : Prop :=
  ∀ k : α → Program σ, (∀ v s₀ s, Post v s₀ s → (k v).Guards G H s₀ s) →
    ∀ s₀ s, Pre s₀ s → (a k).Guards G H s₀ s

namespace Triple

variable {G : σ → σ → Program σ → Prop} {H : σ → σ → Prop}
variable {P P' : σ → σ → Prop} {Q Q' : α → σ → σ → Prop} {R : β → σ → σ → Prop}

theorem conseq {a : Async σ α} (h : Triple G H P a Q) (hP : ∀ s₀ s, P' s₀ s → P s₀ s)
    (hQ : ∀ v s₀ s, Q v s₀ s → Q' v s₀ s) : Triple G H P' a Q' :=
  fun k hk s₀ s hpre => h k (fun v s₀ s hq => hk v s₀ s (hQ v s₀ s hq)) s₀ s (hP s₀ s hpre)

theorem pure (v : α) : Triple G H (Q v) (Pure.pure v : Async σ α) Q :=
  fun _ hk => hk v

theorem bind {a : Async σ α} {f : α → Async σ β} (ha : Triple G H P a Q)
    (hf : ∀ v, Triple G H (Q v) (f v) R) : Triple G H P (a >>= f) R :=
  fun k hk => ha (fun v => f v k) fun v => hf v k hk

theorem map {a : Async σ α} (f : α → β) (ha : Triple G H P a (fun v => R (f v))) :
    Triple G H P (f <$> a) R :=
  fun k hk => ha (fun v => k (f v)) fun v => hk (f v)

theorem modify {Q : Unit → σ → σ → Prop} (f : σ → σ) :
    Triple G H (fun s₀ s => H s (f s) ∧ Q () s₀ (f s)) (Async.modify f) Q := by
  intro k hk s₀ s hpre
  exact ⟨hpre.1, hk () s₀ (f s) hpre.2⟩

theorem modifyGet (f : σ → α × σ) :
    Triple G H (fun s₀ s => H s (f s).2 ∧ Q (f s).1 s₀ (f s).2) (Async.modifyGet f) Q := by
  intro k hk s₀ s hpre t
  exact ⟨hpre.1, hk (f s).1 s₀ (f s).2 hpre.2⟩

theorem read (f : σ → α) : Triple G H (fun s₀ s => Q (f s) s₀ s) (Async.read f) Q :=
  fun _ hk s₀ s hpre _ => hk _ s₀ s hpre

theorem now {Q : Nat → σ → σ → Prop} : Triple G H (fun s₀ s => ∀ t, Q t s₀ s) (Async.now : Async σ Nat) Q :=
  fun _ hk s₀ s hpre t => hk t s₀ s (hpre t)

/-- Giving way ends the segment, which must then be a step of `G` wherever the task stops; the
next segment starts afresh. -/
theorem spend :
    Triple G H (fun s₀ s => ∀ q, G s₀ s q) (Async.spend : Async σ Unit) (fun _ s₀ s => s₀ = s) :=
  fun _ hk _ _ hpre => ⟨hpre _, fun s' => hk () s' s' rfl⟩

theorem waitUntil (ready : σ → Bool) (deadline : Option Nat) :
    Triple G H (fun s₀ s => ∀ q, G s₀ s q) (Async.waitUntil ready deadline)
      (fun _ s₀ s => s₀ = s) :=
  fun _ hk _ _ hpre => ⟨hpre _, fun s' => hk () s' s' rfl⟩

theorem sleep (ms : Nat) :
    Triple G H (fun s₀ s => ∀ q, G s₀ s q) (Async.sleep ms : Async σ Unit)
      (fun _ s₀ s => s₀ = s) :=
  fun _ hk _ _ hpre _ => ⟨hpre _, fun s' => hk () s' s' rfl⟩

/-- A task started from code that keeps the guarantees from the start of its first segment to
its end. -/
theorem spawn {Q : Unit → σ → σ → Prop} {child : Async σ Unit}
    (hc : Triple G H (fun s₀ s => s₀ = s) child (fun _ s₀ s => G s₀ s .done)) :
    Triple G H (Q ()) (Async.spawn child) Q := by
  intro k hk s₀ s hpre
  exact ⟨fun s' => hc (fun _ => .done) (fun _ s₁ s₂ h => h) s' s' rfl, hk () s₀ s hpre⟩

/-- The program of code that keeps the guarantees is a safe task. -/
theorem safe {a : Async σ α}
    (ha : Triple G H (fun s₀ s => s₀ = s) a (fun _ s₀ s => G s₀ s .done)) :
    a.toProgram.Safe G H :=
  fun s => ha (fun _ => .done) (fun _ _ _ h => h) s s rfl

/-- A loop over a list whose body keeps an invariant keeps it. -/
theorem forIn {xs : List β} {body : β → Unit → Async σ (ForInStep Unit)}
    (hb : ∀ x, Triple G H P (body x ()) (fun _ => P)) :
    Triple G H P (ForIn.forIn xs () body) (fun _ => P) := by
  induction xs with
  | nil => exact pure ()
  | cons x rest ih =>
    simp only [List.forIn_cons]
    refine bind (hb x) fun r => ?_
    cases r with
    | done u => exact pure u
    | yield u => exact ih

end Triple

end Async

end AgentLink.Concurrency
