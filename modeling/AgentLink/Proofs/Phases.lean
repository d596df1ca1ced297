import AgentLink.Proofs.Interleaving

/-!
# Tasks with ghost phases

Some facts about an interleaving are about which task is where: "at most one task is between
taking a lock and releasing it". Such a fact needs a phase for each task, a ghost that the code
never reads. Here a task carries a phase of type `γ`. A change of the state may move the task
to another phase, chosen by the proof; a segment ends in a step of `G` that sees the phase and
state the segment started in and the phase and state it ends in. Spawned tasks start in phase
`init`.

`Program.PGuards` is `Program.Guards` with the phase threaded through; `Async.TripleP` states it
of code whatever follows it. A pool is `Phased` when its tasks can be given phases in which each
keeps the guarantees and the phases and the state satisfy an invariant; `Pool.Reaches.phased`
carries that along every interleaving from one lemma about a segment.

A guarantee kept without phases keeps its phase (`Program.Guards.pguards`), and two guarantees
of one task combine (`Program.PGuards.and_guards`).
-/

namespace AgentLink.Concurrency

variable {σ α β γ : Type}

namespace Program

section Phased

variable (G : γ → σ → σ → Program σ → γ → Prop) (H : σ → σ → Prop) (init : γ)

/-- Every segment of the task, from phase `g₀` and state `s₀`, ends in a step of `G` to the phase
and state where it stops; every change of the state within it is a step of `H` and may move the
task to another phase; the tasks it starts do the same from phase `init`. `g` is the phase now,
`s` the state now. -/
def PGuards : Program σ → γ → γ → σ → σ → Prop
  | .done, g₀, g, s₀, s => G g₀ s₀ s .done g
  | .update f next, g₀, _, s₀, s => H s (f s) ∧ ∃ g', next.PGuards g₀ g' s₀ (f s)
  | .look next, g₀, g, s₀, s => ∀ t, (next t s).PGuards g₀ g s₀ s
  | .wait ready deadline next, g₀, g, s₀, s =>
    G g₀ s₀ s (.wait ready deadline next) g ∧ ∀ s', next.PGuards g g s' s'
  | .spawn child next, g₀, g, s₀, s =>
    (∀ s', child.PGuards init init s' s') ∧ next.PGuards g₀ g s₀ s
  | .spend next, g₀, g, s₀, s => G g₀ s₀ s (.spend next) g ∧ ∀ s', next.PGuards g g s' s'

/-- A task that keeps the guarantees from phase `g`, whatever state it starts in. -/
def PSafe (g : γ) (p : Program σ) : Prop := ∀ s, p.PGuards G H init g g s s

/-- A stopped task that keeps the guarantees from phase `g` wherever it may go on. -/
def Ready (g : γ) (p : Program σ) : Prop :=
  ∀ t s p', p.resume t s = some p' → p'.PGuards G H init g g s s

variable {G H init}

theorem PSafe.ready {g : γ} {p : Program σ} (hp : p.PSafe G H init g) : p.Ready G H init g := by
  intro t s p' hr
  rcases resume_eq_some hr with rfl | ⟨ready, deadline, rfl⟩ | rfl
  · exact hp s
  · exact (hp s).2 s
  · exact (hp s).2 s

theorem ready_wait {g : γ} {ready : σ → Bool} {deadline : Option Nat} {next : Program σ}
    (h : ∀ s, next.PGuards G H init g g s s) : (Program.wait ready deadline next).Ready G H init g := by
  intro t s p' hr
  simp only [Program.resume, Option.ite_none_right_eq_some, Option.some.injEq] at hr
  exact hr.2 ▸ h s

theorem ready_spend {g : γ} {next : Program σ} (h : ∀ s, next.PGuards G H init g g s s) :
    (Program.spend next).Ready G H init g := by
  intro t s p' hr
  cases hr
  exact h s

/-- What a guarded segment does: it ends in a step of `G` in some phase, in which the task is
ready to go on; it is a chain of `H`-steps; and the tasks it starts are safe from `init`. -/
theorem PGuards.runSegment (hrefl : ∀ s, H s s) (htrans : ∀ s₁ s₂ s₃, H s₁ s₂ → H s₂ s₃ → H s₁ s₃)
    (t : Nat) : ∀ {p : Program σ} {g₀ g : γ} {s₀ s : σ}, p.PGuards G H init g₀ g s₀ s →
      ∃ g', G g₀ s₀ (p.runSegment t s).1 (p.runSegment t s).2.2 g' ∧ H s (p.runSegment t s).1 ∧
        (p.runSegment t s).2.2.Ready G H init g' ∧
        ∀ c ∈ (p.runSegment t s).2.1, c.PSafe G H init init
  | .done, _, g, _, s, h =>
    ⟨g, h, hrefl s, fun _ _ _ hr => by simp [Program.runSegment, Program.resume] at hr,
      by simp [Program.runSegment]⟩
  | .update f next, _, _, _, _, h => by
    obtain ⟨hH, g', hnext⟩ := h
    obtain ⟨g'', hg, hh, hq, hc⟩ := PGuards.runSegment hrefl htrans t hnext
    exact ⟨g'', hg, htrans _ _ _ hH hh, hq, hc⟩
  | .look next, _, _, _, _, h => by
    have := PGuards.runSegment hrefl htrans t (h t)
    exact this
  | .wait ready deadline next, _, g, _, s, h =>
    ⟨g, h.1, hrefl s, ready_wait h.2, by simp [Program.runSegment]⟩
  | .spawn child next, _, _, _, _, h => by
    obtain ⟨hchild, hnext⟩ := h
    obtain ⟨g', hg, hh, hq, hc⟩ := PGuards.runSegment hrefl htrans t hnext
    refine ⟨g', hg, hh, hq, ?_⟩
    intro c hmem
    simp only [Program.runSegment, List.mem_cons] at hmem
    rcases hmem with rfl | hmem
    · exact hchild
    · exact hc c hmem
  | .spend next, _, g, _, s, h =>
    ⟨g, h.1, hrefl s, ready_spend h.2, by simp [Program.runSegment]⟩

/-- A guarantee kept without phases is kept in a phase that never moves, when each of its
segments is a step of `G` from that phase to itself. -/
theorem Guards.pguards {G' : σ → σ → Program σ → Prop} (hG : ∀ g s₀ s q, G' s₀ s q → G g s₀ s q g) :
    ∀ {p : Program σ} {s₀ s : σ} (g : γ), p.Guards G' H s₀ s → p.PGuards G H init g g s₀ s
  | .done, _, _, g, h => hG g _ _ _ h
  | .update _ _, _, _, g, h => ⟨h.1, g, Guards.pguards hG g h.2⟩
  | .look _, _, _, g, h => fun t => Guards.pguards hG g (h t)
  | .wait _ _ _, _, _, g, h => ⟨hG g _ _ _ h.1, fun s' => Guards.pguards hG g (h.2 s')⟩
  | .spawn _ _, _, _, g, h =>
    ⟨fun s' => Guards.pguards hG init (h.1 s'), Guards.pguards hG g h.2⟩
  | .spend _, _, _, g, h => ⟨hG g _ _ _ h.1, fun s' => Guards.pguards hG g (h.2 s')⟩

/-- A task that keeps two guarantees, one of them without phases, keeps both at once. -/
theorem PGuards.and_guards {G₁ : σ → σ → Program σ → Prop} {H₁ : σ → σ → Prop} :
    ∀ {p : Program σ} {g₀ g : γ} {s₀ s : σ}, p.Guards G₁ H₁ s₀ s → p.PGuards G H init g₀ g s₀ s →
      p.PGuards (fun g₀ s₀ s q g => G₁ s₀ s q ∧ G g₀ s₀ s q g) (fun s s' => H₁ s s' ∧ H s s') init
        g₀ g s₀ s
  | .done, _, _, _, _, h₁, h => ⟨h₁, h⟩
  | .update _ _, _, _, _, _, h₁, h => by
    obtain ⟨g', hn⟩ := h.2
    exact ⟨⟨h₁.1, h.1⟩, g', PGuards.and_guards h₁.2 hn⟩
  | .look _, _, _, _, _, h₁, h => fun t => PGuards.and_guards (h₁ t) (h t)
  | .wait _ _ _, _, _, _, _, h₁, h =>
    ⟨⟨h₁.1, h.1⟩, fun s' => PGuards.and_guards (h₁.2 s') (h.2 s')⟩
  | .spawn _ _, _, _, _, _, h₁, h =>
    ⟨fun s' => PGuards.and_guards (h₁.1 s') (h.1 s'), PGuards.and_guards h₁.2 h.2⟩
  | .spend _, _, _, _, _, h₁, h =>
    ⟨⟨h₁.1, h.1⟩, fun s' => PGuards.and_guards (h₁.2 s') (h.2 s')⟩

end Phased

end Program

namespace Pool

/-- The tasks of the pool can be given phases, one each, in which each is ready to go on as
`Rd` says, and the state and the phases satisfy `Inv`. -/
def PhasedBy (Rd : γ → Program σ → Prop) (Inv : σ → List γ → Prop) (P : Pool σ) : Prop :=
  ∃ phases : List γ, phases.length = P.tasks.length ∧
    (∀ (i : Nat) (p : Program σ) (g : γ), P.tasks[i]? = some p → phases[i]? = some g → Rd g p) ∧
    Inv P.state phases

/-- The tasks of the pool can be given phases, one each, in which each is ready to keep the
guarantees, and the state and the phases satisfy `Inv`. -/
def Phased (G : γ → σ → σ → Program σ → γ → Prop) (H : σ → σ → Prop) (init : γ)
    (Inv : σ → List γ → Prop) (P : Pool σ) : Prop :=
  ∃ phases : List γ, phases.length = P.tasks.length ∧
    (∀ (i : Nat) (p : Program σ) (g : γ), P.tasks[i]? = some p → phases[i]? = some g →
      p.Ready G H init g) ∧
    Inv P.state phases

section Lifting

variable {G : γ → σ → σ → Program σ → γ → Prop} {H : σ → σ → Prop} {init : γ}
variable {Inv : σ → List γ → Prop} {env : σ → σ → Prop} {allowed : Program σ → Prop}
/-- Starting tasks in phase `init` keeps an invariant that starting one keeps. -/
theorem inv_spawned (hspawn : ∀ s phases, Inv s phases → Inv s (phases ++ [init])) {s : σ}
    {phases : List γ} (h : Inv s phases) : ∀ n, Inv s (phases ++ List.replicate n init)
  | 0 => by simpa using h
  | n + 1 => by
    rw [List.replicate_succ', ← List.append_assoc]
    exact hspawn _ _ (inv_spawned hspawn h n)

/-- A task of the pool has a phase. -/
theorem phase_of_task {tasks : List (Program σ)} {phases : List γ} (hlen : phases.length = tasks.length)
    {k : Nat} {p : Program σ} (hk : tasks[k]? = some p) : ∃ g, phases[k]? = some g := by
  have hklt : k < phases.length := hlen ▸ (List.getElem?_eq_some_iff.1 hk).1
  exact ⟨phases[k], List.getElem?_eq_getElem hklt⟩

/-- A relation between the states before and after a step of a phased pool holds when it holds
of what every segment guarantees, of every change of the world, and of a state and itself. -/
theorem Step.phased_rel (hrefl : ∀ s, H s s) (htrans : ∀ s₁ s₂ s₃, H s₁ s₂ → H s₂ s₃ → H s₁ s₃)
    {R : σ → σ → Prop} (hR : ∀ s, R s s) (hworld : ∀ s s', env s s' → R s s')
    (hG : ∀ g₀ s₀ s q g, G g₀ s₀ s q g → R s₀ s) {P Q : Pool σ}
    (hs : Step env allowed P Q) (hP : P.Phased G H init Inv) : R P.state Q.state := by
  obtain ⟨phases, hlen, hready, -⟩ := hP
  cases hs with
  | @run k p p' hk hp =>
    obtain ⟨g₀, hg₀⟩ := phase_of_task hlen hk
    obtain ⟨g, hG', -⟩ := (hready k p g₀ hk hg₀ P.clock P.state p' hp).runSegment hrefl htrans P.clock
    exact hG _ _ _ _ _ hG'
  | tick => exact hR _
  | world hw => exact hworld _ _ hw
  | start => exact hR _

section Readiness

variable {Rd : γ → Program σ → Prop}
  (hrun : ∀ g p t s p', Rd g p → p.resume t s = some p' →
    ∃ g', G g s (p'.runSegment t s).1 (p'.runSegment t s).2.2 g' ∧ H s (p'.runSegment t s).1 ∧
      Rd g' (p'.runSegment t s).2.2 ∧ ∀ c ∈ (p'.runSegment t s).2.1, Rd init c)
  (hseg : ∀ phases k g₀ s₀ s q g, phases[k]? = some g₀ → Inv s₀ phases → G g₀ s₀ s q g →
    H s₀ s → Inv s (phases.set k g))
  (hspawn : ∀ s phases, Inv s phases → Inv s (phases ++ [init]))
  (henv : ∀ s s' phases, env s s' → Inv s phases → Inv s' phases)
  (hstart : ∀ p, allowed p → Rd init p)
include hrun hseg hspawn henv hstart

/-- One step of an interleaving keeps the pool phased, for any readiness `Rd` such that a task
ready in a phase, once resumed, runs a segment that keeps the guarantees and leaves it, and the
tasks it starts, ready. -/
theorem Step.phasedBy {P Q : Pool σ} (hs : Step env allowed P Q) (hP : P.PhasedBy Rd Inv) :
    Q.PhasedBy Rd Inv := by
  obtain ⟨phases, hlen, hready, hinv⟩ := hP
  cases hs with
  | @run k p p' hk hp =>
    have hklt : k < P.tasks.length := (List.getElem?_eq_some_iff.1 hk).1
    obtain ⟨g₀, hg₀⟩ := phase_of_task hlen hk
    obtain ⟨g, hG, hH, hq, hc⟩ := hrun g₀ p P.clock P.state p' (hready k p g₀ hk hg₀) hp
    refine ⟨phases.set k g ++ List.replicate (p'.runSegment P.clock P.state).2.1.length init,
      by simp [Pool.runTask, hlen], ?_,
      inv_spawned hspawn (hseg phases k g₀ _ _ _ g hg₀ hinv hG hH) _⟩
    intro i q g' hqi hgi
    simp only [Pool.runTask] at hqi
    by_cases hi : i < P.tasks.length
    · -- a task that was there: the one that ran, or one that kept its place and phase
      rw [List.getElem?_append_left (by simpa using hi)] at hqi
      rw [List.getElem?_append_left (by simpa [hlen] using hi)] at hgi
      by_cases hik : i = k
      · subst hik
        rw [List.getElem?_set_self hklt] at hqi
        rw [List.getElem?_set_self (hlen ▸ hklt)] at hgi
        cases hqi
        cases hgi
        exact hq
      · rw [List.getElem?_set_ne (Ne.symm hik)] at hqi hgi
        exact hready i q g' hqi hgi
    · -- a task started in the segment, in phase `init`
      have hi' : P.tasks.length ≤ i := Nat.le_of_not_lt hi
      rw [List.getElem?_append_right (by simpa using hi')] at hqi
      rw [List.getElem?_append_right (by simpa [hlen] using hi')] at hgi
      simp only [List.length_set, hlen, List.getElem?_replicate] at hgi
      split at hgi
      · cases hgi
        exact hc q (List.mem_of_getElem? (by simpa [hlen] using hqi))
      · cases hgi
  | tick => exact ⟨phases, hlen, hready, hinv⟩
  | world hw => exact ⟨phases, hlen, hready, henv _ _ _ hw hinv⟩
  | @start p hp =>
    refine ⟨phases ++ [init], by simp [hlen], ?_, hspawn _ _ hinv⟩
    intro i q g hqi hgi
    by_cases hi : i < P.tasks.length
    · rw [List.getElem?_append_left hi] at hqi
      rw [List.getElem?_append_left (hlen ▸ hi)] at hgi
      exact hready i q g hqi hgi
    · have hi' : P.tasks.length ≤ i := Nat.le_of_not_lt hi
      rw [List.getElem?_append_right hi'] at hqi
      rw [List.getElem?_append_right (hlen ▸ hi')] at hgi
      have hq : q ∈ [p] := List.mem_of_getElem? hqi
      have hg : g ∈ [init] := List.mem_of_getElem? hgi
      rw [List.mem_singleton] at hq hg
      subst hq hg
      exact hstart q hp

/-- Every interleaving keeps the pool phased. -/
theorem Reaches.phasedBy {P Q : Pool σ} (hr : Reaches env allowed P Q) (hP : P.PhasedBy Rd Inv) :
    Q.PhasedBy Rd Inv := by
  induction hr with
  | refl _ => exact hP
  | step hs _ ih => exact ih (Step.phasedBy hrun hseg hspawn henv hstart hs hP)

end Readiness

variable (hrefl : ∀ s, H s s) (htrans : ∀ s₁ s₂ s₃, H s₁ s₂ → H s₂ s₃ → H s₁ s₃)
  (hseg : ∀ phases k g₀ s₀ s q g, phases[k]? = some g₀ → Inv s₀ phases → G g₀ s₀ s q g →
    H s₀ s → Inv s (phases.set k g))
  (hspawn : ∀ s phases, Inv s phases → Inv s (phases ++ [init]))
  (henv : ∀ s s' phases, env s s' → Inv s phases → Inv s' phases)
  (hstart : ∀ p, allowed p → p.PSafe G H init init)
include hrefl htrans hseg hspawn henv hstart

/-- One step of an interleaving keeps the pool phased. -/
theorem Step.phased {P Q : Pool σ} (hs : Step env allowed P Q) (hP : P.Phased G H init Inv) :
    Q.Phased G H init Inv := by
  refine Step.phasedBy (fun g p t s p' hp hr => ?_) hseg hspawn henv (fun p h => (hstart p h).ready)
    hs hP
  obtain ⟨g', hG, hH, hq, hc⟩ := (hp t s p' hr).runSegment hrefl htrans t
  exact ⟨g', hG, hH, hq, fun c hc' => (hc c hc').ready⟩

/-- Every interleaving keeps the pool phased. -/
theorem Reaches.phased {P Q : Pool σ} (hr : Reaches env allowed P Q) (hP : P.Phased G H init Inv) :
    Q.Phased G H init Inv := by
  induction hr with
  | refl _ => exact hP
  | step hs _ ih => exact ih (Step.phased hrefl htrans hseg hspawn henv hstart hs hP)

end Lifting

end Pool

namespace Async

/-- A guarantee with phases of `a` whatever code follows it: entered in a segment where `Pre`
holds of the phase and state the segment started in and the phase and state now, and followed
by code that keeps the guarantees wherever `Post` holds of its value, phases and states, it keeps
them. -/
def TripleP (G : γ → σ → σ → Program σ → γ → Prop) (H : σ → σ → Prop) (init : γ)
    (Pre : γ → γ → σ → σ → Prop) (a : Async σ α) (Post : α → γ → γ → σ → σ → Prop) : Prop :=
  ∀ k : α → Program σ, (∀ v g₀ g s₀ s, Post v g₀ g s₀ s → (k v).PGuards G H init g₀ g s₀ s) →
    ∀ g₀ g s₀ s, Pre g₀ g s₀ s → (a k).PGuards G H init g₀ g s₀ s

namespace TripleP

variable {G : γ → σ → σ → Program σ → γ → Prop} {H : σ → σ → Prop} {init : γ}
variable {P P' : γ → γ → σ → σ → Prop} {Q Q' : α → γ → γ → σ → σ → Prop}
  {R : β → γ → γ → σ → σ → Prop}

theorem conseq {a : Async σ α} (h : TripleP G H init P a Q)
    (hP : ∀ g₀ g s₀ s, P' g₀ g s₀ s → P g₀ g s₀ s)
    (hQ : ∀ v g₀ g s₀ s, Q v g₀ g s₀ s → Q' v g₀ g s₀ s) : TripleP G H init P' a Q' :=
  fun k hk g₀ g s₀ s hpre =>
    h k (fun v g₀ g s₀ s hq => hk v g₀ g s₀ s (hQ v g₀ g s₀ s hq)) g₀ g s₀ s (hP g₀ g s₀ s hpre)

theorem pure (v : α) : TripleP G H init (Q v) (Pure.pure v : Async σ α) Q :=
  fun _ hk => hk v

theorem bind {a : Async σ α} {f : α → Async σ β} (ha : TripleP G H init P a Q)
    (hf : ∀ v, TripleP G H init (Q v) (f v) R) : TripleP G H init P (a >>= f) R :=
  fun k hk => ha (fun v => f v k) fun v => hf v k hk

theorem ite {c : Prop} [Decidable c] {a b : Async σ α} (ha : TripleP G H init P a Q)
    (hb : TripleP G H init P b Q) : TripleP G H init P (if c then a else b) Q := by
  split
  · exact ha
  · exact hb

/-- A change of the state, after which the task may be in another phase. -/
theorem modify {Q : Unit → γ → γ → σ → σ → Prop} (f : σ → σ) :
    TripleP G H init (fun g₀ _ s₀ s => H s (f s) ∧ ∃ g', Q () g₀ g' s₀ (f s)) (Async.modify f) Q := by
  intro k hk g₀ g s₀ s hpre
  obtain ⟨hH, g', hq⟩ := hpre
  exact ⟨hH, g', hk () g₀ g' s₀ (f s) hq⟩

theorem modifyGet (f : σ → α × σ) :
    TripleP G H init (fun g₀ _ s₀ s => H s (f s).2 ∧ ∃ g', Q (f s).1 g₀ g' s₀ (f s).2)
      (Async.modifyGet f) Q := by
  intro k hk g₀ g s₀ s hpre t
  obtain ⟨hH, g', hq⟩ := hpre
  exact ⟨hH, g', hk (f s).1 g₀ g' s₀ (f s).2 hq⟩

theorem read (f : σ → α) :
    TripleP G H init (fun g₀ g s₀ s => Q (f s) g₀ g s₀ s) (Async.read f) Q :=
  fun _ hk g₀ g s₀ s hpre _ => hk _ g₀ g s₀ s hpre

theorem now {Q : Nat → γ → γ → σ → σ → Prop} :
    TripleP G H init (fun g₀ g s₀ s => ∀ t, Q t g₀ g s₀ s) (Async.now : Async σ Nat) Q :=
  fun _ hk g₀ g s₀ s hpre t => hk t g₀ g s₀ s (hpre t)

/-- Giving way ends the segment, which must then be a step of `G` wherever the task stops; the
next segment starts afresh, from any state, in the phase the task is in. -/
theorem spend {Q : Unit → γ → γ → σ → σ → Prop} :
    TripleP G H init (fun g₀ g s₀ s => (∀ q, G g₀ s₀ s q g) ∧ ∀ s', Q () g g s' s')
      (Async.spend : Async σ Unit) Q :=
  fun _ hk _ g _ _ hpre => ⟨hpre.1 _, fun s' => hk () g g s' s' (hpre.2 s')⟩

theorem waitUntil {Q : Unit → γ → γ → σ → σ → Prop} (ready : σ → Bool) (deadline : Option Nat) :
    TripleP G H init (fun g₀ g s₀ s => (∀ q, G g₀ s₀ s q g) ∧ ∀ s', Q () g g s' s')
      (Async.waitUntil ready deadline) Q :=
  fun _ hk _ g _ _ hpre => ⟨hpre.1 _, fun s' => hk () g g s' s' (hpre.2 s')⟩

theorem sleep {Q : Unit → γ → γ → σ → σ → Prop} (ms : Nat) :
    TripleP G H init (fun g₀ g s₀ s => (∀ q, G g₀ s₀ s q g) ∧ ∀ s', Q () g g s' s')
      (Async.sleep ms : Async σ Unit) Q :=
  fun _ hk _ g _ _ hpre _ => ⟨hpre.1 _, fun s' => hk () g g s' s' (hpre.2 s')⟩

/-- A task started from code that keeps the guarantees from phase `init`. -/
theorem spawn {Q : Unit → γ → γ → σ → σ → Prop} {child : Async σ Unit}
    (hc : TripleP G H init (fun g₀ g s₀ s => g₀ = init ∧ g = init ∧ s₀ = s) child
      (fun _ g₀ g s₀ s => G g₀ s₀ s .done g)) :
    TripleP G H init (Q ()) (Async.spawn child) Q := by
  intro k hk g₀ g s₀ s hpre
  exact ⟨fun s' => hc (fun _ => .done) (fun _ _ _ _ _ h => h) init init s' s' ⟨rfl, rfl, rfl⟩,
    hk () g₀ g s₀ s hpre⟩

/-- The program of code that keeps the guarantees from phase `g` is a task safe from `g`. -/
theorem safe {a : Async σ α} {g : γ}
    (ha : TripleP G H init (fun g₀' g' s₀ s => g₀' = g ∧ g' = g ∧ s₀ = s) a
      (fun _ g₀ g s₀ s => G g₀ s₀ s .done g)) :
    a.toProgram.PSafe G H init g :=
  fun s => ha (fun _ => .done) (fun _ _ _ _ _ h => h) g g s s ⟨rfl, rfl, rfl⟩

/-- A loop over a list whose body keeps an invariant keeps it. -/
theorem forIn {xs : List β} {body : β → Unit → Async σ (ForInStep Unit)}
    (hb : ∀ x, TripleP G H init P (body x ()) (fun _ => P)) :
    TripleP G H init P (ForIn.forIn xs () body) (fun _ => P) := by
  induction xs with
  | nil => exact pure ()
  | cons x rest ih =>
    simp only [List.forIn_cons]
    refine bind (hb x) fun r => ?_
    cases r with
    | done u => exact pure u
    | yield u => exact ih

end TripleP

end Async

end AgentLink.Concurrency
