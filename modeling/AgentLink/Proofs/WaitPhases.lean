import AgentLink.Proofs.Phases

/-!
# Phases that move when a wait ends

`Program.PGuards` asks the code after a wait to keep the guarantees from any state, and keeps the
task in its phase across the wait. A lock taken by waiting for one's turn needs both to be
finer: the code after the wait runs only once the turn has come, and from then on its task holds
the lock. `Program.WGuards` is `PGuards` with a wait whose code is asked only of the states the
wait may end in, and after which the task may be in another phase; the segment that follows is a
step of `G` from the phase the task waited in, so `G` says which moves a wait may end in.

Every `PGuards` task is a `WGuards` task (`Program.PGuards.wguards`), and pools whose tasks are
ready in the sense of `WGuards` are phased along every interleaving
(`Pool.Reaches.wphased`, from `Pool.Reaches.phasedBy`); what their steps do follows from what
each segment guarantees (`Pool.Step.wphased_rel`).
-/

namespace AgentLink.Concurrency

variable {σ γ : Type}

namespace Program

section Waits

variable (G : γ → σ → σ → Program σ → γ → Prop) (H : σ → σ → Prop) (init : γ)

/-- `PGuards`, where the code after a wait keeps the guarantees from the states the wait may end
in, starting in any phase. -/
def WGuards : Program σ → γ → γ → σ → σ → Prop
  | .done, g₀, g, s₀, s => G g₀ s₀ s .done g
  | .update f next, g₀, _, s₀, s => H s (f s) ∧ ∃ g', next.WGuards g₀ g' s₀ (f s)
  | .look next, g₀, g, s₀, s => ∀ t, (next t s).WGuards g₀ g s₀ s
  | .wait ready deadline next, g₀, g, s₀, s =>
    G g₀ s₀ s (.wait ready deadline next) g ∧
      ∀ s', (ready s' = true ∨ deadline.isSome) → ∃ g', next.WGuards g g' s' s'
  | .spawn child next, g₀, g, s₀, s =>
    (∀ s', child.WGuards init init s' s') ∧ next.WGuards g₀ g s₀ s
  | .spend next, g₀, g, s₀, s => G g₀ s₀ s (.spend next) g ∧ ∀ s', next.WGuards g g s' s'

/-- A task that keeps the guarantees from phase `g`, whatever state it starts in. -/
def WSafe (g : γ) (p : Program σ) : Prop := ∀ s, p.WGuards G H init g g s s

/-- A stopped task that keeps the guarantees from phase `g` wherever it may go on. -/
def WReady (g : γ) (p : Program σ) : Prop :=
  ∀ t s p', p.resume t s = some p' → ∃ g', p'.WGuards G H init g g' s s

variable {G H init}

theorem wready_wait {g : γ} {ready : σ → Bool} {deadline : Option Nat} {next : Program σ}
    (h : ∀ s, (ready s = true ∨ deadline.isSome) → ∃ g', next.WGuards G H init g g' s s) :
    (Program.wait ready deadline next).WReady G H init g := by
  intro t s p' hr
  simp only [Program.resume, Option.ite_none_right_eq_some, Option.some.injEq] at hr
  obtain ⟨hready, rfl⟩ := hr
  refine h s ?_
  -- a wait ends on its condition or past a deadline, which it then has
  cases deadline with
  | none => simpa using hready
  | some d => exact .inr rfl

theorem WSafe.wready {g : γ} {p : Program σ} (hp : p.WSafe G H init g) : p.WReady G H init g := by
  intro t s p' hr
  rcases resume_eq_some hr with rfl | ⟨ready, deadline, rfl⟩ | rfl
  · exact ⟨g, hp s⟩
  · -- a wait goes on only where its condition holds or past its deadline
    exact wready_wait (hp s).2 t s p' hr
  · exact ⟨g, (hp s).2 s⟩

/-- A task that keeps the guarantees from any state after a wait keeps them from the states the
wait ends in. -/
theorem PGuards.wguards : ∀ {p : Program σ} {g₀ g : γ} {s₀ s : σ},
    p.PGuards G H init g₀ g s₀ s → p.WGuards G H init g₀ g s₀ s
  | .done, _, _, _, _, h => h
  | .update _ _, _, _, _, _, h => by
    obtain ⟨hH, g', hn⟩ := h
    exact ⟨hH, g', PGuards.wguards hn⟩
  | .look _, _, _, _, _, h => fun t => PGuards.wguards (h t)
  | .wait _ _ _, _, g, _, _, h => ⟨h.1, fun s' _ => ⟨g, PGuards.wguards (h.2 s')⟩⟩
  | .spawn _ _, _, _, _, _, h => ⟨fun s' => PGuards.wguards (h.1 s'), PGuards.wguards h.2⟩
  | .spend _, _, _, _, _, h => ⟨h.1, fun s' => PGuards.wguards (h.2 s')⟩

theorem PSafe.wsafe {g : γ} {p : Program σ} (hp : p.PSafe G H init g) : p.WSafe G H init g :=
  fun s => (hp s).wguards

/-- What a segment guarded in the sense of `WGuards` does: it ends in a step of `G` in some
phase, in which the task is ready to go on; it is a chain of `H`-steps; and the tasks it starts
are safe from `init`. -/
theorem WGuards.runSegment (hrefl : ∀ s, H s s) (htrans : ∀ s₁ s₂ s₃, H s₁ s₂ → H s₂ s₃ → H s₁ s₃)
    (t : Nat) : ∀ {p : Program σ} {g₀ g : γ} {s₀ s : σ}, p.WGuards G H init g₀ g s₀ s →
      ∃ g', G g₀ s₀ (p.runSegment t s).1 (p.runSegment t s).2.2 g' ∧ H s (p.runSegment t s).1 ∧
        (p.runSegment t s).2.2.WReady G H init g' ∧
        ∀ c ∈ (p.runSegment t s).2.1, c.WSafe G H init init
  | .done, _, g, _, s, h =>
    ⟨g, h, hrefl s, fun _ _ _ hr => by simp [Program.runSegment, Program.resume] at hr,
      by simp [Program.runSegment]⟩
  | .update f next, _, _, _, _, h => by
    obtain ⟨hH, g', hnext⟩ := h
    obtain ⟨g'', hg, hh, hq, hc⟩ := WGuards.runSegment hrefl htrans t hnext
    exact ⟨g'', hg, htrans _ _ _ hH hh, hq, hc⟩
  | .look next, _, _, _, _, h => by
    have := WGuards.runSegment hrefl htrans t (h t)
    exact this
  | .wait ready deadline next, _, g, _, s, h =>
    ⟨g, h.1, hrefl s, wready_wait h.2, by simp [Program.runSegment]⟩
  | .spawn child next, _, _, _, _, h => by
    obtain ⟨hchild, hnext⟩ := h
    obtain ⟨g', hg, hh, hq, hc⟩ := WGuards.runSegment hrefl htrans t hnext
    refine ⟨g', hg, hh, hq, ?_⟩
    intro c hmem
    simp only [Program.runSegment, List.mem_cons] at hmem
    rcases hmem with rfl | hmem
    · exact hchild
    · exact hc c hmem
  | .spend next, _, g, _, s, h =>
    ⟨g, h.1, hrefl s, fun _ s' p' hr => by cases hr; exact ⟨g, h.2 s'⟩,
      by simp [Program.runSegment]⟩

/-- A task ready in the sense of `WGuards` runs a segment that keeps the guarantees and leaves
it, and the tasks it starts, ready. -/
theorem WReady.run (hrefl : ∀ s, H s s) (htrans : ∀ s₁ s₂ s₃, H s₁ s₂ → H s₂ s₃ → H s₁ s₃)
    {g : γ} {p p' : Program σ} {t : Nat} {s : σ} (hp : p.WReady G H init g)
    (hr : p.resume t s = some p') :
    ∃ g', G g s (p'.runSegment t s).1 (p'.runSegment t s).2.2 g' ∧ H s (p'.runSegment t s).1 ∧
      (p'.runSegment t s).2.2.WReady G H init g' ∧
      ∀ c ∈ (p'.runSegment t s).2.1, c.WReady G H init init := by
  obtain ⟨g₁, hg₁⟩ := hp t s p' hr
  obtain ⟨g', hG, hH, hq, hc⟩ := hg₁.runSegment hrefl htrans t
  exact ⟨g', hG, hH, hq, fun c hc' => (hc c hc').wready⟩

end Waits

end Program

namespace Pool

section Lifting

variable {G : γ → σ → σ → Program σ → γ → Prop} {H : σ → σ → Prop} {init : γ}
variable {Inv : σ → List γ → Prop} {env : σ → σ → Prop} {allowed : Program σ → Prop}

/-- Every interleaving keeps phased a pool whose tasks are ready in the sense of `WGuards`. -/
theorem Reaches.wphased (hrefl : ∀ s, H s s) (htrans : ∀ s₁ s₂ s₃, H s₁ s₂ → H s₂ s₃ → H s₁ s₃)
    (hseg : ∀ phases k g₀ s₀ s q g, phases[k]? = some g₀ → Inv s₀ phases → G g₀ s₀ s q g →
      H s₀ s → Inv s (phases.set k g))
    (hspawn : ∀ s phases, Inv s phases → Inv s (phases ++ [init]))
    (henv : ∀ s s' phases, env s s' → Inv s phases → Inv s' phases)
    (hstart : ∀ p, allowed p → p.WSafe G H init init) {P Q : Pool σ}
    (hr : Reaches env allowed P Q) (hP : P.PhasedBy (fun g p => p.WReady G H init g) Inv) :
    Q.PhasedBy (fun g p => p.WReady G H init g) Inv :=
  Reaches.phasedBy (fun _ _ _ _ _ hp hr => Program.WReady.run hrefl htrans hp hr) hseg hspawn henv
    (fun p h => (hstart p h).wready) hr hP

/-- A relation between the states before and after a step of such a pool holds when it holds of
every segment's move from a phase, in a state that satisfies `Inv` with the pool's phases, of
every change of the world, and of a state and itself. -/
theorem Step.wphased_rel (hrefl : ∀ s, H s s) (htrans : ∀ s₁ s₂ s₃, H s₁ s₂ → H s₂ s₃ → H s₁ s₃)
    {R : σ → σ → Prop} (hR : ∀ s, R s s) (hworld : ∀ s s', env s s' → R s s')
    (hG : ∀ (phases : List γ) (k : Nat) g₀ s₀ s q g, phases[k]? = some g₀ → Inv s₀ phases →
      G g₀ s₀ s q g → R s₀ s)
    {P Q : Pool σ} (hs : Step env allowed P Q)
    (hP : P.PhasedBy (fun g p => p.WReady G H init g) Inv) : R P.state Q.state := by
  obtain ⟨phases, hlen, hready, hinv⟩ := hP
  cases hs with
  | @run k p p' hk hp =>
    obtain ⟨g₀, hg₀⟩ := phase_of_task hlen hk
    obtain ⟨g, hG', -⟩ := Program.WReady.run hrefl htrans (hready k p g₀ hk hg₀) hp
    exact hG phases k g₀ _ _ _ g hg₀ hinv hG'
  | tick => exact hR _
  | world hw => exact hworld _ _ hw
  | start => exact hR _

end Lifting

end Pool

end AgentLink.Concurrency
