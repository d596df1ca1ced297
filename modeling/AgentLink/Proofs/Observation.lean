import AgentLink.Proofs.Interleaving

/-!
# What a task shows of its runs

Some facts about a task are about what it does over a whole run, in any interleaving: which
bytes it takes from a pipe, which reports it makes. `Program.Emits obs E p s xs` says that `p`,
started in state `s`, has a finished run (its own and those of the tasks it starts) in which
its changes of the state show `xs`: each change from `s` to `s'` shows `obs s s'`. Whenever the
task gives way, the rest of the host may move the state from `s` to any `s'` with `E s s'`, and
what it does there shows nothing.

`Async.Emits` is the same for code that goes on with a continuation, in the manner of a Hoare
triple: every finished run of `a` followed by `k` is a finished run of `a`, which shows `put`
and returns `v` in a state where the postcondition holds, followed by one of `k v`. The rules
below give it for each primitive and for `bind`.
-/

namespace AgentLink.Concurrency

variable {σ α β γ : Type}

namespace Program

/-- Finished runs of a task and of the tasks it starts, in which their changes of the state show
`xs`. Whenever a task gives way the rest of the host moves the state from `s` to some `s'` with
`E s s'`, and a task started runs from such a state; a wait ends once its condition holds, or at
any time when it has a deadline. -/
inductive Emits (obs : σ → σ → List β) (E : σ → σ → Prop) : Program σ → σ → List β → Prop
  | done (s : σ) : Emits obs E .done s []
  | update {f : σ → σ} {next : Program σ} {s : σ} {xs : List β} :
      Emits obs E next (f s) xs → Emits obs E (.update f next) s (obs s (f s) ++ xs)
  | look {next : Nat → σ → Program σ} {s : σ} {xs : List β} (t : Nat) :
      Emits obs E (next t s) s xs → Emits obs E (.look next) s xs
  | wait {ready : σ → Bool} {deadline : Option Nat} {next : Program σ} {s : σ} {xs : List β}
      (s' : σ) (hw : E s s') (hready : ready s' = true ∨ deadline.isSome) :
      Emits obs E next s' xs → Emits obs E (.wait ready deadline next) s xs
  | spend {next : Program σ} {s : σ} {xs : List β} (s' : σ) (hw : E s s') :
      Emits obs E next s' xs → Emits obs E (.spend next) s xs
  | spawn {child next : Program σ} {s : σ} {xs xs' : List β} (s' : σ) (hw : E s s') :
      Emits obs E child s' xs → Emits obs E next s xs' → Emits obs E (.spawn child next) s (xs ++ xs')

end Program

namespace Async

variable {obs : σ → σ → List β} {E : σ → σ → Prop}

/-- Every finished run of `a` followed by `k`, from a state where `P` holds, is a finished run of
`a` that shows `put` and returns `v` in a state `s'` with `R v put s'`, followed by a finished
run of `k v` from `s'`. -/
def Emits (obs : σ → σ → List β) (E : σ → σ → Prop) (P : σ → Prop) (a : Async σ α)
    (R : α → List β → σ → Prop) : Prop :=
  ∀ k s xs, P s → (a k).Emits obs E s xs →
    ∃ v put s' rest, R v put s' ∧ (k v).Emits obs E s' rest ∧ xs = put ++ rest

namespace Emits

variable {P P' : σ → Prop} {R R' : α → List β → σ → Prop}

theorem conseq {a : Async σ α} (h : Emits obs E P a R) (hP : ∀ s, P' s → P s)
    (hR : ∀ v put s, R v put s → R' v put s) : Emits obs E P' a R' := by
  intro k s xs hs hrun
  obtain ⟨v, put, s', rest, hr, hk, rfl⟩ := h k s xs (hP s hs) hrun
  exact ⟨v, put, s', rest, hR v put s' hr, hk, rfl⟩

/-- A fact the precondition carries may be assumed. -/
theorem assume {a : Async σ α} {c : Prop} (hc : ∀ s, P s → c) (h : c → Emits obs E P a R) :
    Emits obs E P a R :=
  fun k s xs hs => h (hc s hs) k s xs hs

/-- A precondition that holds for some `x` may be taken for each `x` in turn. -/
theorem exists_pre {ι : Type} {Q : ι → σ → Prop} {a : Async σ α} (h : ∀ x, Emits obs E (Q x) a R) :
    Emits obs E (fun s => ∃ x, Q x s) a R :=
  fun k s xs ⟨x, hs⟩ => h x k s xs hs

theorem pure (v : α) :
    Emits obs E P (Pure.pure v : Async σ α) fun w put s => w = v ∧ put = [] ∧ P s :=
  fun _ s xs hs hrun => ⟨v, [], s, xs, ⟨rfl, rfl, hs⟩, hrun, rfl⟩

/-- What `a` shows comes first, then what `f` shows. -/
theorem bind {a : Async σ α} {f : α → Async σ γ} {Q : α → List β → σ → Prop}
    {R : γ → List β → σ → Prop} (ha : Emits obs E P a Q)
    (hf : ∀ v put, Emits obs E (Q v put) (f v) fun w put' s => R w (put ++ put') s) :
    Emits obs E P (a >>= f) R := by
  intro k s xs hs hrun
  obtain ⟨v, put, s₁, rest, hq, hrest, rfl⟩ := ha (fun v => f v k) s xs hs hrun
  obtain ⟨w, put', s₂, rest', hr, hk, rfl⟩ := hf v put k s₁ rest hq hrest
  exact ⟨w, put ++ put', s₂, rest', hr, hk, (List.append_assoc _ _ _).symm⟩

theorem modify (f : σ → σ) :
    Emits obs E P (Async.modify f : Async σ Unit) fun _ put s' =>
      ∃ s, P s ∧ s' = f s ∧ put = obs s (f s) := by
  intro k s xs hs hrun
  cases hrun with
  | update hk => exact ⟨(), _, f s, _, ⟨s, hs, rfl, rfl⟩, hk, rfl⟩

theorem modifyGet (f : σ → α × σ) :
    Emits obs E P (Async.modifyGet f : Async σ α) fun v put s' =>
      ∃ s, P s ∧ f s = (v, s') ∧ put = obs s s' := by
  intro k s xs hs hrun
  cases hrun with
  | look t hnext =>
    cases hnext with
    | update hk => exact ⟨(f s).1, _, (f s).2, _, ⟨s, hs, rfl, rfl⟩, hk, rfl⟩

theorem read (f : σ → α) :
    Emits obs E P (Async.read f : Async σ α) fun v put s => P s ∧ v = f s ∧ put = [] := by
  intro k s xs hs hrun
  cases hrun with
  | look t hk => exact ⟨f s, [], s, xs, ⟨hs, rfl, rfl⟩, hk, rfl⟩

/-- Code that goes on from a view of the state goes on from a state it was read off. -/
theorem read_bind {f : σ → α} {g : α → Async σ γ} {R : γ → List β → σ → Prop}
    (h : ∀ v, Emits obs E (fun s => P s ∧ v = f s) (g v) R) :
    Emits obs E P (Async.read f >>= g) R := by
  intro k s xs hs hrun
  cases hrun with
  | look t hk => exact h (f s) k s xs ⟨hs, rfl⟩ hk

/-- Giving way lets the rest of the host move the state as `E` allows. -/
theorem spend :
    Emits obs E P (Async.spend : Async σ Unit) fun _ put s' => (∃ s, P s ∧ E s s') ∧ put = [] := by
  intro k s xs hs hrun
  cases hrun with
  | spend s' hw hk => exact ⟨(), [], s', xs, ⟨⟨s, hs, hw⟩, rfl⟩, hk, rfl⟩

/-- Code that first gives way runs from a state the rest of the host moved to, which keeps its
precondition when `E` does. -/
theorem spend_bind {b : Async σ α} (hP : ∀ s s', P s → E s s' → P s') (h : Emits obs E P b R) :
    Emits obs E P (Async.spend >>= fun _ => b) R := by
  refine spend.bind fun _ put => assume (fun _ h => h.2) fun hput => ?_
  subst hput
  exact h.conseq (fun s' ⟨⟨s, hs, hw⟩, _⟩ => hP s s' hs hw) fun _ _ _ h => h

/-- A wait ends where its condition holds, or anywhere when it has a deadline. -/
theorem waitUntil (ready : σ → Bool) (deadline : Option Nat) :
    Emits obs E P (Async.waitUntil ready deadline : Async σ Unit) fun _ put s' =>
      (∃ s, P s ∧ E s s') ∧ (ready s' = true ∨ deadline.isSome) ∧ put = [] := by
  intro k s xs hs hrun
  cases hrun with
  | wait s' hw hready hk => exact ⟨(), [], s', xs, ⟨⟨s, hs, hw⟩, hready, rfl⟩, hk, rfl⟩

/-- Code that first waits with no deadline runs from a state the rest of the host moved to, in
which the wait's condition holds. -/
theorem waitUntil_bind {ready : σ → Bool} {b : Async σ α} {Q : σ → Prop}
    (hP : ∀ s s', P s → E s s' → Q s') (h : Emits obs E (fun s => Q s ∧ ready s = true) b R) :
    Emits obs E P (Async.waitUntil ready none >>= fun _ => b) R := by
  refine (waitUntil ready none).bind fun _ put => assume (fun _ h => h.2.2) fun hput => ?_
  subst hput
  refine h.conseq (fun s' ⟨⟨s, hs, hw⟩, hready, _⟩ => ⟨hP s s' hs hw, ?_⟩) fun _ _ _ h => h
  simpa using hready

/-- A finished run of `a` on its own shows what the postcondition allows. -/
theorem toProgram {a : Async σ α} (h : Emits obs E P a R) {s : σ} {xs : List β} (hs : P s)
    (hrun : a.toProgram.Emits obs E s xs) : ∃ v s', R v xs s' := by
  obtain ⟨v, put, s', rest, hr, hk, rfl⟩ := h _ s xs hs hrun
  cases hk
  exact ⟨v, s', by rw [List.append_nil]; exact hr⟩

/-- A task started runs from a state the rest of the host moved to; what its finished runs show
comes first, and the starting task goes on where it was. -/
theorem spawn {child : Async σ Unit} {C : List β → Prop}
    (hc : ∀ s s' xs, P s → E s s' → child.toProgram.Emits obs E s' xs → C xs) :
    Emits obs E P (Async.spawn child) fun _ put s => C put ∧ P s := by
  intro k s xs hs hrun
  cases hrun with
  | spawn s' hw hchild hk => exact ⟨(), _, s, _, ⟨hc s s' _ hs hw hchild, hs⟩, hk, rfl⟩

end Emits

end Async

end AgentLink.Concurrency
