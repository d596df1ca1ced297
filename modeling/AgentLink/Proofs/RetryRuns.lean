import AgentLink.Proofs.RetrySchedule

/-!
# The client's retry loop keeps the schedule of `RetryPolicy.run`

`RetryPolicy.run` reads a retried call off a script of outcomes; `Client.retrying` is the loop
the handshake runs, a task that calls an operation, sleeps, and calls it again. The two agree.
Let the state count the calls of the operation made so far, the rest of the host leave that
count alone, and call `n` (from 0) return `outcome n`. Then every finished run of
`Client.withRetry` returns what `run` returns for that script, having made exactly as many calls
as `run` lists start times (`Client.withRetry_ends`). Call `n` may assume that it begins no
earlier than the start plus the waits after calls `1` to `n`, which are the start times `run`
lists: each sleep of the loop lasts its delay rounded up to whole milliseconds
(`Duration.sleepLength_le_ceilMillis`), and the clock never goes back.

Finished runs are those of `Program.Ends`: a task started at clock `t` in state `s` finishes at
`t'` in `s'`; whenever it gives way, the rest of the host moves the state as a relation `E`
allows and the clock goes forward, and a wait ends once its condition holds or its deadline has
come. `Async.Ends` is the same for code followed by a continuation, in the manner of a Hoare
triple, with a rule for each primitive the loop uses.
-/

namespace AgentLink

open Concurrency

namespace Concurrency.Program

variable {σ : Type}

/-- Finished runs of a task on the clock: `p`, started at clock `t` in state `s`, finishes at
clock `t'` in state `s'`. Whenever it gives way the rest of the host moves the state from `s` to
some `s₁` with `E s s₁` and the clock forward to `u`; a wait ends once its condition holds of
`s₁` or its deadline is no later than `u`. The tasks it starts are left to themselves. -/
inductive Ends (E : σ → σ → Prop) : Program σ → Nat → σ → Nat → σ → Prop
  | done (t : Nat) (s : σ) : Ends E .done t s t s
  | update {f : σ → σ} {next : Program σ} {t t' : Nat} {s s' : σ} :
      Ends E next t (f s) t' s' → Ends E (.update f next) t s t' s'
  | look {next : Nat → σ → Program σ} {t t' : Nat} {s s' : σ} :
      Ends E (next t s) t s t' s' → Ends E (.look next) t s t' s'
  | wait {ready : σ → Bool} {deadline : Option Nat} {next : Program σ} {t t' : Nat} {s s' : σ}
      (u : Nat) (s₁ : σ) (hE : E s s₁) (ht : t ≤ u)
      (hready : ready s₁ = true ∨ ∃ d, deadline = some d ∧ d ≤ u) :
      Ends E next u s₁ t' s' → Ends E (.wait ready deadline next) t s t' s'
  | spend {next : Program σ} {t t' : Nat} {s s' : σ} (u : Nat) (s₁ : σ) (hE : E s s₁)
      (ht : t ≤ u) : Ends E next u s₁ t' s' → Ends E (.spend next) t s t' s'
  | spawn {child next : Program σ} {t t' : Nat} {s s' : σ} :
      Ends E next t s t' s' → Ends E (.spawn child next) t s t' s'

end Concurrency.Program

namespace Concurrency.Async

variable {σ α β : Type} {E : σ → σ → Prop}

/-- Every finished run of `a` followed by `k`, started at clock `t` in a state where `P` holds,
is a finished run of `a` that returns `v` at a clock `u ≥ t` in a state `s'` with `R v u s'`,
followed by a finished run of `k v` from there. -/
def Ends (E : σ → σ → Prop) (P : Nat → σ → Prop) (a : Async σ α) (R : α → Nat → σ → Prop) :
    Prop :=
  ∀ k t s t' s', P t s → (a k).Ends E t s t' s' →
    ∃ v u s₁, t ≤ u ∧ R v u s₁ ∧ (k v).Ends E u s₁ t' s'

namespace Ends

variable {P P' : Nat → σ → Prop} {R R' : α → Nat → σ → Prop}

theorem conseq {a : Async σ α} (h : Ends E P a R) (hP : ∀ t s, P' t s → P t s)
    (hR : ∀ v u s, R v u s → R' v u s) : Ends E P' a R' := by
  intro k t s t' s' hs hrun
  obtain ⟨v, u, s₁, ht, hr, hk⟩ := h k t s t' s' (hP t s hs) hrun
  exact ⟨v, u, s₁, ht, hR v u s₁ hr, hk⟩

/-- A fact the precondition carries may be assumed. -/
theorem assume {a : Async σ α} {c : Prop} (hc : ∀ t s, P t s → c) (h : c → Ends E P a R) :
    Ends E P a R :=
  fun k t s t' s' hs => h (hc t s hs) k t s t' s' hs

/-- The clock never goes back: what holds of it, and of every later time, when `a` begins
holds when `a` returns. -/
theorem mono_clock {a : Async σ α} (h : Ends E P a R) (B : Nat → Prop)
    (hB : ∀ t u, t ≤ u → B t → B u) : Ends E (fun t s => P t s ∧ B t) a fun v u s => R v u s ∧ B u := by
  intro k t s t' s' ⟨hs, hb⟩ hrun
  obtain ⟨v, u, s₁, ht, hr, hk⟩ := h k t s t' s' hs hrun
  exact ⟨v, u, s₁, ht, ⟨hr, hB t u ht hb⟩, hk⟩

theorem pure (v : α) : Ends E P (Pure.pure v : Async σ α) fun w u s => w = v ∧ P u s :=
  fun _ t s _ _ hs hrun => ⟨v, t, s, le_rfl, ⟨rfl, hs⟩, hrun⟩

theorem bind {a : Async σ α} {f : α → Async σ β} {Q : α → Nat → σ → Prop}
    {S : β → Nat → σ → Prop} (ha : Ends E P a Q) (hf : ∀ v, Ends E (Q v) (f v) S) :
    Ends E P (a >>= f) S := by
  intro k t s t' s' hs hrun
  obtain ⟨v, u, s₁, ht, hq, hrest⟩ := ha (fun v => f v k) t s t' s' hs hrun
  obtain ⟨w, u', s₂, hu, hr, hk⟩ := hf v k u s₁ t' s' hq hrest
  exact ⟨w, u', s₂, ht.trans hu, hr, hk⟩

theorem now : Ends E P (Async.now : Async σ Nat) fun v u s => v = u ∧ P u s := by
  intro k t s t' s' hs hrun
  cases hrun with
  | look hk => exact ⟨t, t, s, le_rfl, ⟨rfl, hs⟩, hk⟩

theorem modifyGet (f : σ → α × σ) :
    Ends E P (Async.modifyGet f) fun v u s' => ∃ s, P u s ∧ f s = (v, s') := by
  intro k t s t' s' hs hrun
  cases hrun with
  | look hnext =>
    cases hnext with
    | update hk => exact ⟨(f s).1, t, (f s).2, le_rfl, ⟨s, hs, rfl⟩, hk⟩

/-- A wait ends where its condition holds or past its deadline, once the rest of the host has
moved the state. -/
theorem waitUntil (ready : σ → Bool) (deadline : Option Nat) :
    Ends E P (Async.waitUntil ready deadline) fun _ u s' =>
      ∃ t s, P t s ∧ E s s' ∧ (ready s' = true ∨ ∃ d, deadline = some d ∧ d ≤ u) := by
  intro k t s t' s' hs hrun
  cases hrun with
  | wait u s₁ hE ht hready hk => exact ⟨(), u, s₁, ht, ⟨t, s, hs, hE, hready⟩, hk⟩

/-- A sleep of `n` milliseconds ends no earlier than `n` after it began, or thirty years when
that is shorter. -/
theorem sleep (n : Nat) :
    Ends E P (Async.sleep n) fun _ u s' =>
      ∃ t s, P t s ∧ E s s' ∧ t + min n Duration.longestSleep.millis ≤ u := by
  refine now.bind fun t₀ => (waitUntil _ _).conseq (fun _ _ h => h) ?_
  rintro _ u s' ⟨t, s, ⟨rfl, hs⟩, hE, hready⟩
  -- the sleep's condition never holds, so its deadline ended it
  simp only [Bool.false_eq_true, false_or, Option.some.injEq, exists_eq_left'] at hready
  exact ⟨_, s, hs, hE, hready⟩

end Ends

end Concurrency.Async

/-- A sleep of `d` rounded up to whole milliseconds, as the client sleeps, lasts at least what
`sleepLength` says. -/
theorem Duration.sleepLength_le_ceilMillis (d : Duration) :
    d.sleepLength.nanos ≤ min d.ceilMillis Duration.longestSleep.millis * 1000000 := by
  have hms : Duration.longestSleep.millis = 946080000000 := rfl
  rw [Duration.sleepLength_nanos, Duration.longestSleep_nanos, hms]
  unfold Duration.ceilMillis
  omega

/-- The waits after attempts `first` to `first + n` are those up to `first + n - 1`, then the
one after attempt `first + n`. -/
theorem RetryPolicy.slept_add_one (p : RetryPolicy) (first n : Nat) :
    p.slept first (n + 1) = p.slept first n + (p.delayFor (first + n)).sleepLength.nanos :=
  Finset.sum_range_succ _ _

/-- The loop stops at an attempt that succeeds or is the last allowed, with its outcome. -/
theorem RetryPolicy.loop_of_stop {α : Type} (p : RetryPolicy) (outcome : Nat → Except Failure α)
    {attempt fuel : Nat} {now : Duration}
    (h : (outcome (attempt - 1)).isOk = true ∨ ¬ attempt < p.attempts) :
    p.loop outcome attempt now (fuel + 1) = (outcome (attempt - 1), [now]) := by
  cases hout : outcome (attempt - 1) with
  | ok v => simp only [RetryPolicy.loop, hout]
  | error e =>
    have hlast : ¬ attempt < p.attempts := by
      simpa [hout, Except.isOk, Except.toBool] using h
    simp only [RetryPolicy.loop, hout, hlast, if_false]

/-- The loop past a failed attempt that is not the last allowed: the rest of the loop from the
next attempt, after the wait. -/
theorem RetryPolicy.loop_of_error {α : Type} (p : RetryPolicy) (outcome : Nat → Except Failure α)
    {attempt fuel : Nat} {now : Duration} {e : Failure} (h : outcome (attempt - 1) = .error e)
    (hmore : attempt < p.attempts) :
    p.loop outcome attempt now (fuel + 1) =
      ((p.loop outcome (attempt + 1) (now.saturatingAdd (p.delayFor attempt).sleepLength) fuel).1,
        now :: (p.loop outcome (attempt + 1)
          (now.saturatingAdd (p.delayFor attempt).sleepLength) fuel).2) := by
  cases hrest : p.loop outcome (attempt + 1) (now.saturatingAdd (p.delayFor attempt).sleepLength)
    fuel
  simp only [RetryPolicy.loop, h, hmore, if_true, hrest]

/-- The clock past the sleep after attempt `attempt`: when the attempt began no earlier than `t₀`
plus the waits after attempts `1` to `attempt - 1`, sleeping its delay rounded up to whole
milliseconds ends no earlier than `t₀` plus the waits after attempts `1` to `attempt`. -/
theorem RetryPolicy.slept_past_sleep (p : RetryPolicy) {t₀ t u attempt : Nat} (hfirst : 1 ≤ attempt)
    (hb : t₀ * 1000000 + p.slept 1 (attempt - 1) ≤ t * 1000000)
    (hu : t + min (p.delayFor attempt).ceilMillis Duration.longestSleep.millis ≤ u) :
    t₀ * 1000000 + p.slept 1 attempt ≤ u * 1000000 := by
  have hwait := Duration.sleepLength_le_ceilMillis (p.delayFor attempt)
  have hslept := p.slept_add_one 1 (attempt - 1)
  rw [show 1 + (attempt - 1) = attempt by omega, show attempt - 1 + 1 = attempt by omega]
    at hslept
  rw [hslept]
  -- in nanoseconds: the bound before the sleep, plus a wait no longer than the sleep; stated
  -- over plain numbers, as the kernel is slow to check it over the delay's terms
  have hpast : ∀ a b c w t u : Nat, a + b ≤ t * 1000000 → c ≤ w * 1000000 → t + w ≤ u →
      a + (b + c) ≤ u * 1000000 := fun a b c w t u h₁ h₂ h₃ =>
    calc a + (b + c) ≤ t * 1000000 + w * 1000000 := by omega
      _ = (t + w) * 1000000 := (Nat.add_mul _ _ _).symm
      _ ≤ u * 1000000 := Nat.mul_le_mul_right _ h₃
  exact hpast _ _ _ _ t u hb hwait hu

namespace Client

variable {E : Memory → Memory → Prop} {α : Type} (p : RetryPolicy) (op : Act (Except Failure α))
  (count : Memory → Nat) (outcome : Nat → Except Failure α) (t₀ : Nat)

/-- From call `attempt` on, with fuel for the calls the policy still allows, every finished run
of the loop returns what `RetryPolicy.loop` returns for the script, and makes as many calls as
the loop lists start times. -/
theorem retrying_ends (hE : ∀ s s', E s s' → count s' = count s)
    (hop : ∀ n, Async.Ends E (fun t s => count s = n ∧ t₀ * 1000000 + p.slept 1 n ≤ t * 1000000)
      op fun r _ s => r = outcome n ∧ count s = n + 1) :
    ∀ fuel attempt (now : Duration), 1 ≤ attempt → attempt + fuel = p.attempts + 1 → 1 ≤ fuel →
      Async.Ends E (fun t s => count s = attempt - 1 ∧
          t₀ * 1000000 + p.slept 1 (attempt - 1) ≤ t * 1000000)
        (retrying p op attempt fuel) fun r _ s => r = (p.loop outcome attempt now fuel).1 ∧
          count s = attempt - 1 + (p.loop outcome attempt now fuel).2.length
  | 0, _, _, _, _, hfuel => absurd hfuel (by omega)
  | fuel + 1, attempt, now, hfirst, hbudget, _ => by
    -- the call, with the clock's bound carried past it
    have hcall := (hop (attempt - 1)).mono_clock
      (fun t => t₀ * 1000000 + p.slept 1 (attempt - 1) ≤ t * 1000000)
      fun _ _ htu h => h.trans (Nat.mul_le_mul_right _ htu)
    refine (hcall.conseq (fun _ _ h => ⟨h, h.2⟩) fun _ _ _ h => h).bind fun r =>
      Async.Ends.assume (fun _ _ h => h.1.1) fun hr => ?_
    subst hr
    cases hout : outcome (attempt - 1) with
    | ok v =>
      -- the call succeeds, and the loop stops with it
      refine (Async.Ends.pure _).conseq (fun _ _ h => h) ?_
      rintro _ _ s ⟨rfl, ⟨-, hs⟩, -⟩
      rw [p.loop_of_stop outcome (.inl (by simp [hout, Except.isOk, Except.toBool])), hout]
      exact ⟨rfl, by simp only [List.length_singleton]; omega⟩
    | error e =>
      by_cases hmore : attempt < p.attempts
      · -- the call fails and another is allowed: sleep, then the loop from the next call
        simp only [hmore, if_true]
        have hrest := retrying_ends hE hop fuel (attempt + 1)
          (now.saturatingAdd (p.delayFor attempt).sleepLength) (by omega) (by omega) (by omega)
        refine (Async.Ends.sleep _).bind fun _ => hrest.conseq ?_ ?_
        · rintro u s' ⟨t, s, ⟨⟨-, hs⟩, hb⟩, hE', hu⟩
          refine ⟨by rw [hE s s' hE', hs]; omega, ?_⟩
          rw [Nat.add_sub_cancel]
          exact p.slept_past_sleep hfirst hb hu
        · rintro r u s ⟨hr, hs⟩
          rw [p.loop_of_error outcome hout hmore]
          exact ⟨hr, by simp only [List.length_cons]; omega⟩
      · -- the call fails and was the last allowed: the loop stops with the failure
        simp only [hmore, if_false]
        refine (Async.Ends.pure _).conseq (fun _ _ h => h) ?_
        rintro _ _ s ⟨rfl, ⟨-, hs⟩, -⟩
        rw [p.loop_of_stop outcome (.inr hmore), hout]
        exact ⟨rfl, by simp only [List.length_singleton]; omega⟩

/-- The client's retry loop keeps the schedule of `RetryPolicy.run`. Say the state counts the
calls of the operation made, the rest of the host leaves that count alone, and call `n` (from
0) returns `outcome n`, where it may assume that it begins no earlier than the start `t₀` plus
the waits after calls `1` to `n`. Then every finished run of `withRetry p op`, begun at `t₀`
with no call made, returns what `p.run outcome` returns, having made as many calls as `run`
lists start times. -/
theorem withRetry_ends (hE : ∀ s s', E s s' → count s' = count s)
    (hop : ∀ n, Async.Ends E (fun t s => count s = n ∧ t₀ * 1000000 + p.slept 1 n ≤ t * 1000000)
      op fun r _ s => r = outcome n ∧ count s = n + 1) :
    Async.Ends E (fun t s => count s = 0 ∧ t = t₀) (withRetry p op) fun r _ s =>
      r = (p.run outcome).1 ∧ count s = (p.run outcome).2.length := by
  have hpos : 1 ≤ p.attempts := by unfold RetryPolicy.attempts; omega
  refine (retrying_ends p op count outcome t₀ hE hop p.attempts 1 Duration.zero le_rfl
    (Nat.add_comm _ _) hpos).conseq ?_ ?_
  · rintro t s ⟨hs, rfl⟩
    exact ⟨hs, by simp [RetryPolicy.slept_zero]⟩
  · rintro r u s ⟨hr, hs⟩
    exact ⟨hr, by rw [RetryPolicy.run]; simpa using hs⟩

/-- A call that answers from a script by the number of calls that have ended, and records its
own end among the host's finished calls. -/
def scriptedCall (outcomes : List (Except Failure Json.Value)) : Act (Except Failure Json.Value) :=
  Async.modifyGet fun m =>
    let r := RetryPolicy.scripted outcomes m.heard.finished.length
    (r, { m with heard := { m.heard with finished := m.heard.finished ++ [("call", .returned r)] } })

/-- Retrying a scripted call, with a host that ends no call of its own meanwhile, returns what
`RetryPolicy.run` returns for the script, after as many calls as `run` makes attempts. -/
theorem withRetry_scriptedCall (outcomes : List (Except Failure Json.Value)) :
    Async.Ends (fun s s' => s'.heard.finished.length = s.heard.finished.length)
      (fun t s => s.heard.finished.length = 0 ∧ t = t₀) (withRetry p (scriptedCall outcomes))
      fun r _ s => r = (p.run (RetryPolicy.scripted outcomes)).1 ∧
        s.heard.finished.length = (p.run (RetryPolicy.scripted outcomes)).2.length := by
  refine withRetry_ends p _ (fun s => s.heard.finished.length) _ t₀ (fun _ _ h => h) fun n => ?_
  refine (Async.Ends.modifyGet _).conseq (fun _ _ h => h) ?_
  -- the call reads its outcome at the count of ended calls, and ends one more
  rintro v u s' ⟨s, ⟨hs, -⟩, hcall⟩
  simp only [Prod.mk.injEq] at hcall
  obtain ⟨rfl, rfl⟩ := hcall
  simp [hs]

end Client

end AgentLink
