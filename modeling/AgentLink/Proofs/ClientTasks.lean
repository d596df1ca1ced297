import AgentLink.Proofs.LinkTasks
import AgentLink.Proofs.TurnEvents

/-!
# The client's calls keep the registry

The client's calls use a connection through its operations, and besides touch the turn record.
Two of their changes touch the registry: waiting for the turn to end adds a cell and holds it
among the waiters, and ending a turn lets go of every waiter at once and fills their cells. The
waiters' cells are filled in a loop, one change each; `Async.Triple.fills` says the loop acts as
one change, `Memory.fillAll`. With these, every call keeps the host's guarantees (`Keeps`).
-/

namespace AgentLink

open Concurrency Async Memory

namespace Memory

/-- Fill cells `ws`, in order, with `o`. -/
def fillAll (ws : List Nat) (o : Except Failure Json.Value) (m : Memory) : Memory :=
  ws.foldl (fun m w => m.modifyCell w (·.fill o)) m

/-- Add a cell and hold it among the turn's waiters, as waiting for the turn to end does. -/
def addWaiter (m : Memory) : Memory :=
  { m.addCell.2 with client := { m.client with turn := { m.client.turn with
      waiters := m.client.turn.waiters ++ [m.cells.size] } } }

@[simp] theorem client_fillAll (ws : List Nat) (o : Except Failure Json.Value) :
    ∀ m : Memory, (m.fillAll ws o).client = m.client := by
  induction ws with
  | nil => exact fun _ => rfl
  | cons w ws ih => exact fun m => ih (m.modifyCell w _)

@[simp] theorem links_fillAll (ws : List Nat) (o : Except Failure Json.Value) :
    ∀ m : Memory, (m.fillAll ws o).links = m.links := by
  induction ws with
  | nil => exact fun _ => rfl
  | cons w ws ih => exact fun m => ih (m.modifyCell w _)

@[simp] theorem size_fillAll (ws : List Nat) (o : Except Failure Json.Value) :
    ∀ m : Memory, (m.fillAll ws o).cells.size = m.cells.size := by
  induction ws with
  | nil => exact fun _ => rfl
  | cons w ws ih => exact fun m => (ih (m.modifyCell w _)).trans (Array.size_modify ..)

/-- Each cell filled, if it is one, is settled afterwards. -/
theorem isSettled_fillAll (o : Except Failure Json.Value) :
    ∀ (ws : List Nat) (m : Memory) (c : Nat), c ∈ ws → c < m.cells.size →
      ((m.fillAll ws o).cell c).isSettled = true
  | [], _, _, hc, _ => absurd hc List.not_mem_nil
  | w :: ws, m, c, hc, hlt => by
    change (((m.modifyCell w (·.fill o)).fillAll ws o).cell c).isSettled = true
    by_cases hin : c ∈ ws
    · exact isSettled_fillAll o ws _ c hin (by simpa [modifyCell] using hlt)
    · -- `c` is filled now, by `w`, and the later fills leave a settled cell alone
      have hw : c = w := by simpa [hin] using hc
      subst hw
      have hnow : ((m.modifyCell c (·.fill o)).cell c).isSettled = true := by
        rw [cell_modifyCell, if_pos ⟨rfl, hlt⟩]
        cases m.cell c <;> rfl
      exact stays ws _ hnow
where
  /-- Filling leaves a settled cell as it is. -/
  stays : ∀ (ws : List Nat) (m : Memory) {c : Nat}, (m.cell c).isSettled = true →
      ((m.fillAll ws o).cell c).isSettled = true
    | [], _, _, h => h
    | w :: ws, m, c, h => by
      refine stays ws (m.modifyCell w (·.fill o)) ?_
      rw [cell_modifyCell]
      split
      · rwa [fill_of_settled o _ h]
      · exact h

end Memory

namespace Client

theorem links_endTurn (k : Nat) (outcome : Except Failure Json.Value) (m : Memory) :
    (endTurn k outcome m).2.links = m.links := by
  unfold endTurn
  dsimp only
  split
  · split
    · exact (tablesKept_deliver _ _ _).1
    · rfl
  · rfl

theorem cells_endTurn (k : Nat) (outcome : Except Failure Json.Value) (m : Memory) :
    (endTurn k outcome m).2.cells = m.cells := by
  unfold endTurn
  dsimp only
  split
  · split
    · exact (tablesKept_deliver _ _ _).2.1
    · rfl
  · rfl

end Client

/-- The loop that fills the waiters' cells acts as one change, `Memory.fillAll`. -/
theorem Concurrency.Async.Triple.fills {G : Memory → Memory → Program Memory → Prop}
    {H : Memory → Memory → Prop} {Q : Unit → Memory → Memory → Prop}
    (o : Except Failure Json.Value) (hH : ∀ s c, H s (s.modifyCell c (·.fill o))) :
    ∀ ws : List Nat, Triple G H (fun s₀ s => Q () s₀ (s.fillAll ws o))
      (ForIn.forIn ws () fun w _ => do Act.fill w o; Pure.pure (ForInStep.yield ())) Q
  | [] => Triple.pure ()
  | w :: ws => by
    simp only [List.forIn_cons]
    refine Triple.bind (Q := fun r s₀ s => r = .yield () ∧ Q () s₀ (s.fillAll ws o)) ?_
      fun r => ?_
    · exact Triple.bind (Triple.conseq (Triple.modify _) (fun _ s h => ⟨hH s w, rfl, h⟩)
        fun _ _ _ h => h) fun _ => Triple.pure _
    · cases r with
      | done u => exact fun _ _ _ _ h => absurd h.1 (by simp)
      | yield u => exact Triple.conseq (Triple.fills o hH ws) (fun _ _ h => h.2) fun _ _ _ h => h

namespace Memory

/-- Ending a turn lets go of its waiters, and touches no connection and no cell. -/
theorem Steady.release (k : Nat) (outcome : Except Failure Json.Value) (s : Memory) :
    Steady s (Client.endTurn k outcome s).2 := by
  have hl := Client.links_endTurn k outcome s
  have hlink : ∀ j, (Client.endTurn k outcome s).2.link j = s.link j := fun j => by
    simp only [link, hl]
  refine ⟨Progress.of_holds (Progress.refl s) (Client.cells_endTurn k outcome s)
    (fun j => by rw [hlink]) (fun j h => by rwa [hlink]) (fun h j => by simpa [hlink] using h.keys j)
    (fun h j => by simpa [hlink] using h.slotKeys j) (fun _ => by simp) fun _ d p hp => .inl ?_,
    fun j h => by rwa [hlink] at h⟩
  cases p with
  | call j x => simpa [Holds, hlink] using hp
  | slot j key => simpa [Holds, hlink] using hp
  | waiter => simp [Holds] at hp

/-- Filling cells that were waiters at `b` and are held as waiters no more keeps a stretch from
`b` steady. -/
theorem Steady.fillAll {b : Memory} (o : Except Failure Json.Value) :
    ∀ (ws : List Nat) (m : Memory), Steady b m → m.client.turn.waiters = [] →
      (∀ c ∈ ws, c ∈ b.client.turn.waiters) → Steady b (m.fillAll ws o)
  | [], _, hs, _, _ => hs
  | c :: ws, m, hs, hw, hheld => by
    have hc : Steady b (m.modifyCell c (·.fill o)) :=
      Steady.settle m hs (p := .waiter) (fun _ => hheld c List.mem_cons_self)
        (fun _ h => by simp [Holds, hw] at h) (fill_of_settled o) fun _ _ h => by cases h
    exact Steady.fillAll o ws _ hc hw fun d hd => hheld d (List.mem_cons_of_mem _ hd)

/-- Ending a turn and filling the cells of the waiters it let go of keeps a stretch steady. -/
theorem Steady.endTurn {s₀ s : Memory} (hs : Steady s₀ s) (k : Nat)
    (outcome o : Except Failure Json.Value) :
    Steady s₀ ((Client.endTurn k outcome s).2.fillAll s.client.turn.waiters o) :=
  hs.trans (Steady.fillAll o _ _ (Steady.release k outcome s) (by simp) fun _ hc => hc)

/-- Holding a new cell among the waiters keeps the state steady: no one held it before. -/
theorem Steady.addWaiter (s : Memory) : Steady s s.addWaiter := by
  have hfresh : s.Consistent → ∀ p, ¬ s.Holds s.cells.size p :=
    fun h p hp => Nat.lt_irrefl _ (h.live _ p hp).1
  refine ⟨Progress.of_holds (Steady.addCell s).1 rfl (fun _ => rfl) (fun _ h => h)
    (fun h j => h.keys j) (fun h j => h.slotKeys j) (fun h => ?_) (fun h d p hp => ?_),
    fun _ h => h⟩
  · refine List.nodup_append.2 ⟨h.waiters, List.nodup_singleton _, ?_⟩
    rintro a ha b hb rfl
    rw [List.mem_singleton] at hb
    exact hfresh h .waiter (hb ▸ ha)
  · cases p with
    | call j x => exact .inl hp
    | slot j key => exact .inl hp
    | waiter =>
      rcases List.mem_append.1 hp with hp | hp
      · exact .inl hp
      · rw [List.mem_singleton] at hp
        subst hp
        refine .inr ⟨le_rfl, Array.size_push .. ▸ Nat.lt_succ_self _, by rw [cell_addCell, cell_size], ?_, ?_,
          fun _ _ h => by cases h⟩
        · rintro ⟨p, hp⟩
          exact hfresh h p (holds_addCell s |>.1 hp)
        · intro p' hp'
          cases p' with
          | call j x => exact absurd hp' (hfresh h (.call j x))
          | slot j key => exact absurd hp' (hfresh h (.slot j key))
          | waiter => rfl

end Memory

namespace Client

theorem keeps_modifyTurn {f : Turn → Turn} (h : ∀ t, (f t).waiters = t.waiters) :
    Keeps (modifyTurn f) :=
  Keeps.frame fun _ => ⟨rfl, rfl, h _⟩

theorem keeps_retrying {α : Type} (p : RetryPolicy) {op : Act (Except Failure α)} (hop : Keeps op) :
    ∀ attempt fuel, Keeps (retrying p op attempt fuel)
  | _, 0 => hop
  | attempt, fuel + 1 => by
    rw [retrying]
    refine Keeps.bind hop fun r => ?_
    split
    · exact Keeps.pure _
    · exact Keeps.ite (Keeps.bind (Keeps.sleep _) fun _ => keeps_retrying p hop _ fuel)
        (Keeps.pure _)

theorem keeps_newSession (cwd : String) (servers : List Json.Value) :
    Keeps (newSession cwd servers) := by
  unfold newSession
  refine Keeps.bind (Keeps.read _) fun link => ?_
  cases link with
  | none => exact Keeps.pure _
  | some i =>
    refine Keeps.bind (Keeps.read _) fun c =>
      Keeps.bind (keeps_retrying _ (Link.keeps_sendRequest i _ _ _) _ _) fun r => ?_
    split
    · exact Keeps.pure _
    · split
      · refine Keeps.ite (Keeps.pure _) ?_
        exact Keeps.bind (keeps_modifyTurn fun _ => rfl) fun _ => Keeps.pure _
      · exact Keeps.pure _

theorem keeps_cancel (session : String) : Keeps (cancel session) := by
  unfold cancel
  dsimp only
  refine Keeps.bind (Keeps.read _) fun c => ?_
  split
  · exact Keeps.bind (Link.keeps_sendNotification _ _ _) fun _ => Keeps.pure _
  · exact Keeps.pure _

theorem keeps_disconnect : Keeps disconnect := by
  unfold disconnect
  dsimp only
  refine Keeps.bind (Keeps.frameGet fun _ => ⟨rfl, rfl, rfl⟩) fun link => ?_
  split
  · exact Keeps.bind (keeps_modifyTurn fun _ => rfl) fun _ =>
      Keeps.bind (Link.keeps_close _) fun _ => Keeps.pure _
  · exact Keeps.pure _

theorem keeps_waitComplete : Keeps waitComplete := by
  unfold waitComplete
  dsimp only
  refine Keeps.bind (Keeps.modifyGet fun s => ?_) fun cell => ?_
  · split
    · exact ⟨Steady.addWaiter s, Sealed.of_frame s rfl⟩
    · exact ⟨Steady.refl s, Sealed.refl s⟩
  · split
    · exact Keeps.bind (Link.keeps_awaitCell _) fun _ => Keeps.pure _
    · exact Keeps.pure _

/-- A prompt: the check that starts the turn leaves the registry alone, and ending the turn
lets go of the waiters and fills their cells in one stretch. -/
theorem keeps_prompt (session : String) (content : List PromptItem) (sink : Nat) :
    Keeps (prompt session content sink) := by
  unfold prompt
  refine Keeps.bind (Keeps.read _) fun link => ?_
  cases link with
  | none => exact Keeps.pure _
  | some i =>
    refine Keeps.bind (Keeps.frameGet fun s => ?_) fun busy => Keeps.ite (Keeps.pure _) ?_
    · dsimp only
      split <;> exact ⟨rfl, rfl, rfl⟩
    refine Keeps.bind (Link.keeps_sendRequest i _ _ _) fun outcome => ?_
    refine Triple.bind (Q := fun ws s₀ s => Steady s₀ (s.fillAll ws (.ok .null))) ?_ fun ws =>
      Triple.bind (Triple.fills _ (fun s _ => Sealed.of_frame s rfl) ws) fun _ => Keeps.pure _
    exact Triple.conseq (Triple.modifyGet _)
      (fun _ s hs => ⟨Sealed.of_frame s (links_endTurn _ _ _), hs.endTurn _ _ _⟩)
      fun _ _ _ h => h

end Client

end AgentLink
