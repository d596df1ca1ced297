import AgentLink.Proofs.Registry

/-!
# How each change of the memory moves the registry

The tasks change the registry in few ways: a change that leaves the tables alone, one that
removes entries, one that puts a fresh cell in a new place, and one that settles a cell whose
place has just been removed. `Progress.of_holds` and `Progress.settle` say when the last two
keep a stretch of a segment progressing; the lemmas after them apply these to the changes the
code makes: taking an id and a cell, registering a call, taking a call or a slot back, opening a
slot and failing every waiting call.

`Memory.Sealed` is what every single change keeps: a closed connection gets no new waiting
call.
-/

namespace AgentLink

open Concurrency

section Entries

variable {κ α : Type} [BEq κ] [LawfulBEq κ]

omit [LawfulBEq κ] in
theorem extractEntry_sublist (key : κ) :
    ∀ l : List (κ × α), List.Sublist (extractEntry key l).2 l
  | [] => by simp [extractEntry]
  | (k, v) :: rest => by
    unfold extractEntry
    split
    · exact List.sublist_cons_self _ _
    · exact (extractEntry_sublist key rest).cons_cons _

/-- The entry taken is one of `key`, and the rest is what remains. -/
theorem extractEntry_some (key : κ) {v : α} :
    ∀ {l rest : List (κ × α)}, extractEntry key l = (some v, rest) →
      List.Perm l ((key, v) :: rest)
  | [], _, h => by simp [extractEntry] at h
  | (k, w) :: tail, rest, h => by
    unfold extractEntry at h
    split at h
    · rename_i hk
      simp only [Prod.mk.injEq, Option.some.injEq] at h
      obtain ⟨rfl, rfl⟩ := h
      rw [beq_iff_eq.1 hk]
    · rcases hx : extractEntry key tail with ⟨found, rest'⟩
      rw [hx] at h
      simp only [Prod.mk.injEq] at h
      obtain ⟨rfl, rfl⟩ := h
      exact ((extractEntry_some key hx).cons _).trans (List.Perm.swap _ _ _)

omit [LawfulBEq κ] in
/-- Without an entry of `key` to take nothing is taken. -/
theorem extractEntry_none (key : κ) :
    ∀ {l rest : List (κ × α)}, extractEntry key l = (none, rest) → rest = l
  | [], _, h => by
    simp only [extractEntry, Prod.mk.injEq] at h
    exact h.2.symm
  | (k, w) :: tail, rest, h => by
    unfold extractEntry at h
    split at h
    · simp at h
    · rcases hx : extractEntry key tail with ⟨found, rest'⟩
      rw [hx] at h
      simp only [Prod.mk.injEq] at h
      obtain ⟨rfl, rfl⟩ := h
      rw [extractEntry_none key hx]

/-- Putting an entry replaces the one of its key, or adds it when there is none. -/
theorem putEntry_perm (key : κ) (value : α) :
    ∀ l : List (κ × α), ∃ rest, List.Sublist rest l ∧
      List.Perm (putEntry key value l).2 ((key, value) :: rest) ∧
      ((putEntry key value l).1 = none → rest = l ∧ ∀ e ∈ l, e.1 ≠ key) ∧
      ∀ v, (putEntry key value l).1 = some v → List.Perm l ((key, v) :: rest)
  | [] => ⟨[], List.Sublist.slnil, by simp [putEntry], by simp [putEntry], by simp [putEntry]⟩
  | (k, w) :: tail => by
    by_cases hk : (k == key) = true
    · have hkey : k = key := beq_iff_eq.1 hk
      subst hkey
      refine ⟨tail, List.sublist_cons_self _ _, ?_, ?_, ?_⟩ <;> simp [putEntry]
    · obtain ⟨rest, hsub, hperm, hnone, hsome⟩ := putEntry_perm key value tail
      have hput : putEntry key value ((k, w) :: tail) =
          ((putEntry key value tail).1, (k, w) :: (putEntry key value tail).2) := by
        simp [putEntry, hk]
      refine ⟨(k, w) :: rest, hsub.cons_cons _, ?_, ?_, ?_⟩
      · rw [hput]
        exact (hperm.cons _).trans (List.Perm.swap _ _ _)
      · intro h
        rw [hput] at h
        obtain ⟨hr, hne⟩ := hnone h
        refine ⟨by rw [hr], ?_⟩
        intro e he
        rcases List.mem_cons.1 he with rfl | he
        · exact fun heq => hk (beq_iff_eq.2 heq)
        · exact hne e he
      · intro v h
        rw [hput] at h
        exact ((hsome v h).cons _).trans (List.Perm.swap _ _ _)

end Entries

namespace Memory

/-- What every single change keeps: a closed connection stays closed and gets no new waiting
call. -/
structure Sealed (s s' : Memory) : Prop where
  closed_stay : ∀ j, (s.link j).closed = true → (s'.link j).closed = true
  calls_stay : ∀ j, (s.link j).closed = true → ∀ e ∈ (s'.link j).pending, e ∈ (s.link j).pending

theorem Sealed.refl (s : Memory) : Sealed s s := ⟨fun _ hc => hc, fun _ _ _ he => he⟩

theorem Sealed.trans {s₁ s₂ s₃ : Memory} (h₁ : Sealed s₁ s₂) (h₂ : Sealed s₂ s₃) :
    Sealed s₁ s₃ :=
  ⟨fun j hc => h₂.closed_stay j (h₁.closed_stay j hc),
    fun j hc e he => h₁.calls_stay j hc e (h₂.calls_stay j (h₁.closed_stay j hc) e he)⟩

/-- A change that closes nothing anew and leaves the waiting calls alone is sealed. -/
theorem Sealed.of_pending {s s' : Memory}
    (hclosed : ∀ j, (s.link j).closed = true → (s'.link j).closed = true)
    (h : ∀ j, (s'.link j).pending = (s.link j).pending) : Sealed s s' :=
  ⟨hclosed, fun j _ _ he => h j ▸ he⟩

section Changes

variable {s₀ s : Memory}

/-- A change of the tables alone progresses when every place it adds holds a fresh cell: one
made since `s₀`, empty and held nowhere before, held in that place only, and, for a waiting call,
under an id issued since `s₀` that the connection has issued. -/
theorem Progress.of_holds {s' : Memory} (hs : Progress s₀ s) (hcells : s'.cells = s.cells)
    (hids : ∀ j, (s'.link j).nextId = (s.link j).nextId)
    (hclosed : ∀ j, (s.link j).closed = true → (s'.link j).closed = true)
    (hkeys : s₀.Consistent → ∀ j, ((s'.link j).pending.map Prod.fst).Nodup)
    (hslotKeys : s₀.Consistent → ∀ j, ((s'.link j).slots.map Prod.fst).Nodup)
    (hwaiters : s₀.Consistent → s'.client.turn.waiters.Nodup)
    (hnew : s₀.Consistent → ∀ d p, s'.Holds d p → s.Holds d p ∨
      (s₀.cells.size ≤ d ∧ d < s.cells.size ∧ s.cell d = .empty ∧ ¬ s.Held d ∧
        (∀ p', s'.Holds d p' → p' = p) ∧
        ∀ j x, p = .call j x → ∃ n, x = .num n ∧ (s₀.link j).nextId ≤ n ∧ n < (s.link j).nextId)) :
    Progress s₀ s' := by
  intro h₀
  obtain ⟨h, a⟩ := hs h₀
  have hcell : ∀ d, s'.cell d = s.cell d := fun d => by simp only [cell, hcells]
  refine ⟨⟨?_, ?_, hkeys h₀, hslotKeys h₀, hwaiters h₀, ?_⟩, ⟨?_, ?_, ?_, ?_, ?_, ?_, ?_, ?_⟩⟩
  · intro d p p' hp hp'
    rcases hnew h₀ d p hp with hp | ⟨-, -, -, -, honly, -⟩
    · rcases hnew h₀ d p' hp' with hp' | ⟨-, -, -, hloose, -, -⟩
      · exact h.unique d p p' hp hp'
      · exact absurd ⟨p, hp⟩ hloose
    · exact (honly p' hp').symm
  · intro d p hp
    rw [hcells, hcell]
    rcases hnew h₀ d p hp with hp | ⟨-, hlt, he, -⟩
    · exact h.live d p hp
    · exact ⟨hlt, he⟩
  · intro j x d hx
    rw [hids]
    rcases hnew h₀ d (.call j x) hx with hx | ⟨-, -, -, -, -, hid⟩
    · exact h.issued j x d hx
    · obtain ⟨n, rfl, -, hn⟩ := hid j x rfl
      exact ⟨n, rfl, hn⟩
  · rw [hcells]
    exact a.cells_grow
  · intro j
    rw [hids]
    exact a.ids_grow j
  · intro j hc
    exact hclosed j (a.closed_stay j hc)
  · intro d hd
    rw [hcell]
    exact a.settled_stay d hd
  · intro d hlt hloose he
    rw [hcell]
    exact a.loose_stay d hlt hloose he
  · intro d p hp hlt
    rcases hnew h₀ d p hp with hp | ⟨hge, -⟩
    · exact a.held_before d p hp hlt
    · exact absurd hlt (Nat.not_lt.2 hge)
  · intro j x d hin hout
    rcases hnew h₀ d (.call j x) hin with hin | ⟨-, -, -, -, -, hid⟩
    · exact a.ids_fresh j x d hin hout
    · obtain ⟨n, rfl, hn, -⟩ := hid j x rfl
      exact ⟨n, rfl, hn⟩
  · intro j x d hin hset
    rw [hcell] at hset ⊢
    obtain ⟨hgone, hans⟩ := a.answered j x d hin hset
    refine ⟨fun hin' => ?_, hans⟩
    rcases hnew h₀ d (.call j x) hin' with hin' | ⟨hge, -⟩
    · exact hgone hin'
    · exact absurd (h₀.live d (.call j x) hin).1 (Nat.not_lt.2 hge)

/-- Settling a cell whose place at `s₀` has gone by `s` progresses, when the settling leaves a
settled cell alone and answers the call that held it. -/
theorem Progress.settle (hs : Progress s₀ s) {c : Nat} {p : Place} {g : Cell → Cell}
    (hheld : s₀.Consistent → s₀.Holds c p) (hgone : s₀.Consistent → ¬ s.Holds c p)
    (hkeep : ∀ cl : Cell, cl.isSettled = true → g cl = cl)
    (hans : ∀ j x, p = .call j x → Answers x (g .empty)) :
    Progress s₀ (s.modifyCell c g) := by
  intro h₀
  obtain ⟨h, a⟩ := hs h₀
  have hp₀ := hheld h₀
  have hloose : ¬ s.Held c := Advance.unheld_of_left h₀ a hp₀ (hgone h₀)
  have hcell : ∀ d, (s.modifyCell c g).cell d = if c = d ∧ c < s.cells.size then g (s.cell d)
      else s.cell d := fun d => s.cell_modifyCell c d g
  have hsize : (s.modifyCell c g).cells.size = s.cells.size := Array.size_modify
  -- the cells other than `c` read as before
  have hother : ∀ d, d ≠ c → (s.modifyCell c g).cell d = s.cell d := fun d hd => by
    rw [hcell, if_neg (fun hc => hd hc.1.symm)]
  refine ⟨⟨h.unique, ?_, h.keys, h.slotKeys, h.waiters, h.issued⟩,
    ⟨hsize ▸ a.cells_grow, a.ids_grow, a.closed_stay, ?_, ?_, a.held_before, a.ids_fresh, ?_⟩⟩
  · intro d q hq
    have hd : d ≠ c := fun hdc => hloose ⟨q, hdc ▸ hq⟩
    rw [hsize, hother d hd]
    exact h.live d q hq
  · intro d hd
    by_cases hdc : d = c
    · subst hdc
      rw [hcell, ← a.settled_stay d hd]
      split
      · exact hkeep _ ((a.settled_stay d hd).symm ▸ hd)
      · rfl
    · rw [hother d hdc]
      exact a.settled_stay d hd
  · intro d hlt hl he
    have hdc : d ≠ c := fun hdc => hl ⟨p, hdc ▸ hp₀⟩
    rw [hother d hdc]
    exact a.loose_stay d hlt hl he
  · intro j x d hin hset
    by_cases hdc : d = c
    · subst hdc
      have hpx : p = .call j x := h₀.unique d p (.call j x) hp₀ hin
      have hnot : (x, d) ∉ (s.link j).pending := fun hin' => hloose ⟨.call j x, hin'⟩
      by_cases hset' : (s.cell d).isSettled = true
      · have hg := hkeep _ hset'
        rw [hcell] at hset ⊢
        split
        · rw [hg]
          exact ⟨hnot, (a.answered j x d hin hset').2⟩
        · exact ⟨hnot, (a.answered j x d hin hset').2⟩
      · have he := Cell.eq_empty_of_not_settled (Bool.eq_false_iff.2 hset')
        rw [hcell] at hset ⊢
        split
        · rw [he]
          exact ⟨hnot, hans j x hpx⟩
        · rw [if_neg ‹_›, he] at hset
          cases hset
    · rw [hother d hdc] at hset ⊢
      exact a.answered j x d hin hset

end Changes

section Code

variable (s : Memory)

theorem cell_modifyLink (i : Nat) (f : Connection → Connection) (d : Nat) :
    (s.modifyLink i f).cell d = s.cell d := rfl

/-- A change that leaves the connections, the cells and the turn's waiters alone. -/
theorem Steady.of_frame {s' : Memory} (hl : s'.links = s.links) (hc : s'.cells = s.cells)
    (hw : s'.client.turn.waiters = s.client.turn.waiters) : Steady s s' :=
  Steady.of_tables hw (fun j => by simp only [link, hl]) (fun j => by simp only [link, hl])
    (by rw [hc]) (fun d => by simp only [cell, hc]) (fun j => by simp only [link, hl])
    (fun j => by simp only [link, hl, le_refl])

theorem Sealed.of_frame {s' : Memory} (hl : s'.links = s.links) : Sealed s s' :=
  Sealed.of_pending (fun j hc => by simp only [link, hl] at hc ⊢; exact hc)
    (fun j => by simp only [link, hl])

/-- A change of a connection that leaves its tables and its closing alone and takes back no
id. -/
theorem Steady.modifyLink {i : Nat} {f : Connection → Connection}
    (hcalls : (f (s.link i)).pending = (s.link i).pending)
    (hslots : (f (s.link i)).slots = (s.link i).slots)
    (hclosed : (f (s.link i)).closed = (s.link i).closed)
    (hids : (s.link i).nextId ≤ (f (s.link i)).nextId) : Steady s (s.modifyLink i f) :=
  Steady.of_tables rfl
    (fun j => (link_modifyLink_rel s (fun c c' => c'.pending = c.pending) (fun _ => rfl) hcalls j))
    (fun j => (link_modifyLink_rel s (fun c c' => c'.slots = c.slots) (fun _ => rfl) hslots j))
    le_rfl (cell_modifyLink s i f)
    (fun j => (link_modifyLink_rel s (fun c c' => c'.closed = c.closed) (fun _ => rfl) hclosed j))
    (fun j => (link_modifyLink_rel s (fun c c' => c.nextId ≤ c'.nextId) (fun _ => le_refl _) hids j))

theorem Sealed.modifyLink {i : Nat} {f : Connection → Connection}
    (hclosed : (s.link i).closed = true → (f (s.link i)).closed = true)
    (hcalls : (s.link i).closed = true → ∀ e ∈ (f (s.link i)).pending, e ∈ (s.link i).pending) :
    Sealed s (s.modifyLink i f) :=
  ⟨fun j => link_modifyLink_rel s (fun c c' => c.closed = true → c'.closed = true)
      (fun _ h => h) hclosed j,
    fun j => link_modifyLink_rel s
      (fun c c' => c.closed = true → ∀ e ∈ c'.pending, e ∈ c.pending) (fun _ _ _ h => h) hcalls j⟩

/-- Taking a connection's next id. -/
theorem Steady.takeId (i : Nat) :
    Steady s (s.modifyLink i fun _ => ((s.link i).takeId).2) :=
  Steady.modifyLink s rfl rfl rfl (Nat.le_succ _)

/-- Adding a cell. -/
theorem Steady.addCell : Steady s s.addCell.2 :=
  Steady.of_tables rfl (fun _ => rfl) (fun _ => rfl) (by simp [Memory.addCell])
    (cell_addCell s) (fun _ => rfl) (fun _ => le_refl _)

theorem Sealed.addCell : Sealed s s.addCell.2 := Sealed.of_frame s rfl

/-- Adding a fresh connection: it reads as the default connection past the last one did, but
for its next id. -/
theorem link_addLink_fresh (fromAgent toAgent j : Nat) (R : Connection → Connection → Prop)
    (hrefl : ∀ c, R c c) (hfresh : R default (Connection.fresh fromAgent toAgent)) :
    R (s.link j) ((s.addLink (Connection.fresh fromAgent toAgent)).2.link j) := by
  rw [link_addLink]
  split
  · rename_i hj
    have hpast : s.link j = default := by
      simp [link, Array.getD_eq_getD_getElem?, hj]
    rw [hpast]
    exact hfresh
  · exact hrefl _

theorem Steady.addLink (fromAgent toAgent : Nat) :
    Steady s (s.addLink (Connection.fresh fromAgent toAgent)).2 :=
  Steady.of_tables rfl
    (fun j => link_addLink_fresh s _ _ j (fun c c' => c'.pending = c.pending) (fun _ => rfl) rfl)
    (fun j => link_addLink_fresh s _ _ j (fun c c' => c'.slots = c.slots) (fun _ => rfl) rfl)
    le_rfl (fun _ => rfl)
    (fun j => link_addLink_fresh s _ _ j (fun c c' => c'.closed = c.closed) (fun _ => rfl) rfl)
    (fun j => link_addLink_fresh s _ _ j (fun c c' => c.nextId ≤ c'.nextId) (fun _ => le_refl _)
      (Nat.zero_le _))

theorem Sealed.addLink (fromAgent toAgent : Nat) :
    Sealed s (s.addLink (Connection.fresh fromAgent toAgent)).2 :=
  Sealed.of_pending
    (fun j => link_addLink_fresh s _ _ j (fun c c' => c.closed = true → c'.closed = true)
      (fun _ h => h) (fun h => h))
    (fun j => link_addLink_fresh s _ _ j (fun c c' => c'.pending = c.pending) (fun _ => rfl) rfl)

/-- Settling a cell, as in `Progress.settle`, keeps a stretch steady: it closes nothing. -/
theorem Steady.settle {s₀ : Memory} (hs : Steady s₀ s) {c : Nat} {p : Place} {g : Cell → Cell}
    (hheld : s₀.Consistent → s₀.Holds c p) (hgone : s₀.Consistent → ¬ s.Holds c p)
    (hkeep : ∀ cl : Cell, cl.isSettled = true → g cl = cl)
    (hans : ∀ j x, p = .call j x → Answers x (g .empty)) : Steady s₀ (s.modifyCell c g) :=
  ⟨hs.1.settle hheld hgone hkeep hans, hs.2⟩

theorem fill_of_settled (o : Except Failure Json.Value) :
    ∀ cl : Cell, cl.isSettled = true → cl.fill o = cl
  | .empty, h => by simp [Cell.isSettled] at h
  | .filled _, _ => rfl
  | .abandoned, _ => rfl

theorem abandon_of_settled : ∀ cl : Cell, cl.isSettled = true → cl.abandon = cl
  | .empty, h => by simp [Cell.isSettled] at h
  | .filled _, _ => rfl
  | .abandoned, _ => rfl

/-- Removing entries from a connection's tables. -/
theorem Steady.shrink {s₀ : Memory} (hs : Steady s₀ s) {i : Nat} {f : Connection → Connection}
    (hcalls : List.Sublist (f (s.link i)).pending (s.link i).pending)
    (hslots : List.Sublist (f (s.link i)).slots (s.link i).slots)
    (hclosed : (f (s.link i)).closed = (s.link i).closed)
    (hids : (f (s.link i)).nextId = (s.link i).nextId) : Steady s₀ (s.modifyLink i f) := by
  have hsubP := link_modifyLink_rel s (fun c c' => List.Sublist c'.pending c.pending)
    (fun _ => List.Sublist.refl _) hcalls
  have hsubS := link_modifyLink_rel s (fun c c' => List.Sublist c'.slots c.slots)
    (fun _ => List.Sublist.refl _) hslots
  have hcl := link_modifyLink_rel s (fun c c' => c'.closed = c.closed) (fun _ => rfl) hclosed
  refine ⟨Progress.of_holds hs.1 rfl
    (fun j => link_modifyLink_rel s (fun c c' => c'.nextId = c.nextId) (fun _ => rfl) hids j)
    (fun j hc => by rwa [hcl j])
    (fun h₀ j => ((hs.1 h₀).1.keys j).sublist ((hsubP j).map _))
    (fun h₀ j => ((hs.1 h₀).1.slotKeys j).sublist ((hsubS j).map _))
    (fun h₀ => (hs.1 h₀).1.waiters) (fun _ d p hp => .inl ?_), fun j hc => hs.2 j (by rwa [← hcl j])⟩
  cases p with
  | call j x => exact (hsubP j).subset hp
  | slot j k => exact (hsubS j).subset hp
  | waiter => exact hp

theorem Sealed.shrink {i : Nat} {f : Connection → Connection}
    (hcalls : List.Sublist (f (s.link i)).pending (s.link i).pending)
    (hclosed : (f (s.link i)).closed = (s.link i).closed) : Sealed s (s.modifyLink i f) :=
  Sealed.modifyLink s (fun h => hclosed ▸ h) (fun _ _ he => hcalls.subset he)

/-- What `takePending` leaves of a connection: fewer waiting calls, the rest as it was. -/
theorem takePending_shrinks {i : Nat} {x : RequestId} {cell : Option Nat} {conn : Connection}
    (h : (s.link i).takePending x = (cell, conn)) :
    List.Sublist conn.pending (s.link i).pending ∧ conn.slots = (s.link i).slots ∧
      conn.closed = (s.link i).closed ∧ conn.nextId = (s.link i).nextId := by
  simp only [Connection.takePending, Prod.mk.injEq] at h
  obtain ⟨-, rfl⟩ := h
  exact ⟨extractEntry_sublist x _, rfl, rfl, rfl⟩

/-- Taking back the waiting call of `x`. -/
theorem Steady.takePending {s₀ : Memory} (hs : Steady s₀ s) (i : Nat) (x : RequestId) :
    Steady s₀ (s.modifyLink i fun c => (c.takePending x).2) :=
  hs.shrink s (extractEntry_sublist x _) (List.Sublist.refl _) rfl rfl

theorem Sealed.takePending (i : Nat) (x : RequestId) :
    Sealed s (s.modifyLink i fun c => (c.takePending x).2) :=
  Sealed.shrink s (extractEntry_sublist x _) rfl

/-- The cell `takePending` returns was waiting under `x`, and waits there no more. -/
theorem takePending_some {i : Nat} {x : RequestId} {c : Nat} {conn : Connection}
    (h : (s.link i).takePending x = (some c, conn)) :
    s.Holds c (.call i x) ∧ (s.Consistent → ¬ (s.modifyLink i fun _ => conn).Holds c (.call i x)) := by
  simp only [Connection.takePending] at h
  rcases hx : extractEntry x (s.link i).pending with ⟨found, rest⟩
  rw [hx] at h
  simp only [Prod.mk.injEq] at h
  obtain ⟨rfl, rfl⟩ := h
  have hperm := extractEntry_some x hx
  refine ⟨hperm.mem_iff.2 (List.mem_cons_self ..), fun hcons hin => ?_⟩
  have hi := s.lt_of_mem_pending (hperm.mem_iff.2 (List.mem_cons_self ..))
  simp only [Holds, link_modifyLink, hi, and_true] at hin
  have hnd := (hperm.map Prod.fst).nodup_iff.1 (hcons.keys i)
  exact (List.nodup_cons.1 hnd).1 (List.mem_map_of_mem (f := Prod.fst) hin)

/-- The slot `takeSlot` returns was open under `key`, and is open there no more. -/
theorem takeSlot_some {i : Nat} {key : String} {c : Nat} {conn : Connection}
    (h : (s.link i).takeSlot key = (some c, conn)) :
    List.Sublist conn.slots (s.link i).slots ∧ conn.pending = (s.link i).pending ∧
      conn.closed = (s.link i).closed ∧ conn.nextId = (s.link i).nextId ∧
      s.Holds c (.slot i key) ∧
      (s.Consistent → ¬ (s.modifyLink i fun _ => conn).Holds c (.slot i key)) := by
  simp only [Connection.takeSlot] at h
  rcases hx : extractEntry key (s.link i).slots with ⟨found, rest⟩
  rw [hx] at h
  simp only [Prod.mk.injEq] at h
  obtain ⟨rfl, rfl⟩ := h
  have hperm := extractEntry_some key hx
  have hsub : List.Sublist rest (s.link i).slots := by
    simpa [hx] using extractEntry_sublist key (s.link i).slots
  refine ⟨hsub, rfl, rfl, rfl, hperm.mem_iff.2 (List.mem_cons_self ..), fun hcons hin => ?_⟩
  have hi := s.lt_of_mem_slots (hperm.mem_iff.2 (List.mem_cons_self ..))
  simp only [Holds, link_modifyLink, hi, and_true] at hin
  have hnd := (hperm.map Prod.fst).nodup_iff.1 (hcons.slotKeys i)
  exact (List.nodup_cons.1 hnd).1 (List.mem_map_of_mem (f := Prod.fst) hin)

/-- Registering a call under a fresh id with a fresh cell. -/
theorem Steady.insertCall {s₀ : Memory} (hs : Steady s₀ s) {i n c : Nat}
    (hfresh : s₀.Consistent → i < s.links.size → (s₀.link i).nextId ≤ n ∧ n < (s.link i).nextId ∧
      (∀ e ∈ (s.link i).pending, e.1 ≠ .num n) ∧ s₀.cells.size ≤ c ∧ c < s.cells.size ∧
      s.cell c = .empty ∧ ¬ s.Held c) :
    Steady s₀ (s.modifyLink i fun conn => { conn with pending := conn.pending ++ [(.num n, c)] }) := by
  by_cases hi : i < s.links.size
  · have hview : ∀ j, (s.modifyLink i fun conn =>
        { conn with pending := conn.pending ++ [(.num n, c)] }).link j =
        if i = j then { s.link j with pending := (s.link j).pending ++ [(.num n, c)] }
        else s.link j := link_modifyLink_of_lt s hi _
    -- the new entry is the only new place
    have hholds : ∀ d p, (s.modifyLink i fun conn =>
        { conn with pending := conn.pending ++ [(.num n, c)] }).Holds d p →
        s.Holds d p ∨ (d = c ∧ p = .call i (.num n)) := by
      intro d p hp
      cases p with
      | call j x =>
        simp only [Holds, hview] at hp
        split at hp
        · rename_i hij
          subst hij
          rcases List.mem_append.1 hp with hp | hp
          · exact .inl hp
          · simp only [List.mem_singleton, Prod.mk.injEq] at hp
            exact .inr ⟨hp.2, by rw [hp.1]⟩
        · exact .inl hp
      | slot j k =>
        simp only [Holds, hview] at hp
        split at hp <;> exact .inl hp
      | waiter => exact .inl hp
    refine ⟨Progress.of_holds hs.1 rfl (fun j => by rw [hview]; split <;> rfl)
      (fun j hc => by rw [hview]; split <;> (subst_vars; exact hc))
      (fun h₀ j => ?_) (fun h₀ j => by rw [hview]; split <;> exact (hs.1 h₀).1.slotKeys _)
      (fun h₀ => (hs.1 h₀).1.waiters) (fun h₀ d p hp => ?_),
      fun j hc => hs.2 j (by rw [hview] at hc; split at hc <;> (subst_vars; exact hc))⟩
    · rw [hview]
      split
      · rename_i hij
        subst hij
        obtain ⟨-, -, hkey, -⟩ := hfresh h₀ hi
        rw [List.map_append, List.nodup_append]
        refine ⟨(hs.1 h₀).1.keys i, List.nodup_singleton _, ?_⟩
        intro a ha b hb
        simp only [List.map_cons, List.map_nil, List.mem_singleton] at hb
        obtain ⟨e, he, rfl⟩ := List.mem_map.1 ha
        exact hb ▸ hkey e he
      · exact (hs.1 h₀).1.keys j
    · rcases hholds d p hp with hp | ⟨rfl, rfl⟩
      · exact .inl hp
      · obtain ⟨hn₀, hn, -, hc₀, hc, he, hloose⟩ := hfresh h₀ hi
        refine .inr ⟨hc₀, hc, he, hloose, fun p' hp' => ?_, fun j x hp => ?_⟩
        · rcases hholds d p' hp' with hp' | ⟨-, rfl⟩
          · exact absurd ⟨p', hp'⟩ hloose
          · rfl
        · simp only [Place.call.injEq] at hp
          obtain ⟨rfl, rfl⟩ := hp
          exact ⟨n, rfl, hn₀, hn⟩
  · -- past the last connection nothing changes
    rw [modifyLink_of_le _ (Nat.le_of_not_lt hi)]
    exact hs

theorem Sealed.insertCall {i : Nat} {x : RequestId} {c : Nat} (hopen : (s.link i).closed = false) :
    Sealed s (s.modifyLink i fun conn => { conn with pending := conn.pending ++ [(x, c)] }) :=
  Sealed.modifyLink s (fun h => h) (fun h => by rw [hopen] at h; cases h)

/-- Filling the cells of calls taken back from connection `i` keeps a stretch steady, and
leaves the connections alone. -/
theorem Steady.fillTaken (s₀ : Memory) (i : Nat) (o : Except Failure Json.Value)
    (hans : ∀ x, Answers x (.filled o)) :
    ∀ (L : List (RequestId × Nat)) (m : Memory), (∀ e ∈ L, s₀.Consistent → s₀.Holds e.2 (.call i e.1)) →
      Steady s₀ m → (m.link i).pending = [] →
      Steady s₀ (L.foldl (fun m e => m.modifyCell e.2 (·.fill o)) m) ∧
        (L.foldl (fun m e => m.modifyCell e.2 (·.fill o)) m).links = m.links
  | [], _, _, hm, _ => ⟨hm, rfl⟩
  | e :: L, m, hL, hm, hgone => by
    have hstep : Steady s₀ (m.modifyCell e.2 (·.fill o)) :=
      hm.settle m (hL e (List.mem_cons_self ..))
        (fun _ hin => by simp only [Holds, hgone] at hin; cases hin) (fill_of_settled o)
        (fun _ x _ => hans x)
    exact Steady.fillTaken s₀ i o hans L _ (fun e' he' => hL e' (List.mem_cons_of_mem _ he')) hstep
      hgone

theorem pending_cleared (i : Nat) :
    ((s.modifyLink i fun c => { c with pending := [] }).link i).pending = [] := by
  rw [link_modifyLink]
  split
  · rfl
  · rw [link_of_le s (by omega)]
    rfl

/-- Failing every waiting call of connection `i`: the calls are taken back, then their cells
filled with `TransportClosed`. -/
theorem Steady.failPending (i : Nat) :
    Steady s (s.failPending i) ∧ (s.failPending i).links =
      (s.modifyLink i fun c => { c with pending := [] }).links :=
  Steady.fillTaken s i _ (fun _ => .inl rfl) (s.link i).pending _ (fun _ he _ => he)
    ((Steady.refl s).shrink s (List.nil_sublist _) (List.Sublist.refl _) rfl rfl)
    (pending_cleared s i)

theorem Sealed.failPending (i : Nat) : Sealed s (s.failPending i) :=
  (Sealed.shrink s (List.nil_sublist _) rfl).trans (Sealed.of_frame _ (Steady.failPending s i).2)

/-- Taking back the call of `x` and filling its cell with the outcome of a response to `x`:
what the reader does with a response. -/
theorem Steady.answer {i : Nat} {x : RequestId} {c : Nat} {conn : Connection}
    (h : (s.link i).takePending x = (some c, conn)) {o : Except Failure Json.Value}
    (hans : Answers x (.filled o)) :
    Steady s ((s.modifyLink i fun _ => conn).modifyCell c (·.fill o)) := by
  obtain ⟨hheld, hgone⟩ := takePending_some s h
  have hconn : conn = ((s.link i).takePending x).2 := by rw [h]
  have h₁ : Steady s (s.modifyLink i fun _ => conn) := by
    subst hconn
    exact (Steady.refl s).shrink s (extractEntry_sublist x _) (List.Sublist.refl _) rfl rfl
  refine h₁.settle _ (fun _ => hheld) hgone (fill_of_settled o) ?_
  intro j y hp
  simp only [Place.call.injEq] at hp
  obtain ⟨-, rfl⟩ := hp
  exact hans

/-- Taking back the slot `key` and settling its cell: what resolving or dropping a slot does. -/
theorem Steady.settleSlot {i : Nat} {key : String} {c : Nat} {conn : Connection}
    (h : (s.link i).takeSlot key = (some c, conn)) {g : Cell → Cell}
    (hkeep : ∀ cl : Cell, cl.isSettled = true → g cl = cl) :
    Steady s ((s.modifyLink i fun _ => conn).modifyCell c g) := by
  obtain ⟨hsub, hp, hcl, hid, hheld, hgone⟩ := takeSlot_some s h
  have h₁ : Steady s (s.modifyLink i fun _ => conn) :=
    (Steady.refl s).shrink s (hp ▸ List.Sublist.refl _) hsub hcl hid
  exact h₁.settle _ (fun _ => hheld) hgone hkeep (fun _ _ hpl => by cases hpl)

theorem Sealed.settleSlot {i : Nat} {key : String} {c : Nat} {conn : Connection}
    (h : (s.link i).takeSlot key = (some c, conn)) (g : Cell → Cell) :
    Sealed s ((s.modifyLink i fun _ => conn).modifyCell c g) := by
  obtain ⟨-, hp, hcl, -⟩ := takeSlot_some s h
  have h₁ : Sealed s (s.modifyLink i fun _ => conn) := Sealed.shrink s (by rw [hp]) hcl
  exact h₁.trans (Sealed.of_frame _ rfl)

theorem Steady.resolveSlot (i : Nat) (key : String) (value : Json.Value) :
    Steady s (s.resolveSlot i key value).2 := by
  unfold Memory.resolveSlot
  rcases h : (s.link i).takeSlot key with ⟨_ | c, conn⟩
  · exact Steady.refl s
  · exact Steady.settleSlot s h (fill_of_settled _)

theorem Sealed.resolveSlot (i : Nat) (key : String) (value : Json.Value) :
    Sealed s (s.resolveSlot i key value).2 := by
  unfold Memory.resolveSlot
  rcases h : (s.link i).takeSlot key with ⟨_ | c, conn⟩
  · exact Sealed.refl s
  · exact Sealed.settleSlot s h _

theorem Steady.cancelSlot (i : Nat) (key : String) : Steady s (s.cancelSlot i key).2 := by
  unfold Memory.cancelSlot
  rcases h : (s.link i).takeSlot key with ⟨_ | c, conn⟩
  · exact Steady.refl s
  · exact Steady.settleSlot s h abandon_of_settled

theorem Sealed.cancelSlot (i : Nat) (key : String) : Sealed s (s.cancelSlot i key).2 := by
  unfold Memory.cancelSlot
  rcases h : (s.link i).takeSlot key with ⟨_ | c, conn⟩
  · exact Sealed.refl s
  · exact Sealed.settleSlot s h _

/-- The cell past the last one reads as empty. -/
theorem cell_size : s.cell s.cells.size = .empty := by
  simp only [cell, Array.getD_eq_getD_getElem?, Array.getElem?_eq_none (Nat.le_refl _)]
  rfl

/-- Opening the slot `key` of connection `i` with a new cell: the slot it replaces, if any, is
taken back, and its cell may then be dropped. -/
theorem Steady.putSlot {i : Nat} {key : String} {old : Option Nat} {conn : Connection}
    (h : (s.link i).putSlot key s.cells.size = (old, conn)) :
    Steady s (s.addCell.2.modifyLink i fun _ => conn) ∧
      ∀ o, old = some o →
        Steady s ((s.addCell.2.modifyLink i fun _ => conn).modifyCell o Cell.abandon) := by
  simp only [Connection.putSlot, Prod.mk.injEq] at h
  obtain ⟨rfl, rfl⟩ := h
  obtain ⟨rest, hsub, hperm, hnone, hsome⟩ := putEntry_perm key s.cells.size (s.link i).slots
  have h₁ : Steady s s.addCell.2 := Steady.addCell s
  by_cases hi : i < s.links.size
  · have hview : ∀ j, (s.addCell.2.modifyLink i fun _ =>
        { s.link i with slots := (putEntry key s.cells.size (s.link i).slots).2 }).link j =
        if i = j then { s.link i with slots := (putEntry key s.cells.size (s.link i).slots).2 }
        else s.link j := link_modifyLink_of_lt s.addCell.2 hi _
    -- the keys besides the new one are those of the slots kept
    have hkeyfree : s.Consistent → ∀ e ∈ rest, e.1 ≠ key := by
      intro hc e he heq
      cases hold : (putEntry key s.cells.size (s.link i).slots).1 with
      | none => exact (hnone hold).2 e ((hnone hold).1 ▸ he) heq
      | some v =>
        have hnd := ((hsome v hold).map Prod.fst).nodup_iff.1 (hc.slotKeys i)
        exact (List.nodup_cons.1 hnd).1 (List.mem_map.2 ⟨e, he, heq⟩)
    -- the new slot is the only new place
    have hholds : ∀ d p, (s.addCell.2.modifyLink i fun _ =>
        { s.link i with slots := (putEntry key s.cells.size (s.link i).slots).2 }).Holds d p →
        s.addCell.2.Holds d p ∨ (d = s.cells.size ∧ p = .slot i key) := by
      intro d p hp
      cases p with
      | call j x =>
        simp only [Holds, hview] at hp
        split at hp
        · subst_vars
          exact .inl hp
        · exact .inl hp
      | slot j k =>
        simp only [Holds, hview] at hp
        split at hp
        · subst_vars
          rcases List.mem_cons.1 (hperm.mem_iff.1 hp) with h | h
          · simp only [Prod.mk.injEq] at h
            exact .inr ⟨h.2, by rw [h.1]⟩
          · exact .inl (hsub.subset h)
        · exact .inl hp
      | waiter => exact .inl hp
    have hloose : s.Consistent → ¬ s.addCell.2.Held s.cells.size := by
      rintro hc ⟨p, hp⟩
      exact absurd (hc.live _ p hp).1 (lt_irrefl _)
    have hstep : Steady s (s.addCell.2.modifyLink i fun _ =>
        { s.link i with slots := (putEntry key s.cells.size (s.link i).slots).2 }) := by
      refine ⟨Progress.of_holds h₁.1 rfl (fun j => ?_) (fun j hc => ?_) (fun h₀ j => ?_)
        (fun h₀ j => ?_) (fun h₀ => h₀.waiters) (fun h₀ d p hp => ?_), fun j hc => ?_⟩
      · rw [hview]
        split <;> (subst_vars; rfl)
      · rw [hview]
        split <;> (subst_vars; exact hc)
      · rw [hview]
        split
        · subst_vars
          exact h₀.keys _
        · exact h₀.keys j
      · rw [hview]
        split
        · subst_vars
          refine ((hperm.map Prod.fst).nodup_iff.2 (List.nodup_cons.2 ⟨?_, ?_⟩))
          · intro hmem
            obtain ⟨e, he, heq⟩ := List.mem_map.1 hmem
            exact hkeyfree h₀ e he heq
          · exact (h₀.slotKeys _).sublist (hsub.map _)
        · exact h₀.slotKeys j
      · rcases hholds d p hp with hp | ⟨rfl, rfl⟩
        · exact .inl hp
        · refine .inr ⟨le_rfl, by simp [Memory.addCell], (cell_addCell s _).trans (cell_size s),
            hloose h₀, fun p' hp' => ?_, fun _ _ hpl => by cases hpl⟩
          rcases hholds _ p' hp' with hp' | ⟨-, rfl⟩
          · exact absurd ⟨p', hp'⟩ (hloose h₀)
          · rfl
      · rw [hview] at hc
        split at hc <;> (subst_vars; exact hc)
    refine ⟨hstep, fun o ho => hstep.settle _ (p := .slot i key) (fun _ => ?_) (fun hc hp => ?_)
      abandon_of_settled (fun _ _ hpl => by cases hpl)⟩
    · exact (hsome o ho).mem_iff.2 (List.mem_cons_self ..)
    · simp only [Holds, hview] at hp
      rcases List.mem_cons.1 (hperm.mem_iff.1 hp) with h | h
      · have hlt := (hc.live o (.slot i key) ((hsome o ho).mem_iff.2 (List.mem_cons_self ..))).1
        simp only [Prod.mk.injEq] at h
        exact absurd (h.2 ▸ hlt) (lt_irrefl _)
      · exact hkeyfree hc _ h rfl
  · -- past the last connection the slot goes nowhere
    rw [modifyLink_of_le s.addCell.2 (Nat.le_of_not_lt hi)]
    refine ⟨h₁, fun o ho => ?_⟩
    have hnil : (s.link i).slots = [] := by rw [link_of_le s (Nat.le_of_not_lt hi)]; rfl
    simp [hnil, putEntry] at ho

/-- Marking a connection closed progresses; it is the one change that closes. -/
theorem Progress.markClosed (i : Nat) : Progress s (s.markClosed i).2 := by
  unfold Memory.markClosed
  split
  · exact Progress.refl s
  · exact Progress.of_tables rfl
      (fun j => link_modifyLink_rel s (fun c c' => c'.pending = c.pending) (fun _ => rfl) rfl j)
      (fun j => link_modifyLink_rel s (fun c c' => c'.slots = c.slots) (fun _ => rfl) rfl j)
      le_rfl (fun _ => rfl)
      (fun j => link_modifyLink_rel s (fun c c' => c.closed = true → c'.closed = true)
        (fun _ h => h) (fun _ => rfl) j)
      (fun j => link_modifyLink_rel s (fun c c' => c.nextId ≤ c'.nextId) (fun _ => le_refl _)
        (le_refl _) j)

theorem Sealed.markClosed (i : Nat) : Sealed s (s.markClosed i).2 := by
  unfold Memory.markClosed
  split
  · exact Sealed.refl s
  · exact Sealed.modifyLink s (fun _ => rfl) (fun _ _ he => he)

end Code

end Memory

end AgentLink
