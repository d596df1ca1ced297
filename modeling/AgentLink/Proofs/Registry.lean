import Mathlib
import AgentLink.Connection.Tasks

/-!
# Waiting calls and the cells they wait on

A call waits on a one-shot cell that another task settles: the reader with the response to its
id, or a shutdown with `TransportClosed`. A cell is held in one place at a time: under an id
among a connection's waiting calls, under a key among its open slots, or among the tasks waiting
for the turn to end. `Memory.Consistent` is what every state keeps: no cell is held twice, a
held cell exists and is empty, and the waiting calls of a connection have distinct numeric ids
below its next one.

`Memory.Advance s₀ s` is what happens between two states of a run: cells, ids and closing only
grow; a settled cell keeps its outcome; a cell nobody holds is never settled afterwards, and
nobody comes to hold a cell that existed before unless already holding it; a new waiting call
has an id issued after `s₀`; and a waiting call whose cell gets settled is no longer waiting,
its cell holding `TransportClosed` or the outcome of a response to its id. A stretch of a
segment is `Memory.Steady` when it advances from a consistent state to a consistent one and
closes no connection.
-/

namespace AgentLink

open Concurrency

/-- What the cell of the waiting call `x` may be settled with: `TransportClosed`, or the outcome
of a response carrying `x`. -/
def Answers (x : RequestId) : Cell → Prop
  | .filled o =>
    o = .error .transportClosed ∨
      ∃ msg : Message, msg.kind = .response ∧ msg.id = some x ∧ o = msg.outcome
  | _ => False

/-- Where a cell is held. -/
inductive Place where
  /-- Among the waiting calls of connection `j`, under `id`. -/
  | call (j : Nat) (id : RequestId)
  /-- Among the open slots of connection `j`, under `key`. -/
  | slot (j : Nat) (key : String)
  /-- Among the tasks waiting for the turn to end. -/
  | waiter
  deriving DecidableEq

namespace Memory

/-- Cell `c` is held at place `p`. -/
def Holds (m : Memory) (c : Nat) : Place → Prop
  | .call j x => (x, c) ∈ (m.link j).pending
  | .slot j k => (k, c) ∈ (m.link j).slots
  | .waiter => c ∈ m.client.turn.waiters

section Views

variable (m : Memory)

theorem link_modifyLink (i j : Nat) (f : Connection → Connection) :
    (m.modifyLink i f).link j = if i = j ∧ i < m.links.size then f (m.link j) else m.link j := by
  unfold link modifyLink
  simp only [Array.getD_eq_getD_getElem?, Array.getElem?_modify]
  by_cases hij : i = j
  · subst hij
    by_cases hi : i < m.links.size <;> simp [hi]
  · simp [hij]

@[simp] theorem link_modifyCell (c : Nat) (g : Cell → Cell) (j : Nat) :
    (m.modifyCell c g).link j = m.link j := rfl

@[simp] theorem link_addCell (j : Nat) : m.addCell.2.link j = m.link j := rfl

/-- Changing a connection that exists changes it and no other. -/
theorem link_modifyLink_of_lt {i : Nat} (hi : i < m.links.size) (f : Connection → Connection)
    (j : Nat) : (m.modifyLink i f).link j = if i = j then f (m.link j) else m.link j := by
  rw [link_modifyLink]
  by_cases hij : i = j
  · rw [if_pos ⟨hij, hi⟩, if_pos hij]
  · rw [if_neg (fun h => hij h.1), if_neg hij]

/-- A relation between each connection before and after changing connection `i` holds when it
holds of connection `i` and is reflexive. -/
theorem link_modifyLink_rel (R : Connection → Connection → Prop) (hrefl : ∀ c, R c c)
    {i : Nat} {f : Connection → Connection} (hf : R (m.link i) (f (m.link i))) (j : Nat) :
    R (m.link j) ((m.modifyLink i f).link j) := by
  rw [link_modifyLink]
  split
  · rename_i h
    rw [← h.1]
    exact hf
  · exact hrefl _

/-- A connection past the last one reads as the default one. -/
theorem link_of_le {j : Nat} (h : m.links.size ≤ j) : m.link j = default := by
  simp [link, Array.getD_eq_getD_getElem?, Array.getElem?_eq_none h]

/-- Changing a connection past the last one changes nothing. -/
theorem modifyLink_of_le {i : Nat} (h : m.links.size ≤ i) (f : Connection → Connection) :
    m.modifyLink i f = m := by
  unfold modifyLink
  have hsame : m.links.modify i f = m.links := by
    apply Array.ext
    · simp
    · intro j _ _
      simp only [Array.getElem_modify]
      split <;> simp_all
      omega
  rw [hsame]

theorem cell_modifyCell (c d : Nat) (g : Cell → Cell) :
    (m.modifyCell c g).cell d = if c = d ∧ c < m.cells.size then g (m.cell d) else m.cell d := by
  unfold cell modifyCell
  simp only [Array.getD_eq_getD_getElem?, Array.getElem?_modify]
  by_cases hij : c = d
  · subst hij
    by_cases hi : c < m.cells.size <;> simp [hi]
  · simp [hij]

/-- A new cell reads as the cell that was not there: empty. -/
@[simp] theorem cell_addCell (d : Nat) : m.addCell.2.cell d = m.cell d := by
  unfold cell addCell
  simp only [Array.getD_eq_getD_getElem?, Array.getElem?_push]
  split
  · subst_vars
    simp only [Array.getElem?_eq_none (Nat.le_refl _), Option.getD_some, Option.getD_none]
    rfl
  · rfl

theorem link_addLink (c : Connection) (j : Nat) :
    (m.addLink c).2.link j = if j = m.links.size then c else m.link j := by
  unfold link addLink
  simp only [Array.getD_eq_getD_getElem?, Array.getElem?_push]
  split <;> simp

theorem lt_of_mem_pending {j : Nat} {e : RequestId × Nat} (h : e ∈ (m.link j).pending) :
    j < m.links.size := by
  by_contra hj
  rw [link_of_le m (Nat.le_of_not_lt hj)] at h
  cases h

theorem lt_of_mem_slots {j : Nat} {e : String × Nat} (h : e ∈ (m.link j).slots) :
    j < m.links.size := by
  by_contra hj
  rw [link_of_le m (Nat.le_of_not_lt hj)] at h
  cases h

theorem holds_addCell {c : Nat} {p : Place} : m.addCell.2.Holds c p ↔ m.Holds c p := by
  cases p <;> rfl

end Views

/-- Cell `c` is held somewhere. -/
def Held (m : Memory) (c : Nat) : Prop := ∃ p, m.Holds c p

/-- What every state of the host keeps. -/
structure Consistent (m : Memory) : Prop where
  /-- A cell is held in one place at most. -/
  unique : ∀ c p p', m.Holds c p → m.Holds c p' → p = p'
  /-- A held cell exists and is empty. -/
  live : ∀ c p, m.Holds c p → c < m.cells.size ∧ m.cell c = .empty
  /-- The waiting calls of a connection have distinct ids. -/
  keys : ∀ j, ((m.link j).pending.map Prod.fst).Nodup
  /-- The open slots of a connection have distinct keys. -/
  slotKeys : ∀ j, ((m.link j).slots.map Prod.fst).Nodup
  /-- No task waits twice for the turn to end. -/
  waiters : m.client.turn.waiters.Nodup
  /-- Each waiting call's id is a number the connection has issued. -/
  issued : ∀ j x c, (x, c) ∈ (m.link j).pending → ∃ n, x = .num n ∧ n < (m.link j).nextId


/-- What happens between two states of a run. -/
structure Advance (s₀ s : Memory) : Prop where
  cells_grow : s₀.cells.size ≤ s.cells.size
  ids_grow : ∀ j, (s₀.link j).nextId ≤ (s.link j).nextId
  closed_stay : ∀ j, (s₀.link j).closed = true → (s.link j).closed = true
  /-- A settled cell keeps its outcome. -/
  settled_stay : ∀ c, (s₀.cell c).isSettled = true → s.cell c = s₀.cell c
  /-- A cell nobody holds is never settled. -/
  loose_stay : ∀ c, c < s₀.cells.size → ¬ s₀.Held c → s₀.cell c = .empty →
    s.cell c = .empty
  /-- Nobody comes to hold a cell that existed, unless holding it already. -/
  held_before : ∀ c p, s.Holds c p → c < s₀.cells.size → s₀.Holds c p
  /-- A new waiting call has an id issued since. -/
  ids_fresh : ∀ j x c, (x, c) ∈ (s.link j).pending → (x, c) ∉ (s₀.link j).pending →
    ∃ n, x = .num n ∧ (s₀.link j).nextId ≤ n
  /-- A waiting call whose cell is settled waits no more, and was answered. -/
  answered : ∀ j x c, (x, c) ∈ (s₀.link j).pending → (s.cell c).isSettled = true →
    (x, c) ∉ (s.link j).pending ∧ Answers x (s.cell c)

theorem Cell.eq_empty_of_not_settled {c : Cell} (h : c.isSettled = false) : c = .empty := by
  cases c <;> simp_all [Cell.isSettled]

theorem Advance.refl {s : Memory} (h : s.Consistent) : s.Advance s where
  cells_grow := le_rfl
  ids_grow _ := le_rfl
  closed_stay _ hc := hc
  settled_stay _ _ := rfl
  loose_stay _ _ _ he := he
  held_before _ _ hp _ := hp
  ids_fresh _ _ _ hin hout := absurd hin hout
  answered j x c hin hset := by
    have he := (h.live c (.call j x) hin).2
    simp [he, Cell.isSettled] at hset

/-- A cell held at `s₀` and no longer held there at `s₁` is held nowhere at `s₁`. -/
theorem Advance.unheld_of_left {s₀ s₁ : Memory} (h₀ : s₀.Consistent) (a₁ : s₀.Advance s₁) {c : Nat}
    {p : Place} (hp : s₀.Holds c p) (hp₁ : ¬ s₁.Holds c p) : ¬ s₁.Held c := by
  rintro ⟨p', hp'⟩
  have hsame := h₀.unique c p p' hp (a₁.held_before c p' hp' (h₀.live c p hp).1)
  exact hp₁ (hsame ▸ hp')

section Trans

variable {s₀ s₁ s₂ : Memory} (h₀ : s₀.Consistent) (a₁ : s₀.Advance s₁) (a₂ : s₁.Advance s₂)
include h₀ a₁ a₂

theorem Advance.trans : s₀.Advance s₂ where
  cells_grow := a₁.cells_grow.trans a₂.cells_grow
  ids_grow j := (a₁.ids_grow j).trans (a₂.ids_grow j)
  closed_stay j hc := a₂.closed_stay j (a₁.closed_stay j hc)
  settled_stay c hc := by
    have h₁ := a₁.settled_stay c hc
    rw [a₂.settled_stay c (h₁ ▸ hc), h₁]
  loose_stay c hlt hreg he := by
    have he₁ := a₁.loose_stay c hlt hreg he
    refine a₂.loose_stay c (lt_of_lt_of_le hlt a₁.cells_grow) ?_ he₁
    rintro ⟨p, hp⟩
    exact hreg ⟨p, a₁.held_before c p hp hlt⟩
  held_before c p hp hlt :=
    a₁.held_before c p (a₂.held_before c p hp (lt_of_lt_of_le hlt a₁.cells_grow)) hlt
  ids_fresh j x c hin hout := by
    by_cases hmid : (x, c) ∈ (s₁.link j).pending
    · exact a₁.ids_fresh j x c hmid hout
    · obtain ⟨n, rfl, hn⟩ := a₂.ids_fresh j x c hin hmid
      exact ⟨n, rfl, (a₁.ids_grow j).trans hn⟩
  answered j x c hin hset := by
    have hlt := (h₀.live c (.call j x) hin).1
    by_cases hset₁ : (s₁.cell c).isSettled = true
    · obtain ⟨hgone, hans⟩ := a₁.answered j x c hin hset₁
      refine ⟨fun hin₂ => hgone ?_, a₂.settled_stay c hset₁ ▸ hans⟩
      exact a₂.held_before c (.call j x) hin₂ (lt_of_lt_of_le hlt a₁.cells_grow)
    · by_cases hmid : (x, c) ∈ (s₁.link j).pending
      · exact a₂.answered j x c hmid hset
      · -- the call was dropped unanswered: its cell is held nowhere and stays empty
        have hloose := Advance.unheld_of_left h₀ a₁ (p := .call j x) hin hmid
        have he := a₂.loose_stay c (lt_of_lt_of_le hlt a₁.cells_grow) hloose
          (Cell.eq_empty_of_not_settled (Bool.eq_false_iff.2 hset₁))
        simp [he, Cell.isSettled] at hset

end Trans

/-- From a consistent state the run reaches a consistent one, and advances. -/
def Progress (s₀ s : Memory) : Prop := s₀.Consistent → s.Consistent ∧ s₀.Advance s

/-- A stretch of a segment that progresses and closes no connection. -/
def Steady (s₀ s : Memory) : Prop :=
  Progress s₀ s ∧ ∀ j, (s.link j).closed = true → (s₀.link j).closed = true

theorem Progress.refl (s : Memory) : Progress s s := fun h => ⟨h, Advance.refl h⟩

theorem Progress.trans {s₀ s₁ s₂ : Memory} (h₁ : Progress s₀ s₁) (h₂ : Progress s₁ s₂) :
    Progress s₀ s₂ := by
  intro h₀
  obtain ⟨c₁, a₁⟩ := h₁ h₀
  obtain ⟨c₂, a₂⟩ := h₂ c₁
  exact ⟨c₂, a₁.trans h₀ a₂⟩

theorem Steady.refl (s : Memory) : Steady s s := ⟨Progress.refl s, fun _ hc => hc⟩

theorem Steady.trans {s₀ s₁ s₂ : Memory} (h₁ : Steady s₀ s₁) (h₂ : Steady s₁ s₂) :
    Steady s₀ s₂ :=
  ⟨h₁.1.trans h₂.1, fun j hc => h₁.2 j (h₂.2 j hc)⟩

section Tables

variable {s s' : Memory} (hwait : s'.client.turn.waiters = s.client.turn.waiters)
  (hcalls : ∀ j, (s'.link j).pending = (s.link j).pending)
  (hslots : ∀ j, (s'.link j).slots = (s.link j).slots)
include hwait hcalls hslots

theorem holds_iff_of_tables {c : Nat} {p : Place} : s'.Holds c p ↔ s.Holds c p := by
  cases p <;> simp only [Holds, hcalls, hslots, hwait]

/-- A change that leaves the cells as they read, the connections' tables and the turn's
waiters as they were, and takes back no id and no closing, progresses. -/
theorem Progress.of_tables (hgrow : s.cells.size ≤ s'.cells.size)
    (hcell : ∀ d, s'.cell d = s.cell d)
    (hclosed : ∀ j, (s.link j).closed = true → (s'.link j).closed = true)
    (hids : ∀ j, (s.link j).nextId ≤ (s'.link j).nextId) : Progress s s' := by
  intro h
  have hholds : ∀ {c p}, s'.Holds c p ↔ s.Holds c p := holds_iff_of_tables hwait hcalls hslots
  refine ⟨⟨?_, ?_, ?_, ?_, ?_, ?_⟩, ⟨hgrow, hids, hclosed, ?_, ?_, ?_, ?_, ?_⟩⟩
  · intro c p p' hp hp'
    exact h.unique c p p' (hholds.1 hp) (hholds.1 hp')
  · intro c p hp
    rw [hcell]
    have hl := h.live c p (hholds.1 hp)
    exact ⟨lt_of_lt_of_le hl.1 hgrow, hl.2⟩
  · intro j
    rw [hcalls]
    exact h.keys j
  · intro j
    rw [hslots]
    exact h.slotKeys j
  · rw [hwait]
    exact h.waiters
  · intro j x c hx
    rw [hcalls] at hx
    obtain ⟨n, rfl, hn⟩ := h.issued j x c hx
    exact ⟨n, rfl, lt_of_lt_of_le hn (hids j)⟩
  · intro c _
    exact hcell c
  · intro c _ _ he
    rw [hcell]
    exact he
  · intro c p hp _
    exact hholds.1 hp
  · intro j x c hin hout
    rw [hcalls] at hin
    exact absurd hin hout
  · intro j x c hin hset
    have he := (h.live c (.call j x) hin).2
    rw [hcell, he] at hset
    cases hset

/-- The same, closing nothing: the state stays steady. -/
theorem Steady.of_tables (hgrow : s.cells.size ≤ s'.cells.size)
    (hcell : ∀ d, s'.cell d = s.cell d) (hclosed : ∀ j, (s'.link j).closed = (s.link j).closed)
    (hids : ∀ j, (s.link j).nextId ≤ (s'.link j).nextId) : Steady s s' :=
  ⟨Progress.of_tables hwait hcalls hslots hgrow hcell (fun j hc => by rwa [hclosed]) hids,
    fun j hc => by rwa [hclosed] at hc⟩

end Tables

end Memory

end AgentLink
