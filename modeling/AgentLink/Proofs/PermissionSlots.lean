import Mathlib
import AgentLink.Proofs.RequestReplies
import AgentLink.Proofs.Correlation

/-!
# Permission requests: answered once, by the first response that finds the slot

The agent's permission request waits in a slot of its connection, keyed by the request's key,
until a response resolves the slot, a later request of the same key replaces it, or the
connection closes. What the rest of the host may do to the slots of connection `i` meanwhile is
a `SlotMove`: answer a request (`respond`) or open a slot for one (`request`), both only while
the client holds connection `i`, or leave the slots and the cells they wait on alone (`frame`),
never taking connection `i` back once the client has let it go; every interleaving of a client's
host moves the slots only so (`Pool.Reaches.slotMoves`, in `Proofs/SlotRely`). `SlotsSound` is
what the slots keep through every move: keys and cells do not repeat, and each slot's cell exists
and is empty.

Along any chain of moves a slot fares in one of three ways (`SlotMove.fate`): it is still open,
its cell empty; or a response to its key found it open, and its cell holds that response's
outcome; or a request of its key replaced it, and its cell is abandoned. Once the client has let
go of the connection, an open slot stays open to the end (`SlotMove.stays_open`).
-/

namespace AgentLink

open Concurrency

section Entries

variable {κ α : Type} [BEq κ] [LawfulBEq κ] {key : κ}

/-- Taking `key` takes nothing only from a table without an entry of `key`. -/
theorem extractEntry_none_ne :
    ∀ {l rest : List (κ × α)}, extractEntry key l = (none, rest) → ∀ e ∈ l, e.1 ≠ key
  | [], _, _ => by simp
  | (k, w) :: tail, rest, h => by
    unfold extractEntry at h
    split at h
    · simp at h
    · rename_i hk
      rcases hx : extractEntry key tail with ⟨found, rest'⟩
      rw [hx] at h
      simp only [Prod.mk.injEq] at h
      obtain ⟨rfl, -⟩ := h
      intro e he
      rcases List.mem_cons.1 he with rfl | he
      · exact fun heq => hk (beq_iff_eq.2 heq)
      · exact extractEntry_none_ne hx e he

/-- From a table without an entry of `key` nothing is taken. -/
theorem extractEntry_of_not_mem : ∀ {l : List (κ × α)}, (∀ e ∈ l, e.1 ≠ key) →
    extractEntry key l = (none, l)
  | [], _ => rfl
  | (k, w) :: tail, h => by
    have hk : (k == key) = false := beq_false_of_ne (h _ (List.mem_cons.2 (.inl rfl)))
    simp only [extractEntry, hk, Bool.false_eq_true, ↓reduceIte,
      extractEntry_of_not_mem fun e he => h e (List.mem_cons.2 (.inr he))]

omit [BEq κ] [LawfulBEq κ] in
/-- In a table whose keys do not repeat, an entry of `key` taken out leaves none behind. -/
theorem not_mem_keys_of_perm {l rest : List (κ × α)} {v : α} (hkeys : (l.map Prod.fst).Nodup)
    (hperm : l.Perm ((key, v) :: rest)) : key ∉ rest.map Prod.fst := by
  have hnd := (hperm.map Prod.fst).nodup_iff.1 hkeys
  simp only [List.map_cons, List.nodup_cons] at hnd
  exact hnd.1

omit [BEq κ] [LawfulBEq κ] in
/-- In a table whose keys do not repeat, the entry of `key` is the one taken out. -/
theorem eq_of_perm_cons {l rest : List (κ × α)} {v v' : α} (hkeys : (l.map Prod.fst).Nodup)
    (hperm : l.Perm ((key, v') :: rest)) (hmem : (key, v) ∈ l) : v = v' := by
  rcases List.mem_cons.1 (hperm.subset hmem) with heq | hin
  · exact (Prod.mk.inj heq).2
  · exact absurd (List.mem_map_of_mem (f := Prod.fst) hin) (not_mem_keys_of_perm hkeys hperm)

/-- Taking `key` leaves every entry of another key where it was. -/
theorem mem_extractEntry_of_ne {l rest : List (κ × α)} {found : Option α}
    (h : extractEntry key l = (found, rest)) {e : κ × α} (he : e.1 ≠ key) : e ∈ rest ↔ e ∈ l := by
  cases found with
  | none => rw [extractEntry_none key h]
  | some v =>
    rw [(extractEntry_some key h).mem_iff, List.mem_cons]
    exact ⟨Or.inr, fun h => h.resolve_left fun heq => he (congrArg Prod.fst heq)⟩

/-- With keys that do not repeat, taking `key` takes its entry, and leaves no entry of `key`. -/
theorem extractEntry_of_mem {l rest : List (κ × α)} {v : α} {found : Option α}
    (hkeys : (l.map Prod.fst).Nodup) (hmem : (key, v) ∈ l) (h : extractEntry key l = (found, rest)) :
    found = some v ∧ key ∉ rest.map Prod.fst := by
  cases found with
  | none => exact absurd rfl (extractEntry_none_ne h _ hmem)
  | some v' =>
    have hperm := extractEntry_some key h
    exact ⟨by rw [eq_of_perm_cons hkeys hperm hmem], not_mem_keys_of_perm hkeys hperm⟩

/-- Putting `key` leaves every entry of another key where it was. -/
theorem mem_putEntry_of_ne (value : α) (l : List (κ × α)) {e : κ × α} (he : e.1 ≠ key) :
    e ∈ (putEntry key value l).2 ↔ e ∈ l := by
  obtain ⟨rest, -, hperm, hnone, hsome⟩ := putEntry_perm key value l
  have hne : ∀ w, e ≠ (key, w) := fun _ heq => he (congrArg Prod.fst heq)
  have hrest : e ∈ l ↔ e ∈ rest := by
    rcases hold : (putEntry key value l).1 with _ | v
    · rw [(hnone hold).1]
    · rw [(hsome v hold).mem_iff, List.mem_cons]
      exact ⟨fun h => h.resolve_left (hne v), Or.inr⟩
  rw [hperm.mem_iff, List.mem_cons, hrest]
  exact ⟨fun h => h.resolve_left (hne value), Or.inr⟩

theorem mem_putEntry_self (key : κ) (value : α) (l : List (κ × α)) :
    (key, value) ∈ (putEntry key value l).2 := by
  obtain ⟨rest, -, hperm, -, -⟩ := putEntry_perm key value l
  exact hperm.mem_iff.2 (List.mem_cons.2 (.inl rfl))

/-- With keys that do not repeat, putting `key` replaces its entry. -/
theorem putEntry_of_mem {l : List (κ × α)} {v : α} (key : κ) (value : α) (hkeys : (l.map Prod.fst).Nodup)
    (hmem : (key, v) ∈ l) : (putEntry key value l).1 = some v := by
  obtain ⟨rest, -, -, hnone, hsome⟩ := putEntry_perm key value l
  rcases hold : (putEntry key value l).1 with _ | v'
  · exact absurd rfl ((hnone hold).2 _ hmem)
  · rw [eq_of_perm_cons hkeys (hsome v' hold) hmem]

/-- Putting keeps the keys from repeating. -/
theorem putEntry_keys {l : List (κ × α)} (key : κ) (value : α) (hkeys : (l.map Prod.fst).Nodup) :
    ((putEntry key value l).2.map Prod.fst).Nodup := by
  obtain ⟨rest, hsub, hperm, hnone, hsome⟩ := putEntry_perm key value l
  rw [(hperm.map Prod.fst).nodup_iff, List.map_cons, List.nodup_cons]
  refine ⟨?_, (hsub.map Prod.fst).nodup hkeys⟩
  rcases hold : (putEntry key value l).1 with _ | v'
  · obtain ⟨rfl, hne⟩ := hnone hold
    simp only [List.mem_map, not_exists, not_and]
    exact fun e he heq => hne e he heq
  · exact not_mem_keys_of_perm hkeys (hsome v' hold)

/-- Putting a new value keeps the values from repeating. -/
theorem putEntry_values {l : List (κ × α)} (key : κ) (value : α) (hvals : (l.map Prod.snd).Nodup)
    (hnew : value ∉ l.map Prod.snd) : ((putEntry key value l).2.map Prod.snd).Nodup := by
  obtain ⟨rest, hsub, hperm, -, -⟩ := putEntry_perm key value l
  rw [(hperm.map Prod.snd).nodup_iff, List.map_cons, List.nodup_cons]
  exact ⟨fun h => hnew ((hsub.map Prod.snd).subset h), (hsub.map Prod.snd).nodup hvals⟩

end Entries

namespace Memory

/-- Open the slot `key` of connection `i` with a new cell, abandoning the cell of the slot it
replaces; the new cell comes back. This is what a permission request does in one stretch. -/
def openSlot (m : Memory) (i : Nat) (key : String) : Nat × Memory :=
  let (cell, m) := m.addCell
  let (old, c) := (m.link i).putSlot key cell
  let m := m.modifyLink i fun _ => c
  (cell, match old with
    | some o => m.modifyCell o Cell.abandon
    | none => m)

/-- What the slots of connection `i` keep: keys and cells do not repeat, and each slot's cell
exists and is empty. -/
structure SlotsSound (i : Nat) (s : Memory) : Prop where
  linked : i < s.links.size
  keys : ((s.link i).slots.map Prod.fst).Nodup
  cells : ((s.link i).slots.map Prod.snd).Nodup
  live : ∀ e ∈ (s.link i).slots, e.2 < s.cells.size ∧ s.cell e.2 = .empty

@[simp] theorem size_modifyCell (m : Memory) (c : Nat) (g : Cell → Cell) :
    (m.modifyCell c g).cells.size = m.cells.size := Array.size_modify ..

section Effects

variable {s : Memory} {i : Nat}

/-- The slots of every connection of a consistent host are sound. -/
theorem Consistent.slotsSound (h : s.Consistent) (hi : i < s.links.size) : s.SlotsSound i where
  linked := hi
  keys := h.slotKeys i
  cells := by
    refine List.Nodup.map_on ?_ (List.Nodup.of_map Prod.fst (h.slotKeys i))
    rintro ⟨k, c⟩ hk ⟨k', c'⟩ hk' (rfl : c = c')
    cases h.unique c (.slot i k) (.slot i k') hk hk'
    rfl
  live e he := h.live e.2 (.slot i e.1) he

/-- Two slots of a sound connection with one cell are one slot. -/
theorem SlotsSound.key_eq (hs : s.SlotsSound i) {e : String × Nat} {key : String}
    (he : e ∈ (s.link i).slots) (hkey : (key, e.2) ∈ (s.link i).slots) : e.1 = key :=
  congrArg Prod.fst (List.inj_on_of_nodup_map hs.cells he hkey rfl)

theorem link_modifyLink_self (m : Memory) {i : Nat} (hi : i < m.links.size)
    (f : Connection → Connection) : (m.modifyLink i f).link i = f (m.link i) := by
  rw [Memory.link_modifyLink, if_pos ⟨rfl, hi⟩]

theorem slots_resolveSlot (hi : i < s.links.size) (key : String) (v : Json.Value) :
    ((s.resolveSlot i key v).2.link i).slots = (extractEntry key (s.link i).slots).2 := by
  unfold Memory.resolveSlot Connection.takeSlot
  rcases hx : extractEntry key (s.link i).slots with ⟨_ | c, rest⟩
  · exact (extractEntry_none key hx).symm
  · dsimp only
    rw [link_modifyCell, link_modifyLink_self _ hi]

/-- Resolving the slot `key` of a sound connection takes out the entry of `key`, if any. -/
theorem mem_resolveSlot (hs : s.SlotsSound i) (key : String) (v : Json.Value) (e : String × Nat) :
    e ∈ ((s.resolveSlot i key v).2.link i).slots ↔ e ∈ (s.link i).slots ∧ e.1 ≠ key := by
  rw [slots_resolveSlot hs.linked]
  rcases hx : extractEntry key (s.link i).slots with ⟨found, rest⟩
  have hsub := extractEntry_sublist key (s.link i).slots
  rw [hx] at hsub
  obtain ⟨k, d⟩ := e
  refine ⟨fun he => ⟨hsub.subset he, fun hk => ?_⟩, fun he => (mem_extractEntry_of_ne hx he.2).2 he.1⟩
  subst hk
  exact (extractEntry_of_mem hs.keys (hsub.subset he) hx).2 (List.mem_map_of_mem he)

/-- Resolving the slot `key` of a sound connection fills the cell of its entry, if any, with the
value. -/
theorem cell_resolveSlot (hs : s.SlotsSound i) (key : String) (v : Json.Value) (d : Nat) :
    (s.resolveSlot i key v).2.cell d =
      if (key, d) ∈ (s.link i).slots then .filled (.ok v) else s.cell d := by
  unfold Memory.resolveSlot Connection.takeSlot
  rcases hx : extractEntry key (s.link i).slots with ⟨_ | c, rest⟩
  · rw [if_neg fun hd => extractEntry_none_ne hx _ hd rfl]
  · have hc : (key, c) ∈ (s.link i).slots :=
      (extractEntry_some key hx).mem_iff.2 (List.mem_cons.2 (.inl rfl))
    dsimp only
    rw [cell_modifyCell, cell_modifyLink]
    by_cases hd : (key, d) ∈ (s.link i).slots
    · have hdc : d = c := Option.some.inj (extractEntry_of_mem hs.keys hd hx).1.symm
      subst hdc
      rw [if_pos ⟨rfl, (hs.live _ hc).1⟩, if_pos hd, (hs.live _ hc).2]
      rfl
    · rw [if_neg hd, if_neg]
      rintro ⟨rfl, -⟩
      exact hd hc

/-- Resolving a slot that is not open changes nothing. -/
theorem resolveSlot_of_not_mem {key : String} (v : Json.Value) (h : ∀ e ∈ (s.link i).slots, e.1 ≠ key) :
    s.resolveSlot i key v = (false, s) := by
  unfold Memory.resolveSlot Connection.takeSlot
  rw [extractEntry_of_not_mem h]

theorem outbox_resolveSlot (j : Nat) (key : String) (v : Json.Value) :
    ((s.resolveSlot i key v).2.link j).outbox = (s.link j).outbox := by
  unfold Memory.resolveSlot
  rcases h : (s.link i).takeSlot key with ⟨_ | cell, c⟩
  · rfl
  · rw [link_modifyCell]
    refine Memory.outbox_modifyLink s j i ?_
    rw [← Connection.outbox_takeSlot (s.link i) key, h]

theorem closed_resolveSlot (j : Nat) (key : String) (v : Json.Value) :
    ((s.resolveSlot i key v).2.link j).closed = (s.link j).closed := by
  unfold Memory.resolveSlot Connection.takeSlot
  rcases extractEntry key (s.link i).slots with ⟨_ | c, rest⟩
  · rfl
  · dsimp only
    rw [link_modifyCell]
    exact Memory.link_modifyLink_rel s (fun c c' => c'.closed = c.closed) (fun _ => rfl) rfl j

theorem size_resolveSlot (key : String) (v : Json.Value) :
    (s.resolveSlot i key v).2.cells.size = s.cells.size ∧
      (s.resolveSlot i key v).2.links.size = s.links.size := by
  unfold Memory.resolveSlot
  split
  · exact ⟨size_modifyCell .., Array.size_modify ..⟩
  · exact ⟨rfl, rfl⟩

theorem SlotsSound.resolveSlot (hs : s.SlotsSound i) (key : String) (v : Json.Value) :
    (s.resolveSlot i key v).2.SlotsSound i := by
  have hsub := extractEntry_sublist key (s.link i).slots
  obtain ⟨hcells, hlinks⟩ := size_resolveSlot (s := s) (i := i) key v
  refine ⟨hlinks ▸ hs.linked, ?_, ?_, fun e he => ?_⟩
  · rw [slots_resolveSlot hs.linked]
    exact (hsub.map Prod.fst).nodup hs.keys
  · rw [slots_resolveSlot hs.linked]
    exact (hsub.map Prod.snd).nodup hs.cells
  · obtain ⟨hl, hk⟩ := (mem_resolveSlot hs key v e).1 he
    rw [hcells, cell_resolveSlot hs, if_neg fun h => hk (hs.key_eq hl h)]
    exact hs.live e hl

theorem fst_openSlot (key : String) : (s.openSlot i key).1 = s.cells.size := rfl

theorem slots_openSlot (hi : i < s.links.size) (key : String) :
    ((s.openSlot i key).2.link i).slots = (putEntry key s.cells.size (s.link i).slots).2 := by
  unfold Memory.openSlot Connection.putSlot
  simp only [show s.addCell.1 = s.cells.size from rfl, link_addCell]
  rcases putEntry key s.cells.size (s.link i).slots with ⟨_ | o, slots⟩ <;>
    simp only [link_modifyCell, link_modifyLink_self s.addCell.2 (hi : i < s.addCell.2.links.size)]

/-- Opening the slot `key` of a sound connection puts the new cell, the next one, in place of the
entry of `key`, if any. -/
theorem mem_openSlot (hs : s.SlotsSound i) (key : String) (e : String × Nat) :
    e ∈ ((s.openSlot i key).2.link i).slots ↔
      e = (key, s.cells.size) ∨ e ∈ (s.link i).slots ∧ e.1 ≠ key := by
  rw [slots_openSlot hs.linked]
  have hkeys := putEntry_keys key s.cells.size hs.keys
  have hnew := mem_putEntry_self key s.cells.size (s.link i).slots
  by_cases hk : e.1 = key
  · refine ⟨fun he => .inl (List.inj_on_of_nodup_map hkeys he hnew hk), ?_⟩
    rintro (rfl | ⟨-, hne⟩)
    · exact hnew
    · exact absurd hk hne
  · rw [mem_putEntry_of_ne s.cells.size (s.link i).slots hk]
    exact ⟨fun he => .inr ⟨he, hk⟩, fun he => he.elim (fun heq => absurd (heq ▸ rfl) hk) And.left⟩

/-- Opening the slot `key` of a sound connection abandons the cell of its entry, if any. -/
theorem cell_openSlot (hs : s.SlotsSound i) (key : String) (d : Nat) :
    (s.openSlot i key).2.cell d = if (key, d) ∈ (s.link i).slots then .abandoned else s.cell d := by
  unfold Memory.openSlot Connection.putSlot
  simp only [show s.addCell.1 = s.cells.size from rfl, link_addCell]
  rcases hp : putEntry key s.cells.size (s.link i).slots with ⟨old, slots⟩
  obtain ⟨rest, -, -, -, hsome⟩ := putEntry_perm key s.cells.size (s.link i).slots
  rw [hp] at hsome
  -- the entry of `key` the new one replaces is the slot whose cell `old` names
  have hold : ∀ d, (key, d) ∈ (s.link i).slots ↔ old = some d := by
    intro d
    refine ⟨fun hd => ?_, fun hd => (hsome d hd).mem_iff.2 (List.mem_cons.2 (.inl rfl))⟩
    have h := putEntry_of_mem key s.cells.size hs.keys hd
    rwa [hp] at h
  cases old with
  | none =>
    dsimp only
    rw [cell_modifyLink, cell_addCell, if_neg fun hd => by simpa using (hold d).1 hd]
  | some o =>
    dsimp only
    rw [cell_modifyCell, cell_modifyLink, cell_addCell]
    by_cases hd : (key, d) ∈ (s.link i).slots
    · have hod : o = d := Option.some.inj ((hold d).1 hd)
      subst hod
      have hlt := (hs.live _ hd).1
      rw [if_pos ⟨rfl, by simp [Memory.addCell, Memory.modifyLink]; omega⟩, if_pos hd,
        (hs.live _ hd).2]
      rfl
    · rw [if_neg hd, if_neg]
      rintro ⟨rfl, -⟩
      exact hd ((hold o).2 rfl)

theorem closed_openSlot (j : Nat) (key : String) :
    ((s.openSlot i key).2.link j).closed = (s.link j).closed := by
  unfold Memory.openSlot Connection.putSlot
  simp only [show s.addCell.1 = s.cells.size from rfl, link_addCell]
  -- a slot replaced also has its cell dropped, which leaves the connections alone
  rcases putEntry key s.cells.size (s.link i).slots with ⟨_ | o, slots⟩
  · exact Memory.link_modifyLink_rel _ (fun c c' => c'.closed = c.closed) (fun _ => rfl) rfl j
  · dsimp only
    rw [link_modifyCell]
    exact Memory.link_modifyLink_rel _ (fun c c' => c'.closed = c.closed) (fun _ => rfl) rfl j

theorem client_openSlot (key : String) : (s.openSlot i key).2.client = s.client := by
  unfold Memory.openSlot Connection.putSlot
  simp only [show s.addCell.1 = s.cells.size from rfl, link_addCell]
  rcases putEntry key s.cells.size (s.link i).slots with ⟨_ | o, slots⟩ <;> rfl

theorem size_openSlot (key : String) :
    (s.openSlot i key).2.cells.size = s.cells.size + 1 ∧
      (s.openSlot i key).2.links.size = s.links.size := by
  unfold Memory.openSlot Connection.putSlot
  simp only [show s.addCell.1 = s.cells.size from rfl, link_addCell]
  rcases putEntry key s.cells.size (s.link i).slots with ⟨_ | o, slots⟩ <;>
    simp [Memory.addCell, Memory.modifyLink, Memory.modifyCell]

theorem SlotsSound.openSlot (hs : s.SlotsSound i) (key : String) :
    (s.openSlot i key).2.SlotsSound i := by
  have hfresh : s.cells.size ∉ (s.link i).slots.map Prod.snd := by
    simp only [List.mem_map, not_exists, not_and]
    exact fun e he heq => Nat.lt_irrefl _ (heq ▸ (hs.live e he).1)
  obtain ⟨hcells, hlinks⟩ := size_openSlot (s := s) (i := i) key
  refine ⟨hlinks ▸ hs.linked, ?_, ?_, fun e he => ?_⟩
  · rw [slots_openSlot hs.linked]
    exact putEntry_keys _ _ hs.keys
  · rw [slots_openSlot hs.linked]
    exact putEntry_values _ _ hs.cells hfresh
  · rw [hcells, cell_openSlot hs]
    rcases (mem_openSlot hs key e).1 he with rfl | ⟨hl, hk⟩
    · rw [if_neg fun h => hfresh (List.mem_map_of_mem h)]
      exact ⟨Nat.lt_succ_self _, cell_size s⟩
    · rw [if_neg fun h => hk (hs.key_eq hl h)]
      exact ⟨Nat.lt_succ_of_lt (hs.live e hl).1, (hs.live e hl).2⟩

end Effects

end Memory

open Memory

/-- One move of the rest of the host, as the slots of connection `i` see it: a response to the
request whose slot is `key`, or a request opening the slot `key` with a new cell, both while the
client holds connection `i`; or a change that leaves the slots of connection `i`, their cells and
every settled cell alone, drops no cell and no connection, never gives connection `i` back to a
client that has let it go, and never opens it again once closed. -/
inductive SlotMove (i : Nat) : Memory → Memory → Prop
  | respond {s : Memory} (key : String) (r : PermissionResponse) (hlink : s.client.link = some i) :
      SlotMove i s (s.resolveSlot i key r.outcome).2
  | request {s : Memory} (key : String) (hlink : s.client.link = some i) :
      SlotMove i s (s.openSlot i key).2
  | frame {s s' : Memory} (hslots : (s'.link i).slots = (s.link i).slots)
      (hkept : ∀ e ∈ (s.link i).slots, s'.cell e.2 = s.cell e.2)
      (hsettled : ∀ d, (s.cell d).isSettled = true → s'.cell d = s.cell d)
      (hcells : s.cells.size ≤ s'.cells.size) (hlinks : s.links.size ≤ s'.links.size)
      (hgone : s.client.link ≠ some i → s'.client.link ≠ some i)
      (hclosed : (s.link i).closed = true → (s'.link i).closed = true) : SlotMove i s s'

/-- Moves that leave the slot `key` with cell `c` open. -/
def KeepsOpen (i : Nat) (key : String) (c : Nat) (s s' : Memory) : Prop :=
  SlotMove i s s' ∧ (key, c) ∈ (s'.link i).slots

namespace SlotMove

variable {i : Nat} {s s' : Memory}

/-- Every move keeps the slots sound. -/
theorem sound (h : SlotMove i s s') (hs : s.SlotsSound i) : s'.SlotsSound i := by
  cases h with
  | respond key r => exact hs.resolveSlot key _
  | request key => exact hs.openSlot key
  | frame hslots hkept _ hcells hlinks =>
    refine ⟨lt_of_lt_of_le hs.linked hlinks, hslots ▸ hs.keys, hslots ▸ hs.cells, fun e he => ?_⟩
    rw [hslots] at he
    rw [hkept e he]
    exact ⟨lt_of_lt_of_le (hs.live e he).1 hcells, (hs.live e he).2⟩

/-- A settled cell stays as it is. -/
theorem settled (h : SlotMove i s s') (hs : s.SlotsSound i) {d : Nat}
    (hd : (s.cell d).isSettled = true) : s'.cell d = s.cell d := by
  -- a cell a slot waits on is empty, so no move of a slot reaches a settled one
  have hfree : ∀ key, (key, d) ∉ (s.link i).slots := fun key hk => by
    rw [(hs.live _ hk).2] at hd
    cases hd
  cases h with
  | respond key r => rw [cell_resolveSlot hs, if_neg (hfree key)]
  | request key => rw [cell_openSlot hs, if_neg (hfree key)]
  | frame _ _ hsettled => exact hsettled d hd

/-- A closed connection stays closed. -/
theorem closed (h : SlotMove i s s') (hc : (s.link i).closed = true) : (s'.link i).closed = true := by
  cases h with
  | respond key r => rwa [closed_resolveSlot]
  | request key => rwa [closed_openSlot]
  | frame _ _ _ _ _ _ hclosed => exact hclosed hc

theorem closed_run (h : Relation.ReflTransGen (SlotMove i) s s') (hc : (s.link i).closed = true) :
    (s'.link i).closed = true := by
  induction h with
  | refl => exact hc
  | tail _ hstep ih => exact hstep.closed ih

/-- A client that has let connection `i` go never holds it again. -/
theorem gone (h : SlotMove i s s') (hgone : s.client.link ≠ some i) : s'.client.link ≠ some i := by
  cases h with
  | respond key r hlink => exact absurd hlink hgone
  | request key hlink => exact absurd hlink hgone
  | frame _ _ _ _ _ hg => exact hg hgone

theorem sound_run (h : Relation.ReflTransGen (SlotMove i) s s') (hs : s.SlotsSound i) :
    s'.SlotsSound i := by
  induction h with
  | refl => exact hs
  | tail _ hstep ih => exact hstep.sound ih

/-- Once the client has let connection `i` go, an open slot stays open, its cell as it was. -/
theorem stays_open {key : String} {c : Nat} (h : Relation.ReflTransGen (SlotMove i) s s')
    (hgone : s.client.link ≠ some i) (hc : (key, c) ∈ (s.link i).slots) :
    s'.client.link ≠ some i ∧ (key, c) ∈ (s'.link i).slots ∧ s'.cell c = s.cell c := by
  induction h with
  | refl => exact ⟨hgone, hc, rfl⟩
  | tail _ hstep ih =>
    obtain ⟨hg, hcy, hcell⟩ := ih
    cases hstep with
    | respond key r hlink => exact absurd hlink hg
    | request key hlink => exact absurd hlink hg
    | frame hslots hkept _ _ _ hg' => exact ⟨hg' hg, hslots ▸ hcy, (hkept _ hcy).trans hcell⟩

/-- How an open slot fares along any chain of moves: it is still open, its cell empty, having
stayed open all along; or a response to its key found it open, from a state reached with the slot
open all along, and its cell holds that response's outcome; or a request of its key found it open
and replaced it, and its cell is abandoned. -/
theorem fate {key : String} {c : Nat} (hs : s.SlotsSound i) (hc : (key, c) ∈ (s.link i).slots)
    (h : Relation.ReflTransGen (SlotMove i) s s') :
    (Relation.ReflTransGen (KeepsOpen i key c) s s' ∧ (key, c) ∈ (s'.link i).slots ∧
        s'.cell c = .empty) ∨
      (∃ sa, ∃ r : PermissionResponse, Relation.ReflTransGen (KeepsOpen i key c) s sa ∧
        sa.client.link = some i ∧
        Relation.ReflTransGen (SlotMove i) (sa.resolveSlot i key r.outcome).2 s' ∧
        s'.cell c = .filled (.ok r.outcome)) ∨
      (∃ sa, Relation.ReflTransGen (KeepsOpen i key c) s sa ∧ sa.client.link = some i ∧
        Relation.ReflTransGen (SlotMove i) (sa.openSlot i key).2 s' ∧ s'.cell c = .abandoned) := by
  induction h with
  | refl => exact .inl ⟨.refl, hc, (hs.live _ hc).2⟩
  | @tail y z hrun hstep ih =>
    have hy := sound_run hrun hs
    rcases ih with ⟨hopen, hcy, hempty⟩ | ⟨sa, r, hpre, hl, hrest, hcell⟩ | ⟨sa, hpre, hl, hrest, hcell⟩
    · -- the slot is open at `y`: the step decides its fate, or leaves it open
      cases hstep with
      | respond k r hlink =>
        by_cases hk : k = key
        · subst hk
          refine .inr (.inl ⟨y, r, hopen, hlink, .refl, ?_⟩)
          rw [cell_resolveSlot hy, if_pos hcy]
        · have hcz := (mem_resolveSlot hy k r.outcome _).2 ⟨hcy, fun h => hk h.symm⟩
          refine .inl ⟨hopen.tail ⟨.respond k r hlink, hcz⟩, hcz, ?_⟩
          rw [cell_resolveSlot hy, if_neg fun h => hk (hy.key_eq hcy h).symm, hempty]
      | request k hlink =>
        by_cases hk : k = key
        · subst hk
          refine .inr (.inr ⟨y, hopen, hlink, .refl, ?_⟩)
          rw [cell_openSlot hy, if_pos hcy]
        · have hcz := (mem_openSlot hy k _).2 (.inr ⟨hcy, fun h => hk h.symm⟩)
          refine .inl ⟨hopen.tail ⟨.request k hlink, hcz⟩, hcz, ?_⟩
          rw [cell_openSlot hy, if_neg fun h => hk (hy.key_eq hcy h).symm, hempty]
      | frame hslots hkept hsettled hcells hlinks hgone hclosed =>
        have hcz : (key, c) ∈ (z.link i).slots := hslots ▸ hcy
        exact .inl ⟨hopen.tail ⟨.frame hslots hkept hsettled hcells hlinks hgone hclosed, hcz⟩, hcz,
          (hkept _ hcy).trans hempty⟩
    · -- the slot was answered: its cell keeps the outcome
      refine .inr (.inl ⟨sa, r, hpre, hl, hrest.tail hstep, ?_⟩)
      rw [hstep.settled hy (by rw [hcell]; rfl), hcell]
    · refine .inr (.inr ⟨sa, hpre, hl, hrest.tail hstep, ?_⟩)
      rw [hstep.settled hy (by rw [hcell]; rfl), hcell]

/-- A change that touches neither the connections nor the cells, nor whom the client holds. -/
theorem of_frame (hl : s'.links = s.links) (hc : s'.cells = s.cells)
    (hcl : s'.client.link = s.client.link) : SlotMove i s s' :=
  .frame (by simp only [link, hl]) (fun _ _ => by simp only [cell, hc])
    (fun _ _ => by simp only [cell, hc]) (by rw [hc]) (by rw [hl]) (by rw [hcl]; exact id)
    (by simp only [link, hl, imp_self])

end SlotMove

namespace KeepsOpen

variable {i : Nat} {key : String} {c : Nat} {s s' : Memory}

theorem moves (h : Relation.ReflTransGen (KeepsOpen i key c) s s') :
    Relation.ReflTransGen (SlotMove i) s s' := by
  induction h with
  | refl => exact .refl
  | tail _ hstep ih => exact ih.tail hstep.1

theorem mem (h : Relation.ReflTransGen (KeepsOpen i key c) s s') (hc : (key, c) ∈ (s.link i).slots) :
    (key, c) ∈ (s'.link i).slots := by
  rcases h.cases_tail with rfl | ⟨_, _, -, hc'⟩
  · exact hc
  · exact hc'

end KeepsOpen

/-- How the permission request whose slot `key` was opened with cell `c` at `s₁` is answered with
`out`, as it reads its cell at `s`: with the outcome of the response that found the slot open, from
a state reached with the slot open all along; with `cancelled` when a request of the same key found
the slot open and replaced it; or with `TransportClosed` when the slot is still open and the
connection closed. -/
def SlotAnswer (i : Nat) (key : String) (c : Nat) (s₁ s : Memory)
    (out : Except Failure Json.Value) : Prop :=
  (∃ sa, ∃ r : PermissionResponse, Relation.ReflTransGen (KeepsOpen i key c) s₁ sa ∧
      sa.client.link = some i ∧ Relation.ReflTransGen (SlotMove i) (sa.resolveSlot i key r.outcome).2 s ∧
      out = .ok r.outcome) ∨
    (∃ sa, Relation.ReflTransGen (KeepsOpen i key c) s₁ sa ∧ sa.client.link = some i ∧
      Relation.ReflTransGen (SlotMove i) (sa.openSlot i key).2 s ∧
      out = .ok PermissionResponse.cancelled.outcome) ∨
    (Relation.ReflTransGen (KeepsOpen i key c) s₁ s ∧ (s.link i).closed = true ∧
      out = .error .transportClosed)

namespace SlotAnswer

variable {i : Nat} {key : String} {c : Nat} {s₁ s : Memory} {out : Except Failure Json.Value}

/-- What a request reads off its cell, once the cell is settled or the connection closed, is the
answer its slot's fate gives. -/
theorem of_cell (hs : s₁.SlotsSound i) (hc : (key, c) ∈ (s₁.link i).slots)
    (hrun : Relation.ReflTransGen (SlotMove i) s₁ s)
    (hready : ((s.cell c).isSettled || (s.link i).closed) = true)
    (hread : s.cell c = .filled out ∨
      s.cell c = .abandoned ∧ out = .ok PermissionResponse.cancelled.outcome ∨
      s.cell c = .empty ∧ out = .error .transportClosed) :
    SlotAnswer i key c s₁ s out := by
  rcases SlotMove.fate hs hc hrun with ⟨hopen, -, hempty⟩ | ⟨sa, r, hpre, hl, hrest, hcell⟩ |
    ⟨sa, hpre, hl, hrest, hcell⟩
  · -- an empty cell woke its waiter only by the connection's closing
    rw [hempty] at hready hread
    simp only [reduceCtorEq, false_and, false_or, true_and] at hread
    simp only [Cell.isSettled, Bool.false_or] at hready
    exact .inr (.inr ⟨hopen, hready, hread⟩)
  · rw [hcell] at hread
    simp only [Cell.filled.injEq, reduceCtorEq, false_and, or_false] at hread
    exact .inl ⟨sa, r, hpre, hl, hrest, hread.symm⟩
  · rw [hcell] at hread
    simp only [reduceCtorEq, true_and, false_and, or_false, false_or] at hread
    exact .inr (.inl ⟨sa, hpre, hl, hrest, hread⟩)

/-- A request still waiting when the client lets its connection go was woken by the connection's
closing, and reads `TransportClosed`. -/
theorem disconnected (hs : s₁.SlotsSound i) (hc : (key, c) ∈ (s₁.link i).slots) {sd : Memory}
    (hopen : Relation.ReflTransGen (KeepsOpen i key c) s₁ sd) (hgone : sd.client.link ≠ some i)
    (hrun : Relation.ReflTransGen (SlotMove i) sd s)
    (hready : ((s.cell c).isSettled || (s.link i).closed) = true)
    (hread : s.cell c = .filled out ∨
      s.cell c = .abandoned ∧ out = .ok PermissionResponse.cancelled.outcome ∨
      s.cell c = .empty ∧ out = .error .transportClosed) :
    out = .error .transportClosed ∧ (s.link i).closed = true := by
  have hcd := KeepsOpen.mem hopen hc
  obtain ⟨-, -, hcell⟩ := SlotMove.stays_open hrun hgone hcd
  rw [hcell, ((SlotMove.sound_run (KeepsOpen.moves hopen) hs).live _ hcd).2] at hread hready
  simp only [Cell.isSettled, Bool.false_or] at hready
  exact ⟨by simpa using hread, hready⟩

end SlotAnswer

namespace Concurrency.Async.Puts

variable {α : Type} {i : Nat} {E : Memory → Memory → Prop} {P : Memory → Prop}

/-- A change that keeps the queue of connection `i` puts nothing. -/
theorem modifyGet_quiet {f : Memory → α × Memory}
    (hf : ∀ s, ((f s).2.link i).outbox = (s.link i).outbox) :
    Puts i E P (Async.modifyGet f : Act α) fun v put s' => put = [] ∧ ∃ s, P s ∧ f s = (v, s') := by
  refine (modifyGet f).conseq (fun _ h => h) ?_
  rintro v put s' ⟨s, hs, hf', rfl⟩
  refine ⟨Memory.queued_of_outbox ?_, s, hs, hf'⟩
  rw [← hf s, hf']

theorem modify_quiet {f : Memory → Memory} (hf : ∀ s, ((f s).link i).outbox = (s.link i).outbox) :
    Puts i E P (Async.modify f : Act Unit) fun _ put s' => put = [] ∧ ∃ s, P s ∧ s' = f s := by
  refine (modify f).conseq (fun _ h => h) ?_
  rintro _ put s' ⟨s, hs, rfl, rfl⟩
  exact ⟨Memory.queued_of_outbox (hf s), s, hs, rfl⟩

end Concurrency.Async.Puts

open Async

/-- Opening a slot puts nothing on any queue and leaves the memory as `Memory.openSlot` says. -/
theorem Link.puts_openSlot {i : Nat} {E : Memory → Memory → Prop} {P : Memory → Prop} (j : Nat)
    (key : String) :
    Puts i E P (Link.openSlot j key) fun cell put s' =>
      put = [] ∧ ∃ s, P s ∧ s.openSlot j key = (cell, s') := by
  unfold Link.openSlot Act.newCell
  refine (Puts.modifyGet_quiet fun _ => Memory.outbox_of_links (by rfl)).bind fun cell put =>
    Puts.assume (fun _ h => h.1) fun hput => ?_
  subst hput
  refine (Puts.modifyGet_quiet fun s => ?_).bind fun old put => Puts.assume (fun _ h => h.1) fun hput => ?_
  · rcases h : (s.link j).putSlot key cell with ⟨old, c⟩
    refine Memory.outbox_modifyLink s i j ?_
    rw [← Connection.outbox_putSlot (s.link j) key cell, h]
  subst hput
  refine Puts.start fun s₂ hs₂ => ?_
  obtain ⟨-, s₁, ⟨-, s₀, hP, h₁⟩, h₂⟩ := hs₂
  -- the two changes and the abandoning make up `Memory.openSlot`
  have hopen : ∀ s₃, (old.elim s₂ fun o => s₂.modifyCell o Cell.abandon) = s₃ →
      s₀.openSlot j key = (cell, s₃) := by
    rintro s₃ rfl
    unfold Memory.openSlot
    rw [h₁]
    dsimp only
    rcases hps : (s₁.link j).putSlot key cell with ⟨old', c⟩
    rw [hps] at h₂
    obtain ⟨rfl, rfl⟩ := Prod.mk.inj h₂
    cases old' <;> rfl
  cases old with
  | some o =>
    dsimp only
    refine (Puts.modify_quiet fun _ => Memory.outbox_of_links (by rfl)).bind fun _ put =>
      Puts.assume (fun _ h => h.1) fun hput => ?_
    subst hput
    refine (Puts.pure cell).conseq (fun _ h => h) ?_
    rintro _ put s' ⟨rfl, rfl, -, s₂', rfl, rfl⟩
    exact ⟨rfl, s₀, hP, hopen _ rfl⟩
  | none =>
    refine (Puts.pure cell).conseq (fun _ h => h) ?_
    rintro _ put s' ⟨rfl, rfl, rfl⟩
    exact ⟨rfl, s₀, hP, hopen _ rfl⟩

namespace Client

variable {i : Nat} {E : Memory → Memory → Prop}

/-- Waiting on a permission request's cell: the wait ends once the cell is settled or the
connection closed, and the answer is read off the cell. -/
theorem puts_awaitPermission {P : Memory → Prop} (cell : Nat) :
    Puts i E P (do
        Async.waitUntil (fun m => (m.cell cell).isSettled || (m.link i).closed) none
        match ← Async.read (·.cell cell) with
        | .filled o => return o
        | .abandoned => return .ok PermissionResponse.cancelled.outcome
        | .empty => return .error .transportClosed : Act (Except Failure Json.Value))
      fun out put s => put = [] ∧ (∃ s', P s' ∧ E s' s) ∧
        ((s.cell cell).isSettled || (s.link i).closed) = true ∧
        (s.cell cell = .filled out ∨
          s.cell cell = .abandoned ∧ out = .ok PermissionResponse.cancelled.outcome ∨
          s.cell cell = .empty ∧ out = .error .transportClosed) := by
  refine (Puts.waitUntil _ _).bind fun _ put => Puts.assume (fun _ h => h.2.2) fun hput => ?_
  subst hput
  refine (Puts.read _).bind fun v put => Puts.assume (fun _ h => h.2.2) fun hput => ?_
  subst hput
  refine Puts.start fun s hs => ?_
  obtain ⟨⟨hrun, hready, -⟩, rfl, -⟩ := hs
  have hready' : ((s.cell cell).isSettled || (s.link i).closed) = true := by simpa using hready
  split
  · rename_i o hc
    refine (Puts.pure o).conseq (fun _ h => h) ?_
    rintro _ put _ ⟨rfl, rfl, rfl⟩
    exact ⟨rfl, hrun, hready', .inl hc⟩
  · rename_i hc
    refine (Puts.pure _).conseq (fun _ h => h) ?_
    rintro _ put _ ⟨rfl, rfl, rfl⟩
    exact ⟨rfl, hrun, hready', .inr (.inl ⟨hc, rfl⟩)⟩
  · rename_i hc
    refine (Puts.pure _).conseq (fun _ h => h) ?_
    rintro _ put _ ⟨rfl, rfl, rfl⟩
    exact ⟨rfl, hrun, hready', .inr (.inr ⟨hc, rfl⟩)⟩

/-- Answering a permission request on a client that holds connection `i` and has a subscriber,
whatever the rest of the host does to the slots meanwhile: the request's slot is opened with the
next cell at once, under the request's key; the answer waits until the cell is settled or the
connection closed, and is read off the cell. Nothing goes on any queue. -/
theorem puts_answerPermission {s₀ : Memory} {subscriber : PermissionSubscriber}
    (kvs : List (String × Json.Value)) (hlink : s₀.client.link = some i)
    (hsub : s₀.client.permissionSubscriber = some subscriber) :
    Puts i (Relation.ReflTransGen (SlotMove i)) (· = s₀) (Client.answerPermission (.object kvs))
      fun out put s => put = [] ∧ ∃ c s₁,
        ({ s₀ with client := { s₀.client with madeUpIds := s₀.client.madeUpIds + 1 } }).openSlot i
          (PermissionRequest.ofParams (.object kvs) (s₀.client.turn.activeSession.getD "unknown")
            (freshToolCallId s₀.client.madeUpIds)).id = (c, s₁) ∧
        Relation.ReflTransGen (SlotMove i) s₁ s ∧
        ((s.cell c).isSettled || (s.link i).closed) = true ∧
        (s.cell c = .filled out ∨
          s.cell c = .abandoned ∧ out = .ok PermissionResponse.cancelled.outcome ∨
          s.cell c = .empty ∧ out = .error .transportClosed) := by
  unfold Client.answerPermission
  dsimp only
  refine (Puts.modifyGet_quiet fun _ => Memory.outbox_of_links (by rfl)).bind fun req put =>
    Puts.assume (fun _ h => h.1) fun hput => ?_
  subst hput
  refine (Puts.read _).bind fun c put => Puts.assume (fun _ h => h.2.2) fun hput => ?_
  subst hput
  refine Puts.start fun s₁ hs₁ => ?_
  obtain ⟨⟨-, s, rfl, hf⟩, rfl, -⟩ := hs₁
  obtain ⟨rfl, rfl⟩ := Prod.mk.inj hf
  simp only [hsub, hlink]
  refine (Link.puts_openSlot i _).bind fun cell put => Puts.assume (fun _ h => h.1) fun hput => ?_
  subst hput
  -- the subscriber is told, which leaves the slots alone; then the answer is awaited
  cases subscriber with
  | log =>
    refine (Puts.modify_quiet fun _ => Memory.outbox_of_links (by rfl)).bind fun _ put =>
      Puts.assume (fun _ h => h.1) fun hput => ?_
    subst hput
    refine (puts_awaitPermission cell).conseq (fun _ h => h) ?_
    rintro out put s ⟨rfl, ⟨s₃, ⟨-, s₂, ⟨-, s', rfl, hopen⟩, rfl⟩, hE⟩, hready, hcell⟩
    exact ⟨rfl, cell, s₂, hopen, .head (SlotMove.of_frame (by rfl) (by rfl) (by rfl)) hE, hready, hcell⟩
  | policy p =>
    -- the policy's answer runs on a task of its own, which puts nothing
    refine (Puts.spawn _).bind fun _ put => Puts.assume (fun _ h => by
      obtain ⟨-, _, -, hrun⟩ := h
      exact ((quiet_respondPermission _ _).bind fun _ _ =>
        Quiet.pure (R := fun _ => True) trivial).toProgram hrun) fun hput => ?_
    subst hput
    refine (puts_awaitPermission cell).conseq (fun _ h => h) ?_
    rintro out put s ⟨rfl, ⟨s₃, ⟨⟨-, s', rfl, hopen⟩, -⟩, hE⟩, hready, hcell⟩
    exact ⟨rfl, cell, s₃, hopen, hE, hready, hcell⟩

/-- A permission request whose params are no record is dismissed at once. -/
theorem puts_answerPermission_dismissed {P : Memory → Prop} {params : Json.Value}
    (hparams : ∀ kvs, params ≠ .object kvs) :
    Puts i E P (Client.answerPermission params) fun out put s =>
      out = .ok PermissionResponse.cancelled.outcome ∧ put = [] ∧ P s := by
  unfold Client.answerPermission
  dsimp only
  split
  · exact absurd rfl (hparams _)
  · exact (Puts.pure _).conseq (fun _ h => h) fun _ _ _ ⟨hout, hput, hs⟩ => ⟨hout, hput, hs⟩

/-- Responding to a permission request returns `Ok` and puts nothing; it resolves the slot `id`
of the connection the client holds, if any. -/
theorem puts_respondPermission {P : Memory → Prop} (id : String) (response : PermissionResponse) :
    Puts i E P (Client.respondPermission id response) fun out put s' =>
      out = .ok .null ∧ put = [] ∧ ∃ s, P s ∧ s' = match s.client.link with
        | some j => (s.resolveSlot j id response.outcome).2
        | none => s := by
  unfold Client.respondPermission
  refine (Puts.read _).bind fun c put => Puts.assume (fun _ h => h.2.2) fun hput => ?_
  subst hput
  refine Puts.start fun s hs => ?_
  obtain ⟨hP, rfl, -⟩ := hs
  split
  · rename_i j hj
    refine (Puts.modifyGet_quiet fun s => outbox_resolveSlot i _ _).bind fun _ put =>
      Puts.assume (fun _ h => h.1) fun hput => ?_
    subst hput
    refine (Puts.pure _).conseq (fun _ h => h) ?_
    rintro _ put _ ⟨rfl, rfl, -, s', rfl, hres⟩
    refine ⟨rfl, rfl, s', hP, ?_⟩
    rw [hj]
    exact (congrArg Prod.snd hres).symm
  · rename_i hnone
    have hn : s.client.link = none := by
      cases h : s.client.link with
      | none => rfl
      | some j => exact absurd h (hnone j)
    refine (Puts.pure _).conseq (fun _ h => h) ?_
    rintro _ put _ ⟨rfl, rfl, rfl⟩
    refine ⟨rfl, rfl, _, hP, ?_⟩
    rw [hn]

/-- The task that answers a permission request puts at most one message, the answer to the
request made of what reading the slot's cell gave. -/
theorem puts_answerTask_permission {s₀ : Memory} {subscriber : PermissionSubscriber}
    (kvs : List (String × Json.Value)) (x : RequestId) (hlink : s₀.client.link = some i)
    (hsub : s₀.client.permissionSubscriber = some subscriber) :
    Puts i (Relation.ReflTransGen (SlotMove i)) (· = s₀)
      (do let out ← Client.answerPermission (.object kvs); let _ ← Link.enqueue i (Link.replyTo x out) :
        Act Unit)
      fun _ put _ => ∃ out c s₁ s sp,
        ({ s₀ with client := { s₀.client with madeUpIds := s₀.client.madeUpIds + 1 } }).openSlot i
          (PermissionRequest.ofParams (.object kvs) (s₀.client.turn.activeSession.getD "unknown")
            (freshToolCallId s₀.client.madeUpIds)).id = (c, s₁) ∧
        Relation.ReflTransGen (SlotMove i) s₁ s ∧
        ((s.cell c).isSettled || (s.link i).closed) = true ∧
        (s.cell c = .filled out ∨
          s.cell c = .abandoned ∧ out = .ok PermissionResponse.cancelled.outcome ∨
          s.cell c = .empty ∧ out = .error .transportClosed) ∧
        Relation.ReflTransGen (SlotMove i) s sp ∧
        (put = [Link.replyTo x out] ∧ (sp.link i).outboxOpen = true ∨
          put = [] ∧ (sp.link i).outboxOpen = false) := by
  refine (puts_answerPermission kvs hlink hsub).bind fun out put =>
    Puts.assume (fun _ h => h.1) fun hput => ?_
  subst hput
  refine Puts.start fun s hs => ?_
  obtain ⟨-, c, s₁, hopen, hrun, hready, hread⟩ := hs
  -- the answer goes on the queue in the state the writer's flag is read in
  refine (Link.puts_enqueue _).bind fun ok put => Puts.assume (fun _ h => h) ?_
  rintro ⟨s', s₁', sp, hs', hmoved, hlast, hok, rfl⟩
  -- moves of the rest of the host are runs of slot moves, and so is a run of them
  rw [hs'] at hmoved
  have hE := (hmoved.lift' id fun _ _ h => h).trans hlast
  refine (Puts.pure ()).conseq (fun _ h => h) ?_
  rintro _ _ _ ⟨-, rfl, -⟩
  refine ⟨out, c, s₁, s, sp, hopen, hrun, hready, hread, hE, ?_⟩
  cases ok
  · exact .inr ⟨rfl, hok.symm⟩
  · exact .inl ⟨rfl, hok.symm⟩

end Client

namespace Memory

/-- A change that takes no message off the queue of connection `i` once it is closed, though it
may drop them all; a closed connection stays closed. -/
def SparesQueue (i : Nat) (s s' : Memory) : Prop :=
  (s.link i).closed = true → (s'.link i).closed = true ∧
    ((s'.link i).outbox = (s.link i).outbox ∨ (s'.link i).outbox = [])

theorem SparesQueue.of_links {i : Nat} {s s' : Memory} (h : s'.links = s.links) :
    SparesQueue i s s' := by
  have hl : s'.link i = s.link i := by simp only [link, h]
  intro hc
  rw [hl]
  exact ⟨hc, .inl rfl⟩

theorem SparesQueue.modifyLink {i j : Nat} (s : Memory) {f : Connection → Connection}
    (hc : (s.link j).closed = true → (f (s.link j)).closed = true)
    (hq : (f (s.link j)).outbox = (s.link j).outbox ∨ (f (s.link j)).outbox = []) :
    SparesQueue i s (s.modifyLink j f) :=
  link_modifyLink_rel s
    (fun c c' => c.closed = true → c'.closed = true ∧ (c'.outbox = c.outbox ∨ c'.outbox = []))
    (fun _ hc => ⟨hc, .inl rfl⟩) (fun hcl => ⟨hc hcl, hq⟩) i

end Memory

namespace Link

variable {α β : Type} {i : Nat}

/-- Code none of whose changes takes a message off the queue of a closed connection `i`. -/
def Spares (i : Nat) (a : Act α) : Prop :=
  Triple (fun _ _ _ => True) (SparesQueue i) (fun _ _ => True) a fun _ _ _ => True

namespace Spares

theorem pure (v : α) : Spares i (Pure.pure v : Act α) := Triple.pure v

theorem bind {a : Act α} {f : α → Act β} (ha : Spares i a) (hf : ∀ v, Spares i (f v)) :
    Spares i (a >>= f) :=
  Triple.bind ha hf

theorem ite {c : Prop} [Decidable c] {a b : Act α} (ha : Spares i a) (hb : Spares i b) :
    Spares i (if c then a else b) := by
  split
  · exact ha
  · exact hb

theorem read (f : Memory → α) : Spares i (Async.read f) := Triple.read f

theorem spend : Spares i (Async.spend : Act Unit) :=
  Triple.conseq Triple.spend (fun _ _ _ _ => trivial) fun _ _ _ _ => trivial

theorem waitUntil (ready : Memory → Bool) (deadline : Option Nat) :
    Spares i (Async.waitUntil ready deadline) :=
  Triple.conseq (Triple.waitUntil ready deadline) (fun _ _ _ _ => trivial) fun _ _ _ _ => trivial

theorem modify {f : Memory → Memory} (h : ∀ s, SparesQueue i s (f s)) : Spares i (Async.modify f) :=
  Triple.conseq (Triple.modify f) (fun _ s _ => ⟨h s, trivial⟩) fun _ _ _ h => h

theorem modifyGet {f : Memory → α × Memory} (h : ∀ s, SparesQueue i s (f s).2) :
    Spares i (Async.modifyGet f) :=
  Triple.conseq (Triple.modifyGet f) (fun _ s _ => ⟨h s, trivial⟩) fun _ _ _ h => h

end Spares

theorem spares_stopWriter : Spares i (Link.stopWriter i) := by
  unfold Link.stopWriter
  refine Spares.bind (Spares.read _) fun _ => Spares.bind ?_ fun _ => Spares.modify fun _ =>
    SparesQueue.of_links rfl
  exact Spares.modify fun s => SparesQueue.modifyLink s id (.inr rfl)

theorem spares_report (r : ProcessReport) : Spares i (Link.report i r) := by
  unfold Link.report Memory.report
  refine Spares.bind Spares.spend fun _ => Spares.modify fun s => ?_
  split
  · exact SparesQueue.of_links rfl
  · exact SparesQueue.of_links rfl

theorem spares_shutdown : Spares i (Link.shutdown i) := by
  unfold Link.shutdown
  refine Spares.bind (Spares.modifyGet fun s => ?_) fun b => ?_
  · unfold Memory.markClosed
    split
    · exact SparesQueue.of_links rfl
    · exact SparesQueue.modifyLink s (fun _ => rfl) (.inl rfl)
  · refine Spares.ite (Spares.pure _) (Spares.bind Spares.spend fun _ =>
      Spares.bind (Spares.modify fun s => ?_) fun _ => Spares.pure _)
    -- failing the waiting calls changes connection `i` only by taking them back
    have hq := SparesQueue.modifyLink (i := i) (j := i) s (f := fun c => { c with pending := [] })
      (fun h => h) (.inl rfl)
    intro hc
    obtain ⟨hc', hbox⟩ := hq hc
    simp only [link, (Steady.failPending s i).2] at hc' hbox ⊢
    exact ⟨hc', hbox⟩

theorem spares_writer (i : Nat) : ∀ fuel, Spares i (Link.writer i fuel)
  | 0 => Spares.pure ()
  | fuel + 1 => by
    unfold Link.writer
    refine Spares.bind (Spares.waitUntil _ _) fun _ => Spares.bind (Spares.read _) fun _ =>
      Spares.ite spares_stopWriter ?_
    refine Spares.bind Spares.spend fun _ => ?_
    -- a message is taken off the queue in the segment that found the connection open
    refine Triple.bind (Q := fun c _ s => s.link i = c)
      ((Triple.read _).conseq (fun _ _ _ => rfl) fun _ _ _ h => h) fun c => ?_
    split
    · exact spares_stopWriter.conseq (fun _ _ _ => trivial) fun _ _ _ h => h
    · exact (spares_writer i fuel).conseq (fun _ _ _ => trivial) fun _ _ _ h => h
    · rename_i rest hclosed _
      refine Triple.bind (Triple.modify (Q := fun _ _ _ => True) _)
        (fun _ => ?_) |>.conseq (fun _ s hs => ⟨fun hc => ?_, trivial⟩) fun _ _ _ h => h
      · refine Spares.bind Spares.spend fun _ => Spares.bind (Spares.modifyGet fun s => ?_) fun _ =>
          Spares.ite (spares_writer i fuel) ?_
        · split
          · exact SparesQueue.of_links rfl
          · exact SparesQueue.of_links rfl
        · exact Spares.bind (spares_report _) fun _ => Spares.bind spares_shutdown fun _ =>
            spares_stopWriter
      · rw [hs, hclosed] at hc
        cases hc

/-- The writer takes a message off the queue of its connection only while the connection is
open. Once it is closed, each change the writer makes keeps it closed and leaves the queue as it
is or drops it all: a message put on the queue of a closed connection is never written. -/
theorem writer_spares_closed (i fuel : Nat) :
    (Link.writer i fuel).toProgram.Safe (fun _ _ _ => True) (SparesQueue i) :=
  Triple.safe ((spares_writer i fuel).conseq (fun _ _ _ => trivial) fun _ _ _ _ => trivial)

end Link

/-- Permission requests are answered once, by the first response that finds their slot open.
Take a consistent host whose client holds connection `i` and has a permission subscriber, and a
permission request `x` whose params are a record, reaching the client there; let the rest of the
host move the slots only as `SlotMove` allows. Every finished run of the task that answers `x`
puts at most one message, the answer to `x` with `out`, and puts it exactly when the writer still
takes messages. The request's slot is opened at once under the request's key, with a new cell, and
`out` is the outcome of the first response to that key that found the slot open, `cancelled` if a
later request of the same key replaced the slot first, or `TransportClosed` if the connection
closed with the slot still open. Once the client has let the connection go with the slot open, the
answer is `TransportClosed` and goes, if at all, to the queue of the closed connection. A
response returns `Ok` and puts nothing; its change is a response move of the connection the client
holds, and with no slot open under its key it changes nothing. The writer takes nothing off the
queue of a closed connection, so an answer put there never reaches the agent. -/
theorem permission_answered_by_first_response {i : Nat} {s₀ : Memory}
    {subscriber : PermissionSubscriber} (kvs : List (String × Json.Value)) (x : RequestId)
    (hcons : s₀.Consistent) (hi : i < s₀.links.size) (hlink : s₀.client.link = some i)
    (hsub : s₀.client.permissionSubscriber = some subscriber) :
    let key := (PermissionRequest.ofParams (.object kvs) (s₀.client.turn.activeSession.getD "unknown")
      (freshToolCallId s₀.client.madeUpIds)).id
    Puts i (Relation.ReflTransGen (SlotMove i)) (· = s₀)
        (do let out ← Client.answerPermission (.object kvs); let _ ← Link.enqueue i (Link.replyTo x out) :
          Act Unit)
        (fun _ put _ => ∃ out c s₁ s sp,
          ({ s₀ with client := { s₀.client with madeUpIds := s₀.client.madeUpIds + 1 } }).openSlot i key =
            (c, s₁) ∧
          SlotAnswer i key c s₁ s out ∧ Relation.ReflTransGen (SlotMove i) s sp ∧
          (put = [Link.replyTo x out] ∧ (sp.link i).outboxOpen = true ∨
            put = [] ∧ (sp.link i).outboxOpen = false) ∧
          ∀ sd, Relation.ReflTransGen (KeepsOpen i key c) s₁ sd → sd.client.link ≠ some i →
            Relation.ReflTransGen (SlotMove i) sd s →
            out = .error .transportClosed ∧ (sp.link i).closed = true) ∧
      (∀ (P : Memory → Prop) (id : String) (r : PermissionResponse),
        Puts i (Relation.ReflTransGen (SlotMove i)) P (Client.respondPermission id r)
          fun out put s' => out = .ok .null ∧ put = [] ∧ ∃ s, P s ∧
            (s.client.link = some i → SlotMove i s s') ∧
            ((∀ j, s.client.link = some j → ∀ e ∈ (s.link j).slots, e.1 ≠ id) → s' = s)) ∧
      ∀ fuel, (Link.writer i fuel).toProgram.Safe (fun _ _ _ => True) (SparesQueue i) := by
  intro key
  -- the slot opens in a sound table, right after the made-up id is taken
  have hs : ({ s₀ with client := { s₀.client with madeUpIds := s₀.client.madeUpIds + 1 } }).SlotsSound i :=
    let h := hcons.slotsSound hi
    ⟨h.linked, h.keys, h.cells, h.live⟩
  refine ⟨(Client.puts_answerTask_permission kvs x hlink hsub).conseq (fun _ h => h) ?_, ?_,
    Link.writer_spares_closed i⟩
  · rintro _ put _ ⟨out, c, s₁, s, sp, hopen, hrun, hready, hread, hput, hsent⟩
    have hc : (key, c) ∈ (s₁.link i).slots := by
      have h := (mem_openSlot hs key (key, c)).2 (.inl (by rw [← fst_openSlot (i := i), hopen]))
      rwa [hopen] at h
    have hs₁ : s₁.SlotsSound i := by
      have h := hs.openSlot key
      rwa [hopen] at h
    refine ⟨out, c, s₁, s, sp, hopen, SlotAnswer.of_cell hs₁ hc hrun hready hread, hput, hsent,
      fun sd hsd hgone hrest => ?_⟩
    obtain ⟨hout, hclosed⟩ := SlotAnswer.disconnected hs₁ hc hsd hgone hrest hready hread
    exact ⟨hout, SlotMove.closed_run hput hclosed⟩
  · intro P id r
    refine (Client.puts_respondPermission id r).conseq (fun _ h => h) ?_
    rintro out put s' ⟨rfl, rfl, s, hP, rfl⟩
    refine ⟨rfl, rfl, s, hP, fun hl => ?_, fun hnone => ?_⟩
    · simp only [hl]
      exact .respond id r hl
    · cases hl : s.client.link with
      | none => rfl
      | some j => simp only [resolveSlot_of_not_mem _ (hnone j hl)]

/-- A client holding a fresh connection, with a subscriber that logs requests, meets the
hypotheses; a request there has a finished run in which a response dismisses it, and every run
puts at most one message. -/
theorem permission_answered_by_first_response_log :
    let s₀ : Memory := { ((Memory.new (Client.new default)).addLink (Connection.fresh 0 1)).2 with
      client := { (Client.new default) with link := some 0, permissionSubscriber := some .log } }
    s₀.Consistent ∧ 0 < s₀.links.size ∧ s₀.client.link = some 0 ∧
      s₀.client.permissionSubscriber = some .log ∧
      ∃ put, Program.Puts 0 (Relation.ReflTransGen (SlotMove 0))
        (Async.toProgram (do
          let out ← Client.answerPermission (.object [("toolCall", .object [("toolCallId", .string "t")])])
          let _ ← Link.enqueue 0 (Link.replyTo (.num 7) out) : Act Unit)) s₀ put ∧
        put.length ≤ 1 := by
  intro s₀
  have hcons : s₀.Consistent := by
    have h := ((Memory.Steady.addLink (Memory.new (Client.new default)) 0 1).1
      (Memory.consistent_new default)).1
    have hframe : Memory.Steady ((Memory.new (Client.new default)).addLink (Connection.fresh 0 1)).2 s₀ :=
      Memory.Steady.of_frame _ rfl rfl rfl
    exact (hframe.1 h).1
  have hi : 0 < s₀.links.size := by decide
  refine ⟨hcons, hi, rfl, rfl, ?_⟩
  -- the response arrives while the request waits, and settles its slot
  refine (fun hrun => ⟨_, hrun, ?_⟩)
    (.look 0 (.update (.look 0 (.look 0 (.update (.look 0 (.update (.update (.wait _ (.single (.respond "t" .cancelled rfl)) (.inl rfl) (.look 0 (.spend _ .refl (.look 0 (.look 0 (.update (.done _)))))))))))))))
  obtain ⟨_, out, _, _, _, _, _, _, _, hsent, _⟩ :=
    (permission_answered_by_first_response _ (.num 7) hcons hi rfl rfl).1.toProgram rfl hrun
  rcases hsent with ⟨h, -⟩ | ⟨h, -⟩ <;> rw [h] <;> simp

end AgentLink
