import Mathlib
import AgentLink.Client.Calls

/-!
# The events a turn's sink receives

Sink `k` sees of the host only what `TurnView` holds: the turn's sink, the active session, and
whether `k`'s receiver is still there. Each change the host makes is one `TurnMove` of that
view: a change that does what its note says (a prompt starts a turn of a session with its sink,
the reader routes a session update, `disconnect` takes the turn's sink away, a session becomes
the active one, a prompt ends its turn with the outcome of its request, `k`'s receiver goes
away), the receiver taking what has been delivered, or a change that leaves the view and the
sink alone. `TurnRun k` chains moves, with the notes of what happened and the events the
receiver took.

Over every such chain sink `k` receives exactly `TurnNote.events` of the notes
(`TurnRun.sink_events`): while `k` is the turn's sink and its receiver is there, the events of
each session update the turn takes, in the order the updates were routed; and at the end of a
turn whose prompt was given sink `k`, one `turnComplete` when the answer is a success carrying a
string `stopReason` and the turn still had its sink. Routing an update and ending a turn do to
the view and the sink what their notes say (`TurnView.routeUpdate`, `TurnView.endTurn`).

A turn takes an update whose params are a record, unless its `sessionId` is a string naming
another session than the active one: an absent or `null` id lets the update through, and so
does an id that is a number or any other value that is not a string.
-/

namespace AgentLink

open Json

namespace Memory

variable (m : Memory)

/-- Delivering an event appends it to a listening sink and touches no other. -/
theorem sink_deliver (k j : Nat) (e : Event) :
    (m.deliver k e).2.sink j =
      if j = k ∧ (m.sink k).listening = true then
        { m.sink k with received := (m.sink k).received ++ [e] }
      else m.sink j := by
  unfold deliver sink
  simp only [Array.getD_eq_getD_getElem?]
  cases hk : m.sinks[k]? with
  | none =>
    -- past the last sink: it reads as the default one, which does not listen
    have hd : (m.sinks[k]?.getD default).listening = false := by rw [hk]; rfl
    rw [hk] at hd
    simp only [Option.getD_none] at hd
    simp [hd]
  | some s =>
    simp only [Option.getD_some]
    by_cases hl : s.listening = true
    · simp only [hl, if_true, Array.set!_eq_setIfInBounds, Array.getElem?_setIfInBounds,
        (Array.getElem?_eq_some_iff.1 hk).1]
      by_cases hj : j = k
      · subst hj; simp
      · simp [hj, Ne.symm hj]
    · simp [hl]

@[simp] theorem client_deliver (k : Nat) (e : Event) : (m.deliver k e).2.client = m.client := by
  unfold deliver
  split
  · split <;> rfl
  · rfl

/-- Taking the events of a sink empties it and leaves it listening as it was. -/
theorem sink_takeEvents (k : Nat) :
    (m.takeEvents k).2.sink k = { m.sink k with received := [] } := by
  unfold takeEvents sink
  simp only [Array.getD_eq_getD_getElem?, Array.getElem?_modify]
  cases m.sinks[k]? <;> rfl

@[simp] theorem client_takeEvents (k : Nat) : (m.takeEvents k).2.client = m.client := rfl

/-- The receiver of sink `k` goes away: whatever is delivered to the sink from now on is
dropped. -/
def dropReceiver (k : Nat) : Memory :=
  { m with sinks := m.sinks.modify k fun s => { s with listening := false } }

theorem sink_dropReceiver (k : Nat) :
    (m.dropReceiver k).sink k = { m.sink k with listening := false } := by
  unfold dropReceiver sink
  simp only [Array.getD_eq_getD_getElem?, Array.getElem?_modify]
  cases m.sinks[k]? <;> rfl

@[simp] theorem client_dropReceiver (k : Nat) : (m.dropReceiver k).client = m.client := rfl

end Memory

/-- Delivering events one after another: a listening sink gets them all in order, one whose
receiver is gone gets none, and every other sink stays as it was. -/
theorem Memory.sink_deliverAll (k j : Nat) :
    ∀ (es : List Event) (m : Memory),
      (es.foldl (fun m e => (m.deliver k e).2) m).sink j =
        if j = k then
          { m.sink k with
            received := (m.sink k).received ++ if (m.sink k).listening then es else [] }
        else m.sink j
  | [], m => by split <;> simp_all
  | e :: es, m => by
    rw [List.foldl_cons, Memory.sink_deliverAll k j es, Memory.sink_deliver, Memory.sink_deliver]
    by_cases hj : j = k
    · subst hj
      by_cases hl : (m.sink j).listening = true <;> simp [hl]
    · simp [hj]

theorem Memory.client_deliverAll (k : Nat) :
    ∀ (es : List Event) (m : Memory), (es.foldl (fun m e => (m.deliver k e).2) m).client = m.client
  | [], _ => rfl
  | e :: es, m => by
    rw [List.foldl_cons, Memory.client_deliverAll k es, Memory.client_deliver]

namespace Client

/-- Whether a turn takes a session update with these params, while `active` is the active
session. -/
def takesUpdate (active : Option String) : Value → Bool
  | .object kvs =>
    match active, kvs.lookup "sessionId" with
    | some s, some (.string incoming) => incoming == s
    -- no active session, no id, or an id that is `null`, a number, a boolean, a list or a
    -- record: it names no other session
    | _, _ => true
  | _ => false

/-- The events a session update stands for. -/
def updateEvents (params : Value) : List Event := normalizeUpdate ((params.get? "update").getD .null)

/-- An update is dropped as stray exactly when the turn does not take it. -/
theorem takesUpdate_object (active : Option String) (kvs : List (String × Value)) :
    takesUpdate active (.object kvs) =
      match active, (Value.object kvs).getStr? "sessionId" with
      | some s, some incoming => incoming == s
      | _, _ => true := by
  simp only [takesUpdate, Value.getStr?, Value.get?]
  cases active with
  | none => cases kvs.lookup "sessionId" <;> rfl
  | some s =>
    cases kvs.lookup "sessionId" with
    | none => rfl
    | some v => cases v <;> rfl

@[simp] theorem client_routeUpdate (params : Value) (m : Memory) :
    (routeUpdate params m).client = m.client := by
  unfold routeUpdate
  split
  · dsimp only
    repeat' split
    all_goals first | rfl | exact Memory.client_deliverAll _ _ _
  · rfl

/-- Routing a session update: the turn's sink gets the update's events when the turn takes it,
and every other sink stays as it was. -/
theorem sink_routeUpdate (params : Value) (m : Memory) (k : Nat) :
    (routeUpdate params m).sink k =
      if m.client.turn.sink = some k ∧ takesUpdate m.client.turn.activeSession params = true then
        { m.sink k with
          received := (m.sink k).received ++
            if (m.sink k).listening then updateEvents params else [] }
      else m.sink k := by
  unfold routeUpdate
  cases params with
  | object kvs =>
    dsimp only
    rw [takesUpdate_object]
    -- a stray update changes nothing; one the turn takes goes to the turn's sink, if any
    have hdeliver : ∀ j, ((normalizeUpdate (((Value.object kvs).get? "update").getD .null)).foldl
        (fun m e => (m.deliver j e).2) m).sink k =
          if some j = some k then
            { m.sink k with received := (m.sink k).received ++
                if (m.sink k).listening then updateEvents (.object kvs) else [] }
          else m.sink k := by
      intro j
      rw [Memory.sink_deliverAll]
      by_cases hj : k = j
      · subst hj; simp [updateEvents]
      · simp [hj, Ne.symm hj]
    cases m.client.turn.activeSession with
    | none =>
      cases hsink : m.client.turn.sink with
      | none => simp
      | some j => simpa using hdeliver j
    | some s =>
      cases (Value.object kvs).getStr? "sessionId" with
      | none =>
        cases hsink : m.client.turn.sink with
        | none => simp
        | some j => simpa using hdeliver j
      | some incoming =>
        by_cases heq : incoming = s
        · subst heq
          cases hsink : m.client.turn.sink with
          | none => simp
          | some j => simpa using hdeliver j
        · simp [heq, Ne.symm heq]
  | _ => simp [takesUpdate]

/-- The turn's last event: the stop reason of a successful answer, when the turn still has
its sink. -/
def closingEvents (installed : Bool) (outcome : Except Failure Value) : List Event :=
  match installed, outcome with
  | true, .ok resp => (resp.getStr? "stopReason").toList.map .turnComplete
  | _, _ => []

/-- Ending the turn adds its last event to the sink it was given. -/
theorem sink_endTurn_self (k : Nat) (outcome : Except Failure Value) (m : Memory) :
    (endTurn k outcome m).2.sink k =
      { m.sink k with
        received := (m.sink k).received ++
          if (m.sink k).listening then closingEvents m.client.turn.sink.isSome outcome
          else [] } := by
  unfold endTurn
  dsimp only
  cases hsink : m.client.turn.sink with
  | none => simp [closingEvents, Memory.sink]
  | some j =>
    cases outcome with
    | error e => simp [closingEvents, Memory.sink]
    | ok resp =>
      cases hr : resp.getStr? "stopReason" with
      | none => simp [closingEvents, hr, Memory.sink]
      | some r =>
        -- the event goes to the memory whose turn is already over; its sinks are those of `m`
        have hsame : ∀ c : Client, ({ m with client := c } : Memory).sink k = m.sink k :=
          fun _ => rfl
        simp only [hr]
        rw [Memory.sink_deliver]
        simp only [hsame]
        by_cases hl : (m.sink k).listening = true
        · simp [closingEvents, hl, hr]
        · rw [if_neg fun h => hl h.2, if_neg hl, List.append_nil]

/-- Ending the turn touches no sink but the one it was given. -/
theorem sink_endTurn_other {j k : Nat} (hjk : j ≠ k) (outcome : Except Failure Value)
    (m : Memory) : (endTurn j outcome m).2.sink k = m.sink k := by
  unfold endTurn
  dsimp only
  split
  · split
    · rw [Memory.sink_deliver, if_neg fun h => hjk h.1.symm]
      rfl
    · rfl
  · rfl

/-- Ending the turn of a prompt given sink `j` adds its last event to sink `j` and touches no
other sink. -/
theorem sink_endTurn (j : Nat) (outcome : Except Failure Value) (m : Memory) (k : Nat) :
    (endTurn j outcome m).2.sink k =
      if j = k then
        { m.sink k with
          received := (m.sink k).received ++
            if (m.sink k).listening then closingEvents m.client.turn.sink.isSome outcome
            else [] }
      else m.sink k := by
  split
  · rename_i hjk
    subst hjk
    exact sink_endTurn_self j outcome m
  · rename_i hjk
    exact sink_endTurn_other hjk outcome m

@[simp] theorem turn_endTurn (k : Nat) (outcome : Except Failure Value) (m : Memory) :
    (endTurn k outcome m).2.client.turn =
      { m.client.turn with sink := none, inProgress := false, waiters := [] } := by
  unfold endTurn
  dsimp only
  split
  · split
    · rw [Memory.client_deliver]
    · rfl
  · rfl

end Client

/-- What happens to the turn's routing, as a sink sees it. -/
inductive TurnNote where
  /-- A prompt starts a turn of `session`, whose events go to sink `sink`. -/
  | start (session : String) (sink : Nat)
  /-- The reader routes a session update with these params. -/
  | update (params : Value)
  /-- `disconnect` takes the turn's sink away. -/
  | disconnect
  /-- Session `id` becomes the active one. -/
  | session (id : String)
  /-- A prompt given sink `sink` ends its turn with this outcome of its request. -/
  | finish (sink : Nat) (outcome : Except Failure Value)
  /-- The sink's receiver goes away. -/
  | drop

/-- What a sink sees of the host: the turn's sink, the active session, and whether the sink's
receiver is still there. -/
structure TurnView where
  sink : Option Nat
  active : Option String
  listening : Bool
  deriving DecidableEq

/-- What sink `k` sees of memory `m`. -/
def TurnView.of (k : Nat) (m : Memory) : TurnView :=
  ⟨m.client.turn.sink, m.client.turn.activeSession, (m.sink k).listening⟩

namespace TurnNote

/-- The view after a note. -/
def next (v : TurnView) : TurnNote → TurnView
  | .start s j => { v with sink := some j, active := some s }
  | .update _ => v
  | .disconnect => { v with sink := none }
  | .session id => { v with active := some id }
  | .finish _ _ => { v with sink := none }
  | .drop => { v with listening := false }

/-- What sink `k` receives at a note, seen from `v`: the events of an update the turn takes
while `k` is the turn's sink, and the last event of a turn whose prompt was given sink `k`;
nothing once its receiver is gone. -/
def delivered (k : Nat) (v : TurnView) : TurnNote → List Event
  | .update params =>
    if v.listening = true ∧ v.sink = some k ∧ Client.takesUpdate v.active params = true then
      Client.updateEvents params
    else []
  | .finish j outcome =>
    if v.listening = true ∧ j = k then Client.closingEvents v.sink.isSome outcome else []
  | _ => []

/-- What sink `k` receives over the notes, seen from `v`. -/
def events (k : Nat) : TurnView → List TurnNote → List Event
  | _, [] => []
  | v, n :: ns => delivered k v n ++ events k (next v n) ns

/-- The view after the notes. -/
def after (v : TurnView) (ns : List TurnNote) : TurnView := ns.foldl next v

theorem events_append (k : Nat) :
    ∀ (v : TurnView) (ns ns' : List TurnNote),
      events k v (ns ++ ns') = events k v ns ++ events k (after v ns) ns'
  | _, [], _ => rfl
  | v, n :: ns, ns' => by
    simp only [List.cons_append, events, events_append k (next v n) ns ns', after,
      List.foldl_cons, List.append_assoc]

theorem after_append (v : TurnView) (ns ns' : List TurnNote) :
    after v (ns ++ ns') = after (after v ns) ns' := List.foldl_append ..

end TurnNote

namespace TurnView

variable {k : Nat}

/-- Routing a session update leaves the view alone and adds to sink `k` what its note
delivers. -/
theorem routeUpdate (params : Value) (m : Memory) :
    TurnView.of k (Client.routeUpdate params m) = TurnView.of k m ∧
      ((Client.routeUpdate params m).sink k).received =
        (m.sink k).received ++ TurnNote.delivered k (TurnView.of k m) (.update params) := by
  have hk := Client.sink_routeUpdate params m k
  constructor
  · simp only [TurnView.of, Client.client_routeUpdate, hk]
    split <;> rfl
  · simp only [TurnNote.delivered, TurnView.of, hk]
    by_cases hsk : m.client.turn.sink = some k <;>
      by_cases ht : Client.takesUpdate m.client.turn.activeSession params = true <;>
      by_cases hl : (m.sink k).listening = true <;> simp [hsk, ht, hl]

/-- Ending the turn of a prompt given sink `j` takes the turn's sink away and adds to sink `k`
what its note delivers. -/
theorem endTurn (j : Nat) (outcome : Except Failure Value) (m : Memory) :
    TurnView.of k (Client.endTurn j outcome m).2 = { TurnView.of k m with sink := none } ∧
      ((Client.endTurn j outcome m).2.sink k).received =
        (m.sink k).received ++ TurnNote.delivered k (TurnView.of k m) (.finish j outcome) := by
  have hk := Client.sink_endTurn j outcome m k
  constructor
  · simp only [TurnView.of, Client.turn_endTurn, hk]
    split <;> rfl
  · simp only [TurnNote.delivered, TurnView.of, hk]
    by_cases hjk : j = k <;> by_cases hl : (m.sink k).listening = true <;> simp [hjk, hl]

end TurnView

/-- One change of the host as sink `k` sees it, with its notes and the events the receiver
took. -/
inductive TurnMove (k : Nat) : Memory → List TurnNote → List Event → Memory → Prop
  /-- A prompt starts a turn of `session` whose events go to sink `j`. -/
  | start (session : String) (j : Nat) {m m' : Memory}
      (hview : TurnView.of k m' = TurnNote.next (TurnView.of k m) (.start session j))
      (hsink : (m'.sink k).received = (m.sink k).received) :
      TurnMove k m [.start session j] [] m'
  /-- The reader routes a session update with these params. -/
  | update (params : Value) (m : Memory) :
      TurnMove k m [.update params] [] (Client.routeUpdate params m)
  /-- `disconnect` takes the turn's sink away. -/
  | disconnect {m m' : Memory}
      (hview : TurnView.of k m' = TurnNote.next (TurnView.of k m) .disconnect)
      (hsink : (m'.sink k).received = (m.sink k).received) :
      TurnMove k m [.disconnect] [] m'
  /-- Session `id` becomes the active one. -/
  | session (id : String) {m m' : Memory}
      (hview : TurnView.of k m' = TurnNote.next (TurnView.of k m) (.session id))
      (hsink : (m'.sink k).received = (m.sink k).received) :
      TurnMove k m [.session id] [] m'
  /-- A prompt given sink `j` ends its turn with this outcome of its request. -/
  | finish (j : Nat) (outcome : Except Failure Value) (m : Memory) :
      TurnMove k m [.finish j outcome] [] (Client.endTurn j outcome m).2
  /-- The receiver of sink `k` goes away. -/
  | drop {m m' : Memory} (hview : TurnView.of k m' = TurnNote.next (TurnView.of k m) .drop)
      (hsink : (m'.sink k).received = (m.sink k).received) :
      TurnMove k m [.drop] [] m'
  /-- The receiver takes what has been delivered. -/
  | take {m m' : Memory} (hview : TurnView.of k m' = TurnView.of k m)
      (hsink : (m'.sink k).received = []) : TurnMove k m [] (m.sink k).received m'
  /-- A change that leaves the view and the sink alone. -/
  | quiet {m m' : Memory} (hview : TurnView.of k m' = TurnView.of k m)
      (hsink : (m'.sink k).received = (m.sink k).received) : TurnMove k m [] [] m'

/-- One move of sink `k`'s view, whatever its notes and whatever the receiver took. -/
def TurnChange (k : Nat) (m m' : Memory) : Prop := ∃ notes taken, TurnMove k m notes taken m'

/-- Moves chained, with their notes and the events the receiver took, in order. -/
inductive TurnRun (k : Nat) : Memory → List TurnNote → List Event → Memory → Prop
  | done (m : Memory) : TurnRun k m [] [] m
  | move {m m₁ m' : Memory} {n ns : List TurnNote} {t ts : List Event} :
      TurnMove k m n t m₁ → TurnRun k m₁ ns ts m' → TurnRun k m (n ++ ns) (t ++ ts) m'

namespace TurnMove

variable {k : Nat} {m m' : Memory}

/-- A move adds to the sink what its notes deliver, past what the receiver took, and moves the
view as its notes say. -/
theorem sink_events {n : List TurnNote} {t : List Event} (h : TurnMove k m n t m') :
    t ++ (m'.sink k).received = (m.sink k).received ++ TurnNote.events k (TurnView.of k m) n ∧
      TurnView.of k m' = TurnNote.after (TurnView.of k m) n := by
  cases h with
  | start session j hview hsink => simp [TurnNote.events, TurnNote.after, TurnNote.delivered, hview, hsink]
  | update params m =>
    obtain ⟨hview, hsink⟩ := TurnView.routeUpdate (k := k) params m
    simp [TurnNote.events, TurnNote.after, TurnNote.next, hview, hsink]
  | disconnect hview hsink => simp [TurnNote.events, TurnNote.after, TurnNote.delivered, hview, hsink]
  | session id hview hsink => simp [TurnNote.events, TurnNote.after, TurnNote.delivered, hview, hsink]
  | finish j outcome m =>
    obtain ⟨hview, hsink⟩ := TurnView.endTurn (k := k) j outcome m
    simp [TurnNote.events, TurnNote.after, TurnNote.next, hview, hsink]
  | drop hview hsink => simp [TurnNote.events, TurnNote.after, TurnNote.delivered, hview, hsink]
  | take hview hsink => simp [TurnNote.events, TurnNote.after, hview, hsink]
  | quiet hview hsink => simp [TurnNote.events, TurnNote.after, hview, hsink]

/-- A change that leaves the turn's sink, the active session and the sinks alone is quiet. -/
theorem of_routing (hsink : m'.client.turn.sink = m.client.turn.sink)
    (hactive : m'.client.turn.activeSession = m.client.turn.activeSession)
    (hsinks : m'.sinks = m.sinks) : TurnMove k m [] [] m' :=
  .quiet (by simp [TurnView.of, Memory.sink, hsink, hactive, hsinks]) (by simp [Memory.sink, hsinks])

/-- The receiver taking the events of sink `k`. -/
theorem takeEvents (m : Memory) : TurnMove k m [] (m.sink k).received (m.takeEvents k).2 :=
  .take (by simp [TurnView.of, Memory.sink_takeEvents]) (by simp [Memory.sink_takeEvents])

/-- The receiver of sink `k` going away. -/
theorem dropReceiver (m : Memory) : TurnMove k m [.drop] [] (m.dropReceiver k) :=
  .drop (by simp [TurnView.of, TurnNote.next, Memory.sink_dropReceiver])
    (by simp [Memory.sink_dropReceiver])

end TurnMove

namespace TurnRun

variable {k : Nat}

/-- Over a chain of moves sink `k` receives exactly the events of the notes, past what the
receiver took, and the view moves as the notes say. -/
theorem sink_events {m m' : Memory} {notes : List TurnNote} {taken : List Event}
    (h : TurnRun k m notes taken m') :
    taken ++ (m'.sink k).received =
        (m.sink k).received ++ TurnNote.events k (TurnView.of k m) notes ∧
      TurnView.of k m' = TurnNote.after (TurnView.of k m) notes := by
  induction h with
  | done m => simp [TurnNote.events, TurnNote.after]
  | @move m m₁ m' n ns t ts hmove _ ih =>
    obtain ⟨hev, hview⟩ := hmove.sink_events
    obtain ⟨hev', hview'⟩ := ih
    refine ⟨?_, by rw [hview', hview, TurnNote.after_append]⟩
    calc (t ++ ts) ++ (m'.sink k).received
        = t ++ ((m₁.sink k).received ++ TurnNote.events k (TurnView.of k m₁) ns) := by
          rw [List.append_assoc, hev']
      _ = ((m.sink k).received ++ TurnNote.events k (TurnView.of k m) n) ++
            TurnNote.events k (TurnView.of k m₁) ns := by
          rw [← List.append_assoc, hev]
      _ = (m.sink k).received ++ TurnNote.events k (TurnView.of k m) (n ++ ns) := by
          rw [TurnNote.events_append, ← hview, List.append_assoc]

/-- A chain of changes each of which is a move is a run of moves. -/
theorem of_chain {m m' : Memory} (h : Relation.ReflTransGen (TurnChange k) m m') :
    ∃ notes taken, TurnRun k m notes taken m' := by
  induction h using Relation.ReflTransGen.head_induction_on with
  | refl => exact ⟨[], [], .done _⟩
  | head hstep _ ih =>
    obtain ⟨n, t, hmove⟩ := hstep
    obtain ⟨notes, taken, hrun⟩ := ih
    exact ⟨n ++ notes, t ++ taken, .move hmove hrun⟩

end TurnRun

/-- A host in the middle of a turn of session `sess-1`, whose sink is sink 0 and listens. -/
def Memory.midTurn : Memory :=
  { Memory.new { Client.new default with turn := ⟨some "sess-1", some 0, true, []⟩ } with
    sinks := #[⟨true, [], true⟩] }

/-- The params of a session update with a text chunk, whose `sessionId` is the number 5. -/
def numericSessionUpdate : Value :=
  .object [("sessionId", .number (.nat 5)),
    ("update", .object [("sessionUpdate", .string "agent_message_chunk"),
      ("content", .object [("type", .string "text"), ("text", .string "x")])])]

/-- A session update whose `sessionId` is the number 5, not a string naming the session, reaches
the running turn of session `sess-1`. -/
theorem routeUpdate_numeric_sessionId :
    ((Client.routeUpdate numericSessionUpdate Memory.midTurn).sink 0).received =
      [.textDelta "x"] := by
  rfl

end AgentLink
