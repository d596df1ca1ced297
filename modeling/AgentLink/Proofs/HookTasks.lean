import AgentLink.Proofs.LinkTasks
import AgentLink.Bench.Run
import AgentLink.Cli.Run

/-!
# The listeners and responders keep the registry

The reader hands notifications to a listener and requests to a responder. Those the host runs,
the client's and the bench's, touch the registry only through slots: a permission request or a
scripted request answered from a slot opens one, and answering it resolves it. Everything else
they do (routing session updates to the turn's sink, logging what they heard, pausing) leaves
the connections, the cells and the turn's waiters alone.
-/

namespace AgentLink

open Concurrency Async Memory

/-- Routing a session update delivers events to the turn's sink and touches nothing else. -/
theorem Client.tablesKept_routeUpdate (params : Json.Value) (s : Memory) :
    TablesKept s (Client.routeUpdate params s) := by
  unfold Client.routeUpdate
  split
  · -- a stray update is dropped; otherwise its events go to the sink, if there is one
    dsimp only
    repeat' split
    all_goals first
      | exact TablesKept.refl s
      | exact tablesKept_foldl_deliver _ _ s
  · exact TablesKept.refl s

theorem Client.keeps_hear (method : String) (params : Json.Value) :
    Keeps (Client.hear method params) := by
  unfold Client.hear
  split
  · exact Keeps.bind Keeps.spend fun _ => Keeps.frame (Client.tablesKept_routeUpdate _)
  · exact Keeps.pure ()

theorem Client.keeps_respondPermission (id : String) (response : PermissionResponse) :
    Keeps (Client.respondPermission id response) := by
  unfold Client.respondPermission
  dsimp only
  refine Keeps.bind (Keeps.read _) fun c => ?_
  split
  · exact Keeps.bind (Link.keeps_resolveSlot _ _ _) fun _ => Keeps.pure _
  · exact Keeps.pure _

/-- Answering a permission request: it is parked in a slot until the subscriber resolves it. -/
theorem Client.keeps_answerPermission (params : Json.Value) :
    Keeps (Client.answerPermission params) := by
  unfold Client.answerPermission
  dsimp only
  split
  · refine Keeps.bind (Keeps.frameGet fun _ => TablesKept.refl _) fun req =>
      Keeps.bind (Keeps.read _) fun c => ?_
    split
    · exact Keeps.pure _
    · exact Keeps.pure _
    · refine Keeps.bind (Link.keeps_openSlot _ _) fun cell => ?_
      -- after the subscriber is told, the answer is read off the slot's cell
      split
      · refine Keeps.bind (Keeps.frame fun _ => TablesKept.refl _) fun _ =>
          Keeps.bind (Keeps.waitUntil _ _) fun _ => Keeps.bind (Keeps.read _) fun c => ?_
        split <;> exact Keeps.pure _
      · refine Keeps.bind (Keeps.spawn (Keeps.bind (Client.keeps_respondPermission _ _) fun _ =>
          Keeps.pure ())) fun _ =>
            Keeps.bind (Keeps.waitUntil _ _) fun _ => Keeps.bind (Keeps.read _) fun c => ?_
        split <;> exact Keeps.pure _
  · exact Keeps.pure _

theorem keeps_pause (ms : Nat) : Keeps (pause ms) := by
  unfold pause
  exact Keeps.ite (Keeps.bind (Keeps.sleep ms) fun _ => Keeps.spend) (Keeps.pure ())

theorem keeps_logInbound (v : Json.Value) : Keeps (logInbound v) :=
  Keeps.frame fun _ => TablesKept.refl _

/-- The bench's listeners and responders keep the host's guarantees. -/
theorem benchHooks_keep : benchHooks.Keep where
  hear i l method params := by
    cases l with
    | log delay =>
      exact Keeps.bind (keeps_pause delay) fun _ => keeps_logInbound _
    | client => exact Client.keeps_hear method params
  answer i r method params id := by
    cases r with
    | scripted reply delay =>
      refine Keeps.bind (keeps_logInbound _) fun _ => Keeps.bind (keeps_pause delay) fun _ => ?_
      cases reply with
      | result v => exact Keeps.pure _
      | failure f => exact Keeps.pure _
      | slot =>
        refine Keeps.bind (Link.keeps_openSlot i _) fun c => Keeps.bind (Link.keeps_awaitCell c)
          fun cl => ?_
        split <;> exact Keeps.pure _
    | permission => exact Client.keeps_answerPermission params

/-- The client's listener and permission responder keep the host's guarantees. -/
theorem Cli.clientHooks_keep : Cli.clientHooks.Keep where
  hear _ _ method params := Client.keeps_hear method params
  answer _ _ _ params _ := Client.keeps_answerPermission params

end AgentLink
