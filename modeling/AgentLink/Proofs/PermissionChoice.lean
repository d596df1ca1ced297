import Mathlib
import AgentLink.Permission

/-!
# Reading and deciding a permission request

A permission request read from any params takes its options from the objects among
`params.options`, in order, numbered from 1 for the fallbacks `option-N`, `Option N` and
`allow_once` (`readOptions_eq_mapIdx`). Its id is the tool call's string `toolCallId` or, when
there is none, `tool-` and a made-up version 4 UUID (`freshToolCallId_uuid`). A policy then
chooses: `cancel` dismisses, `firstOption` takes the first option, `allowOnce` the first option
of kind `allow_once`, which an option without a string kind has (`decide_allowOnce_of_first`).
`permission_request_decided` puts it together, with the answer sent back for each decision.
-/

namespace AgentLink

open Json

/-! ## Version 4 UUID text -/

/-- A lowercase hexadecimal digit. -/
def isLowerHex (c : Char) : Bool := ('0' ≤ c && c ≤ '9') || ('a' ≤ c && c ≤ 'f')

/-- The hyphenated lowercase text of a version 4 UUID: 32 hexadecimal digits in groups of 8, 4,
4, 4 and 12, the third group led by the version digit `4` and the fourth by a variant digit
`8`, `9`, `a` or `b`. -/
def IsUuidV4 (u : String) : Prop :=
  ∃ (g₁ g₂ g₃ g₄ g₅ : List Char) (variant : Char),
    u.toList = g₁ ++ ['-'] ++ g₂ ++ ['-', '4'] ++ g₃ ++ ['-', variant] ++ g₄ ++ ['-'] ++ g₅ ∧
    g₁.length = 8 ∧ g₂.length = 4 ∧ g₃.length = 3 ∧ g₄.length = 3 ∧ g₅.length = 12 ∧
    variant ∈ ['8', '9', 'a', 'b'] ∧ ∀ c ∈ g₁ ++ g₂ ++ g₃ ++ g₄ ++ g₅, isLowerHex c = true

theorem isLowerHex_digitChar {d : Nat} (h : d < 16) : isLowerHex d.digitChar = true := by
  interval_cases d <;> rfl

/-- Every digit of a number written in base 16 is a lowercase hexadecimal digit. -/
theorem isLowerHex_of_mem_toDigits {c : Char} : ∀ {n : Nat}, c ∈ Nat.toDigits 16 n →
    isLowerHex c = true := by
  intro n
  induction n using Nat.strong_induction_on with
  | _ n ih =>
    intro hc
    rw [Nat.toDigits_eq_if (by decide)] at hc
    split at hc
    · rw [List.mem_singleton.1 hc]
      exact isLowerHex_digitChar ‹_›
    · -- the leading digits are those of `n / 16`, the last one is `n % 16`
      rcases List.mem_append.1 hc with hlead | hlast
      · exact ih (n / 16) (by omega) hlead
      · rw [List.mem_singleton.1 hlast]
        exact isLowerHex_digitChar (Nat.mod_lt _ (by decide))

/-- Below `16 ^ 12`, a number padded to twelve hexadecimal digits takes exactly twelve. -/
theorem hexPadded_twelve {n : Nat} (h : n < 16 ^ 12) :
    (hexPadded n 12).toList.length = 12 ∧ ∀ c ∈ (hexPadded n 12).toList, isLowerHex c = true := by
  have hlen : (Nat.toDigits 16 n).length ≤ 12 := (Nat.length_toDigits_le_iff (by decide) (by decide)).2 h
  unfold hexPadded
  rw [String.toList_ofList]
  refine ⟨by simp only [List.length_append, List.length_replicate]; omega, fun c hc => ?_⟩
  rcases List.mem_append.1 hc with hpad | hdigit
  · rw [List.eq_of_mem_replicate hpad]
    rfl
  · exact isLowerHex_of_mem_toDigits hdigit

/-- The tool call ids made up for the first `2 ^ 48` requests are `tool-` and a version 4 UUID. -/
theorem freshToolCallId_uuid {n : Nat} (h : n < 281474976710656) :
    ∃ u, freshToolCallId n = "tool-" ++ u ∧ IsUuidV4 u := by
  obtain ⟨hlen, hhex⟩ := hexPadded_twelve (n := n) (by norm_num; omega)
  refine ⟨"00000000-0000-4000-8000-" ++ hexPadded n 12, ?_, ?_⟩
  · unfold freshToolCallId
    rw [← String.append_assoc]
    rfl
  · refine ⟨List.replicate 8 '0', List.replicate 4 '0', List.replicate 3 '0', List.replicate 3 '0',
      (hexPadded n 12).toList, '8', ?_, rfl, rfl, rfl, rfl, hlen, by simp, ?_⟩
    · rw [String.toList_append]
      simp
    · intro c hc
      rw [List.mem_append] at hc
      rcases hc with hzero | hdigit
      · -- the fixed groups are zeros
        have hc : c = '0' := by simpa [List.mem_replicate] using hzero
        rw [hc]
        rfl
      · exact hhex c hdigit

/-! ## Options -/

/-- Whether a value is an object. -/
def Json.Value.isObject : Value → Bool
  | .object _ => true
  | _ => false

/-- The options are the objects among the raw entries, in order, the `i`-th (from 1) falling
back to `option-i`, `Option i` and `allow_once` for a field that is no string. -/
theorem readOptions_eq_mapIdx (raw : List Value) :
    readOptions raw = (raw.filter Value.isObject).mapIdx fun i o =>
      { optionId := (o.getStr? "optionId").getD ("option-" ++ toString (i + 1))
        name := (o.getStr? "name").getD ("Option " ++ toString (i + 1))
        kind := (o.getStr? "kind").getD defaultOptionKind } := by
  unfold readOptions
  -- the model's filter is `isObject`, written as a match
  show List.map _ ((List.range (raw.filter Value.isObject).length).zip (raw.filter Value.isObject)) = _
  apply List.ext_getElem
  · simp
  · intro i h₁ h₂
    simp [stringAt]

/-- Without a string `toolCallId` in a tool call object, the request takes the made-up id. -/
theorem ofParams_id_of_none {params : Value} {fallback freshId : String}
    (hnone : ∀ kvs, params.get? "toolCall" = some (.object kvs) →
      (Value.object kvs).getStr? "toolCallId" = none) :
    (PermissionRequest.ofParams params fallback freshId).id = freshId := by
  unfold PermissionRequest.ofParams
  split
  · rename_i kvs h
    simp [stringAt, hnone kvs h]
  · rfl

/-! ## Decisions -/

/-- `allowOnce` chooses the first option of kind `allow_once`. -/
theorem decide_allowOnce_of_first (r : PermissionRequest) {j : Nat} (hj : j < r.options.length)
    (hkind : r.options[j].kind = defaultOptionKind)
    (hbefore : ∀ i (hi : i < j), r.options[i].kind ≠ defaultOptionKind) :
    PermissionPolicy.allowOnce.decide r = .selected r.options[j].optionId := by
  have hfind : r.options.find? (fun o => o.kind == defaultOptionKind) = some r.options[j] :=
    List.find?_eq_some_iff_getElem.2
      ⟨by simpa using hkind, j, hj, rfl, fun i hi => by simpa using hbefore i hi⟩
  simp [PermissionPolicy.decide, hfind]

/-- With no option of kind `allow_once`, `allowOnce` dismisses the request. -/
theorem decide_allowOnce_of_none (r : PermissionRequest)
    (hnone : ∀ o ∈ r.options, o.kind ≠ defaultOptionKind) :
    PermissionPolicy.allowOnce.decide r = .cancelled := by
  have hfind : r.options.find? (fun o => o.kind == defaultOptionKind) = none :=
    List.find?_eq_none.2 fun o ho => by simpa using hnone o ho
  simp [PermissionPolicy.decide, hfind]

/-- `firstOption` chooses the first option, and dismisses a request that offers none. -/
theorem decide_firstOption (r : PermissionRequest) :
    PermissionPolicy.firstOption.decide r =
      match r.options with
      | [] => .cancelled
      | o :: _ => .selected o.optionId := by
  unfold PermissionPolicy.decide
  cases r.options <;> rfl

/-- The answer to a chosen option names it under `optionId`. -/
theorem outcome_selected (id : String) :
    (PermissionResponse.selected id).outcome =
      .object [("outcome", .object [("optionId", .string id), ("outcome", .string "selected")])] := by
  simp only [PermissionResponse.outcome, Value.obj, Value.sortFields, List.mergeSort_singleton]
  rw [List.mergeSort.eq_3]
  simp [List.MergeSort.Internal.splitInTwo, Value.keyBefore, Value.charsBefore, Value.keepLast]

/-- A permission request read from any params, with the `n`-th made-up tool call id, and
decided by any policy. Its options are the objects of `params.options` (none when that is no
array), in order, the `i`-th (from 1) taking its `optionId`, `name` and `kind` where they are
strings and `option-i`, `Option i` and `allow_once` where not. Its id is its tool call id: the
string `toolCallId` of the tool call when that is an object holding one, else, for the first
`2 ^ 48` made-up ids, `tool-` and a version 4 UUID. Its session is the params' string
`sessionId`, else the fallback. `cancel` dismisses it; `firstOption` chooses the first option,
or dismisses when there is none; `allowOnce` chooses the first option of kind `allow_once`, so
also one without a string kind, or dismisses when there is none. A dismissal is answered
`{"outcome": {"outcome": "cancelled"}}` and a choice `{"outcome": {"optionId": id, "outcome":
"selected"}}`. -/
theorem permission_request_decided (params : Value) (fallback : String) (n : Nat) :
    let q := PermissionRequest.ofParams params fallback (freshToolCallId n)
    (∀ raw, params.get? "options" = some (.array raw) →
      q.options = (raw.filter Value.isObject).mapIdx fun i o =>
        { optionId := (o.getStr? "optionId").getD ("option-" ++ toString (i + 1))
          name := (o.getStr? "name").getD ("Option " ++ toString (i + 1))
          kind := (o.getStr? "kind").getD "allow_once" }) ∧
    ((∀ raw, params.get? "options" ≠ some (.array raw)) → q.options = []) ∧
    q.id = q.toolCallId ∧
    (∀ kvs s, params.get? "toolCall" = some (.object kvs) →
      (Value.object kvs).getStr? "toolCallId" = some s → q.id = s) ∧
    ((∀ kvs, params.get? "toolCall" = some (.object kvs) →
        (Value.object kvs).getStr? "toolCallId" = none) →
      n < 281474976710656 → ∃ u, q.id = "tool-" ++ u ∧ IsUuidV4 u) ∧
    q.sessionId = (params.getStr? "sessionId").getD fallback ∧
    PermissionPolicy.cancel.decide q = .cancelled ∧
    (∀ o rest, q.options = o :: rest →
      PermissionPolicy.firstOption.decide q = .selected o.optionId) ∧
    (q.options = [] → PermissionPolicy.firstOption.decide q = .cancelled) ∧
    (∀ j (hj : j < q.options.length), q.options[j].kind = "allow_once" →
      (∀ i (hi : i < j), q.options[i].kind ≠ "allow_once") →
      PermissionPolicy.allowOnce.decide q = .selected q.options[j].optionId) ∧
    ((∀ o ∈ q.options, o.kind ≠ "allow_once") →
      PermissionPolicy.allowOnce.decide q = .cancelled) ∧
    PermissionResponse.cancelled.outcome =
      .object [("outcome", .object [("outcome", .string "cancelled")])] ∧
    ∀ id, (PermissionResponse.selected id).outcome =
      .object [("outcome", .object [("optionId", .string id), ("outcome", .string "selected")])] := by
  intro q
  refine ⟨?array, ?noArray, rfl, ?given, ?madeUp, rfl, rfl, ?first, ?firstNone, ?allow, ?allowNone,
    rfl, outcome_selected⟩
  case array =>
    intro raw h
    simp only [q, PermissionRequest.ofParams, h]
    exact readOptions_eq_mapIdx raw
  case noArray =>
    -- the options are read only from an array: `h` discharges the match's fallback case
    intro h
    simp only [q, PermissionRequest.ofParams]
  case given =>
    intro kvs s htool hid
    simp [q, PermissionRequest.ofParams, htool, stringAt, hid]
  case madeUp =>
    intro hnone hn
    rw [show q.id = freshToolCallId n from ofParams_id_of_none hnone]
    exact freshToolCallId_uuid hn
  case first =>
    intro o rest h
    rw [decide_firstOption, h]
  case firstNone =>
    intro h
    rw [decide_firstOption, h]
  case allow =>
    intro j hj hkind hbefore
    exact decide_allowOnce_of_first q hj hkind hbefore
  case allowNone =>
    intro hnone
    exact decide_allowOnce_of_none q hnone

end AgentLink
