import AgentLink.Conversation.Update

/-!
# Session updates read member by member

`normalizeUpdate` reads a payload as a derived reader of tagged records does: it splits the tag
off, picks the kind by the tag's position in a list of names, and takes the kind's fields from what
is left, by name or by position. `byHand` reads the same payload member by member, as one would
describe it: the payload is a record tagged `sessionUpdate`, and each kind looks up the members it
needs by name.

A record is an object, whose members are its keys, or an array, whose first item is the tag and
whose other items are the fields in their declared order, no more of them than there are fields; a
plan entry, which has no tag, is an object or an array of its fields. A text block inside a tool
call's content item may give its tag as the index of its kind, `0` for text. The two readings agree
on every value (`normalizeUpdate_eq_byHand`), so an array is read as well as an object
(`normalizeUpdate_planArray`).
-/

namespace AgentLink

open Json

namespace Update

/-! ## Records by hand -/

/-- Whether `v` can hold a record of the fields `names`: an object, or an array of no more items
than fields. -/
def fits (names : List String) : Value → Bool
  | .object _ => true
  | .array vs => decide (vs.length ≤ names.length)
  | _ => false

/-- Member `name` of a record of the fields `names`: an object's member under that key, an
array's item at the position of `name` among the fields. -/
def member (names : List String) (v : Value) (name : String) : Option Value :=
  match v with
  | .object kvs => kvs.lookup name
  | .array vs => vs[names.idxOf name]?
  | _ => none

/-- A record tagged by the member `tag`, with the record its fields are read from: an object's tag
is its member under that key, an array's tag is its first item and its fields follow. -/
def tagged (tag : String) : Value → Option (Value × Value)
  | .object kvs => (kvs.lookup tag).map fun t => (t, .object kvs)
  | .array (t :: rest) => some (t, .array rest)
  | _ => none

/-- A member that must be a string. -/
def textMember : Option Value → Option String
  | some (.string s) => some s
  | _ => none

/-- A member that may be absent, `null` or a string. -/
def optionalText : Option Value → Option (Option String)
  | none | some .null => some none
  | some (.string s) => some (some s)
  | some _ => none

/-- A member that may be absent, `null` or an array. -/
def optionalItems : Option Value → Option (Option (List Value))
  | none | some .null => some none
  | some (.array xs) => some (some xs)
  | some _ => none

/-- A member of any value, with `null` read as absent. -/
def present : Option Value → Option Value
  | some .null => none
  | v => v

/-! ## Updates by hand -/

/-- The text of a text block: a record tagged `type` whose tag is `"text"`, or the index `0` when
`byIndex`, and whose member `text` is a string. -/
def blockTextByHand (byIndex : Bool) (v : Value) : Option String :=
  match tagged "type" v with
  | some (t, body) =>
    if (t = .string "text" ∨ byIndex = true ∧ t = .number (.nat 0)) ∧ fits ["text"] body = true then
      textMember (member ["text"] body "text")
    else none
  | none => none

/-- The text of a content item of a tool call: a record tagged `type` with the tag `"content"`,
whose member `content` is a text block, read with its tag possibly an index. -/
def itemTextByHand (v : Value) : Option String :=
  match tagged "type" v with
  | some (.string "content", body) =>
    if fits ["content"] body then (member ["content"] body "content").bind (blockTextByHand true)
    else none
  | _ => none

/-- The texts of a tool call's content items, joined by newlines; none when no item has one. -/
def toolTextByHand (items : List Value) : Option String :=
  match items.filterMap itemTextByHand with
  | [] => none
  | parts => some ("\n".intercalate parts)

/-- A plan entry: a record whose `content` is a string and whose `status` and `priority` may be
absent, `null` or strings. -/
def entryByHand (v : Value) : Option PlanEntry :=
  let names := ["content", "status", "priority"]
  if fits names v then
    match textMember (member names v "content"), optionalText (member names v "status"),
      optionalText (member names v "priority") with
    | some content, some status, some priority => some { content, status, priority }
    | _, _, _ => none
  else none

/-- A message or thought chunk: the text of its `content`, when that is a text block. -/
def chunkByHand (make : String → Event) (body : Value) : List Event :=
  if fits ["content"] body then
    match member ["content"] body "content" with
    | some c => ((blockTextByHand false c).map make).toList
    | none => []
  else []

/-- A tool call: its string `toolCallId`, its `title` falling back to the id, its `kind` and
`status`, each absent, `null` or a string, and its `rawInput`, `null` read as absent. -/
def toolCallByHand (body : Value) : List Event :=
  let names := ["toolCallId", "title", "kind", "status", "rawInput"]
  let get := member names body
  if fits names body then
    match textMember (get "toolCallId"), optionalText (get "title"), optionalText (get "kind"),
      optionalText (get "status") with
    | some id, some title, some kind, some status =>
      [.toolCall id (title.getD id) kind status (present (get "rawInput"))]
    | _, _, _, _ => []
  else []

/-- A tool call update: its string `toolCallId`, its `status` and `title`, each absent, `null` or
a string, the text of its `content` items when that is absent, `null` or an array, and its
`rawOutput`, `null` read as absent. -/
def toolCallUpdateByHand (body : Value) : List Event :=
  let names := ["toolCallId", "status", "title", "content", "rawOutput"]
  let get := member names body
  if fits names body then
    match textMember (get "toolCallId"), optionalText (get "status"), optionalText (get "title"),
      optionalItems (get "content") with
    | some id, some status, some title, some items =>
      [.toolCallUpdate id status title (items.bind toolTextByHand) (present (get "rawOutput"))]
    | _, _, _, _ => []
  else []

/-- A plan: the well-formed entries of its `entries`, which may be absent or an array. -/
def planByHand (body : Value) : List Event :=
  if fits ["entries"] body then
    match member ["entries"] body "entries" with
    | none => [.plan []]
    | some (.array es) => [.plan (es.filterMap entryByHand)]
    | some _ => []
  else []

/-- The events of an update of kind `t`; none for a kind not listed. -/
def kindByHand (t : String) (body : Value) : List Event :=
  if t = "agent_message_chunk" then chunkByHand .textDelta body
  else if t = "agent_thought_chunk" then chunkByHand .thoughtDelta body
  else if t = "tool_call" then toolCallByHand body
  else if t = "tool_call_update" then toolCallUpdateByHand body
  else if t = "plan" then planByHand body
  else []

/-- The events of an update read by hand: a record tagged `sessionUpdate` with a string tag. -/
def byHand (u : Value) : List Event :=
  match tagged "sessionUpdate" u with
  | some (.string t, body) => kindByHand t body
  | _ => []

/-! ## The two readings agree -/

/-- What is left to read a tagged record's fields from once its tag is split off: an object loses
its members under the tag. -/
def untagged (tag : String) : Value → Value
  | .object kvs => .object (kvs.filter (·.1 != tag))
  | v => v

theorem untag_eq (tag : String) (v : Value) :
    untag tag v = (tagged tag v).map fun p => (p.1, untagged tag p.2) := by
  cases v with
  | object kvs => cases h : kvs.lookup tag <;> simp [untag, tagged, untagged, h]
  | array vs => cases vs <;> rfl
  | _ => rfl

theorem lookup_filter_ne {tag name : String} (h : name ≠ tag) (kvs : List (String × Value)) :
    (kvs.filter (·.1 != tag)).lookup name = kvs.lookup name := by
  induction kvs with
  | nil => rfl
  | cons kv rest ih =>
    obtain ⟨k, v⟩ := kv
    by_cases hk : k = tag
    · subst hk
      have hne : (name == k) = false := beq_false_of_ne h
      rw [List.filter_cons_of_neg (by simp), ih, List.lookup_cons, hne]
    · rw [List.filter_cons_of_pos (by simpa using hk), List.lookup_cons, List.lookup_cons, ih]

theorem map_idxOf {names : List String} (hnd : names.Nodup) (vs : List Value) :
    names.map (fun n => vs[names.idxOf n]?) = (List.range names.length).map (vs[·]?) := by
  apply List.ext_getElem (by simp)
  intro k h₁ h₂
  simp [List.Nodup.idxOf_getElem hnd]

/-- A record's fields, read by name. -/
theorem fields_eq {names : List String} (hnd : names.Nodup) (v : Value) :
    fields names v = if fits names v then some (names.map (member names v)) else none := by
  cases v with
  | object kvs => rfl
  | array vs =>
    have hm : member names (.array vs) = fun n => vs[names.idxOf n]? := rfl
    simp only [fields, fits, decide_eq_true_eq, hm, map_idxOf hnd]
  | _ => rfl

theorem fits_untagged (tag : String) (names : List String) (b : Value) :
    fits names (untagged tag b) = fits names b := by
  cases b <;> rfl

theorem member_untagged {tag name : String} (h : name ≠ tag) (names : List String) (b : Value) :
    member names (untagged tag b) name = member names b name := by
  cases b with
  | object kvs => exact lookup_filter_ne h kvs
  | _ => rfl

/-- The fields left once the tag is split off are the tagged record's members, read by name. -/
theorem fields_untagged {tag : String} {names : List String} (hnd : names.Nodup)
    (htag : tag ∉ names) (b : Value) :
    fields names (untagged tag b) =
      if fits names b then some (names.map (member names b)) else none := by
  rw [fields_eq hnd, fits_untagged,
    List.map_congr_left fun n hn => member_untagged (by rintro rfl; exact htag hn) names b]

theorem needString_eq : needString = textMember := by
  funext v
  rcases v with _ | _ | ⟨⟩ <;> rfl

theorem optString_eq : optString = optionalText := by
  funext v
  rcases v with _ | _ | ⟨⟩ <;> rfl

theorem optValue_eq (v : Option Value) : optValue v = some (present v) := by
  cases v with
  | none => rfl
  | some w => cases w <;> rfl

theorem optList_eq : optList = optionalItems := by
  funext v
  rcases v with _ | _ | ⟨⟩ <;> rfl

/-- A text block read by the position of its tag among the kinds is read by hand; a block read
inside a field may give its tag as an index. -/
theorem blockText_eq (src : Source) (v : Value) :
    blockText src v = blockTextByHand (src == .buffered) v := by
  unfold blockText blockTextByHand
  rw [untag_eq]
  cases htag : tagged "type" v with
  | none => rfl
  | some p =>
    obtain ⟨t, body⟩ := p
    simp only [Option.map_some, Option.bind_eq_bind, Option.bind_some]
    rw [fields_untagged (by decide : ["text"].Nodup) (by decide : "type" ∉ ["text"])]
    cases t with
    | string s =>
      by_cases hs : s = "text"
      · subst hs
        cases fits ["text"] body <;> simp [variant, needString_eq]
      · have hi : ["text"].idxOf s = 1 := List.idxOf_eq_length (by simpa using hs)
        simp only [variant, hi]
        simp [hs]
    | number n =>
      cases src <;> cases n <;> simp [variant]
      rename_i i
      by_cases hi : i = 0
      · cases fits ["text"] body <;> simp [hi, needString_eq]
      · simp [hi]
    | _ => simp [variant]

theorem blockText_direct (v : Value) : blockText .direct v = blockTextByHand false v :=
  blockText_eq .direct v

theorem blockText_buffered (v : Value) : blockText .buffered v = blockTextByHand true v :=
  blockText_eq .buffered v

theorem itemText_eq (v : Value) : itemText v = itemTextByHand v := by
  unfold itemText itemTextByHand
  rw [untag_eq]
  cases htag : tagged "type" v with
  | none => rfl
  | some p =>
    obtain ⟨t, body⟩ := p
    simp only [Option.map_some, Option.bind_eq_bind, Option.bind_some]
    rw [fields_untagged (by decide : ["content"].Nodup) (by decide : "type" ∉ ["content"])]
    cases t with
    | string s =>
      by_cases hs : s = "content"
      · subst hs
        cases hf : fits ["content"] body <;> simp [variant, hf, needValue, blockText_eq]
      · have hi : ["content"].idxOf s = 1 := List.idxOf_eq_length (by simpa using hs)
        simp only [variant, hi]
        simp [hs]
    | number n => cases n <;> simp [variant]
    | _ => simp [variant]

theorem toolText_eq (items : List Value) : toolText items = toolTextByHand items := by
  have hitems : items.filterMap itemText = items.filterMap itemTextByHand := by
    rw [show itemText = itemTextByHand from funext itemText_eq]
  -- both join the same texts; split on them so that each side's match reduces
  cases h : items.filterMap itemTextByHand <;> simp only [toolText, toolTextByHand, hitems, h]

theorem planEntry_eq (v : Value) : planEntry v = entryByHand v := by
  unfold planEntry entryByHand
  dsimp only
  rw [fields_eq (by decide : ["content", "status", "priority"].Nodup)]
  cases fits ["content", "status", "priority"] v
  · rfl
  · simp only [needString_eq, optString_eq, if_true, List.map, Option.bind_eq_bind,
      Option.bind_some, List.getD_cons_zero, List.getD_cons_succ]
    cases textMember (member _ v "content") <;> cases optionalText (member _ v "status") <;>
      cases optionalText (member _ v "priority") <;> rfl

section Kinds

variable {u body : Value}

/-- A message or thought chunk reads as by hand. -/
theorem events_chunk {t : String} {make : String → Event}
    (hk : (t, make) = ("agent_message_chunk", .textDelta) ∨
      (t, make) = ("agent_thought_chunk", .thoughtDelta))
    (h : tagged "sessionUpdate" u = some (.string t, body)) :
    (events u).getD [] = chunkByHand make body := by
  unfold events chunkByHand
  rw [untag_eq, h]
  rcases hk with hk | hk <;> obtain ⟨rfl, rfl⟩ := Prod.mk.inj hk
  -- both chunks read their one field, `content`, the same way
  all_goals
    simp only [Option.map_some, Option.bind_eq_bind, Option.bind_some, variant,
      show kinds.idxOf "agent_message_chunk" = 0 by decide,
      show kinds.idxOf "agent_thought_chunk" = 1 by decide]
    rw [fields_untagged (by decide) (by decide)]
    cases fits ["content"] body
    · rfl
    · simp only [if_true, List.map, Option.bind_some, List.getD_cons_zero, needValue, id]
      cases member ["content"] body "content" <;> simp [blockText_direct]

/-- A tool call reads as by hand. -/
theorem events_toolCall (h : tagged "sessionUpdate" u = some (.string "tool_call", body)) :
    (events u).getD [] = toolCallByHand body := by
  unfold events toolCallByHand
  rw [untag_eq, h]
  simp only [Option.map_some, Option.bind_eq_bind, Option.bind_some, variant,
    show kinds.idxOf "tool_call" = 2 by decide]
  rw [fields_untagged (by decide) (by decide)]
  cases fits ["toolCallId", "title", "kind", "status", "rawInput"] body
  · rfl
  · simp only [if_true, List.map, Option.bind_some, List.getD_cons_zero, List.getD_cons_succ,
      needString_eq, optString_eq, optValue_eq]
    generalize member ["toolCallId", "title", "kind", "status", "rawInput"] body = get
    cases textMember (get "toolCallId") <;> cases optionalText (get "title") <;>
      cases optionalText (get "kind") <;> cases optionalText (get "status") <;> rfl

/-- A tool call update reads as by hand. -/
theorem events_toolCallUpdate
    (h : tagged "sessionUpdate" u = some (.string "tool_call_update", body)) :
    (events u).getD [] = toolCallUpdateByHand body := by
  unfold events toolCallUpdateByHand
  rw [untag_eq, h]
  simp only [Option.map_some, Option.bind_eq_bind, Option.bind_some, variant,
    show kinds.idxOf "tool_call_update" = 3 by decide]
  rw [fields_untagged (by decide) (by decide)]
  cases fits ["toolCallId", "status", "title", "content", "rawOutput"] body
  · rfl
  · simp only [if_true, List.map, Option.bind_some, List.getD_cons_zero, List.getD_cons_succ,
      needString_eq, optString_eq, optValue_eq, optList_eq,
      show toolText = toolTextByHand from funext toolText_eq]
    generalize member ["toolCallId", "status", "title", "content", "rawOutput"] body = get
    cases textMember (get "toolCallId") <;> cases optionalText (get "status") <;>
      cases optionalText (get "title") <;> cases optionalItems (get "content") <;> rfl

/-- A plan reads as by hand. -/
theorem events_plan (h : tagged "sessionUpdate" u = some (.string "plan", body)) :
    (events u).getD [] = planByHand body := by
  unfold events planByHand
  rw [untag_eq, h]
  simp only [Option.map_some, Option.bind_eq_bind, Option.bind_some, variant,
    show kinds.idxOf "plan" = 4 by decide]
  rw [fields_untagged (by decide) (by decide)]
  cases fits ["entries"] body
  · rfl
  · simp only [if_true, List.map, Option.bind_some, List.getD_cons_zero,
      show planEntry = entryByHand from funext planEntry_eq]
    cases member ["entries"] body "entries" with
    | none => rfl
    | some v => cases v <;> rfl

/-- A kind not listed reads as no events. -/
theorem events_other {t : String} (ht : t ∉ kinds)
    (h : tagged "sessionUpdate" u = some (.string t, body)) : (events u).getD [] = [] := by
  unfold events
  rw [untag_eq, h]
  simp only [Option.map_some, Option.bind_eq_bind, Option.bind_some, variant,
    List.idxOf_eq_length ht]
  rfl

end Kinds

end Update

open Update in
/-- Every payload gives the same events read by hand, member by member, as read by the position of
its tag among the kinds. -/
theorem normalizeUpdate_eq_byHand (u : Value) : normalizeUpdate u = byHand u := by
  unfold normalizeUpdate byHand
  cases h : tagged "sessionUpdate" u with
  | none =>
    -- nothing to split the tag off
    simp [events, untag_eq, h]
  | some p =>
    obtain ⟨t, body⟩ := p
    cases t with
    | string s =>
      simp only
      unfold kindByHand
      by_cases h₀ : s = "agent_message_chunk"
      · subst h₀
        exact events_chunk (.inl rfl) h
      by_cases h₁ : s = "agent_thought_chunk"
      · subst h₁
        exact events_chunk (.inr rfl) h
      by_cases h₂ : s = "tool_call"
      · subst h₂
        exact events_toolCall h
      by_cases h₃ : s = "tool_call_update"
      · subst h₃
        exact events_toolCallUpdate h
      by_cases h₄ : s = "plan"
      · subst h₄
        exact events_plan h
      simp only [h₀, h₁, h₂, h₃, h₄, if_false]
      exact events_other (by simp [kinds, h₀, h₁, h₂, h₃, h₄]) h
    | number n =>
      -- a tag read straight from the payload must be a string
      cases n <;> simp [events, untag_eq, h, variant]
    | _ => simp [events, untag_eq, h, variant]

/-- A payload given as an array is read too: `["plan"]` is a plan with no entries, not nothing. -/
theorem normalizeUpdate_planArray : normalizeUpdate (.array [.string "plan"]) = [.plan []] := rfl

end AgentLink
