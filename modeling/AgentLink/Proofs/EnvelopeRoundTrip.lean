import Mathlib
import AgentLink.Proofs.RecordReads
import AgentLink.Proofs.LineFraming
import AgentLink.Proofs.Utf8RoundTrip

/-!
# Envelopes round-trip through the line protocol

An envelope is written as its compact JSON text and a newline, in UTF-8. Read back, it is the
same envelope up to `Message.normalize`: a `null` given for `params`, `result` or the error's
`data` reads as absent, since the reader does not tell a present `null` from a missing member.
Everything else survives: numeric and string ids, strings with any characters, integers over the
whole 64-bit ranges. The side conditions are those of `Message.encodable`: what the wire's types
can hold, no floats, nesting under the reader's limit, and a line that fits.

The proof goes through the text: `Message.parse_render` reads the text back member by member,
`Message.line_bytes` shows the line has no newline before its end, and `decode_lines` shows a
stream of such lines decodes to their frames however it is cut into reads.
-/

namespace AgentLink

open Json Json.Scan

/-- A value the wire carries whole at a place where `levels` nesting levels are left: of the
wire's type, without floats, and nesting less than `levels` deep. -/
def Json.Value.carries (levels : Nat) (v : Json.Value) : Bool :=
  v.isWire && !v.hasFloat && decide (v.depth < levels)

theorem Json.Value.carries_iff {levels : Nat} {v : Json.Value} :
    v.carries levels = true ↔ v.isWire = true ∧ v.hasFloat = false ∧ v.depth < levels := by
  simp [Json.Value.carries, and_assoc]

namespace Message

open TextRead

/-- An envelope that the line protocol carries whole: its id a number below `2^64` or a string,
its error code a signed 64-bit integer, its values of the wire's type without floats, the
envelope nesting less than 128 levels deep (it is an object itself, so its params and result
nest less than 127 levels and its error's data less than 126), and its text at most `maxLine`
bytes. -/
def encodable (m : Message) : Bool :=
  m.id.all (fun i => i.toValue.isWire) && m.params.all (Json.Value.carries 127) &&
    m.result.all (Json.Value.carries 127) &&
    m.error.all (fun e => decide (-(Nat.pow 2 63 : Int) ≤ e.code ∧ e.code < (Nat.pow 2 63 : Int)) &&
      e.data.all (Json.Value.carries 126)) &&
    decide ((utf8Encode m.render).length ≤ maxLine)

/-- The envelope as it reads back: a present `null` among `params`, `result` and the error's
`data` is absent. -/
def normalize (m : Message) : Message :=
  { m with params := dropNull m.params, result := dropNull m.result,
           error := m.error.map fun e => { e with data := dropNull e.data } }

/-- The text of an error object as the writer puts it in an envelope. -/
def errorText (e : RpcError) : String :=
  "\x7b\"code\":" ++ toString e.code ++ ",\"message\":" ++ quoteString e.message ++
    (match e.data with
      | some d => ",\"data\":" ++ d.render
      | none => "") ++ "\x7d"

/-- The members of an error object as written, each with what reading it back sets. -/
def errorFields (e : RpcError) : List (TextRead.Entry RpcError) :=
  [⟨"code", toString e.code, fun x => { x with code := e.code }⟩,
   ⟨"message", quoteString e.message, fun x => { x with message := e.message }⟩] ++
  (e.data.map fun d => ⟨"data", d.render, fun x => { x with data := dropNull (some d) }⟩).toList

/-- The members of an envelope as written, each with what reading it back sets. -/
def fields (m : Message) : List (TextRead.Entry Message) :=
  (m.jsonrpc.map fun s => ⟨"jsonrpc", quoteString s, fun x => { x with jsonrpc := some s }⟩).toList ++
  (m.id.map fun i => ⟨"id", i.toValue.render, fun x => { x with id := some i }⟩).toList ++
  (m.method.map fun s => ⟨"method", quoteString s, fun x => { x with method := some s }⟩).toList ++
  (m.params.map fun v => ⟨"params", v.render, fun x => { x with params := dropNull (some v) }⟩).toList ++
  (m.result.map fun v => ⟨"result", v.render, fun x => { x with result := dropNull (some v) }⟩).toList ++
  (m.error.map fun e =>
    ⟨"error", errorText e, fun x => { x with error := some { e with data := dropNull e.data } }⟩).toList

theorem encodable_spec {m : Message} (hm : m.encodable = true) :
    (∀ i, m.id = some i → i.toValue.isWire = true) ∧
    (∀ v, m.params = some v → v.carries 127 = true) ∧
    (∀ v, m.result = some v → v.carries 127 = true) ∧
    (∀ e, m.error = some e → (-(Nat.pow 2 63 : Int) ≤ e.code ∧ e.code < (Nat.pow 2 63 : Int)) ∧
      ∀ d, e.data = some d → d.carries 126 = true) ∧
    (utf8Encode m.render).length ≤ maxLine := by
  simpa [encodable, Bool.and_eq_true, Option.all_eq_true, and_assoc] using hm

theorem errorText_toList (e : RpcError) :
    (errorText e).toList =
      '{' :: [','].intercalate ((errorFields e).map TextRead.Entry.chars) ++ ['}'] := by
  have hcode : (quoteString "code").toList = ['"', 'c', 'o', 'd', 'e', '"'] := by decide
  have hmsg : (quoteString "message").toList = ['"', 'm', 'e', 's', 's', 'a', 'g', 'e', '"'] := by
    decide
  have hdata : (quoteString "data").toList = ['"', 'd', 'a', 't', 'a', '"'] := by decide
  rcases e with ⟨code, message, _ | d⟩ <;>
    simp [errorText, errorFields, TextRead.Entry.chars, String.toList_append, hcode, hmsg, hdata]

theorem foldl_errorFields (e : RpcError) :
    (errorFields e).foldl (fun x f => f.set x) ⟨0, "", none⟩ = { e with data := dropNull e.data } := by
  rcases e with ⟨code, message, _ | d⟩ <;> rfl

theorem members_eq (m : Message) : m.members = m.fields.map fun f => (f.key, f.text) := by
  rcases m with ⟨_ | j, _ | i, _ | me, _ | p, _ | r, _ | e⟩ <;> rfl

theorem render_toList (m : Message) :
    m.render.toList = '{' :: [','].intercalate (m.fields.map TextRead.Entry.chars) ++ ['}'] := by
  simp [Message.render, members_eq, String.toList_append, Function.comp_def]
  rfl

theorem key_sublist {α : Type} (o : Option α) (k : String) (t : α → String)
    (u : α → Message → Message) :
    List.Sublist
      ((o.map fun a => (⟨k, t a, u a⟩ : TextRead.Entry Message)).toList.map TextRead.Entry.key)
      [k] := by
  cases o <;> simp

/-- Each member is written once, in the order of the envelope's members. -/
theorem keys_nodup (m : Message) : (m.fields.map TextRead.Entry.key).Nodup := by
  have hsub : List.Sublist (m.fields.map TextRead.Entry.key)
      (["jsonrpc"] ++ ["id"] ++ ["method"] ++ ["params"] ++ ["result"] ++ ["error"]) := by
    simp only [fields, List.map_append]
    exact ((((((key_sublist _ _ _ _).append (key_sublist _ _ _ _)).append
      (key_sublist _ _ _ _)).append (key_sublist _ _ _ _)).append (key_sublist _ _ _ _)).append
      (key_sublist _ _ _ _))
  exact List.Nodup.sublist hsub (by decide)

theorem optional_text (s : String) (r : List Char) :
    (optional text).Reads ((quoteString s).toList ++ r) r (some s) := by
  have h := text_reads s r
  rw [quoteString_toList, List.cons_append] at h ⊢
  exact optional_some (by simp [IsSpace]) (by decide) h

theorem optional_requestId (i : RequestId) (hi : i.toValue.isWire = true) {fuel depth : Nat}
    (hd : 0 < depth) {r : List Char} (hfuel : (Json.Value.render i.toValue).toList.length < fuel)
    (hr : EndsNumber r) :
    (optional (requestId fuel depth)).Reads ((Json.Value.render i.toValue).toList ++ r) r (some i) := by
  have h := requestId_reads i hi hd hfuel hr
  obtain ⟨c, cs, hcs, hsp, -, -, hnull⟩ := render_head (v := i.toValue) (by cases i <;> rfl)
  rw [hcs, List.cons_append] at h ⊢
  exact optional_some hsp (fun hn => by cases i <;> cases hnull hn) h

theorem errorFields_readsIn {e : RpcError}
    (hcode : -(Nat.pow 2 63 : Int) ≤ e.code ∧ e.code < (Nat.pow 2 63 : Int))
    (hdata : ∀ d, e.data = some d → d.carries 126 = true) :
    ∀ f ∈ errorFields e, f.ReadsIn rpcErrorMembers 126 := by
  intro f hf
  simp only [errorFields, List.cons_append, List.nil_append, List.mem_cons, Option.mem_toList,
    Option.map_eq_some_iff] at hf
  rcases hf with rfl | rfl | ⟨d, hd, rfl⟩
  · exact ⟨_, rfl, fun _ _ r _ hr => (int64_reads hcode.1 hcode.2 hr).bind (Reads.pure _ _)⟩
  · exact ⟨_, rfl, fun _ _ r _ _ => (text_reads e.message r).bind (Reads.pure _ _)⟩
  · obtain ⟨hw, hfl, hdp⟩ := Json.Value.carries_iff.1 (hdata d hd)
    exact ⟨_, rfl, fun _ _ _ hlen hr =>
      (optional_value hw hfl hdp (by rw [String.length_toList]; exact hlen) hr).bind (Reads.pure _ _)⟩

theorem errorKeys_nodup (e : RpcError) : ((errorFields e).map TextRead.Entry.key).Nodup := by
  rcases e with ⟨code, message, _ | d⟩ <;> simp [errorFields]

/-- An error object is read back whole, a `null` data as absent. -/
theorem optional_error {e : RpcError}
    (hcode : -(Nat.pow 2 63 : Int) ≤ e.code ∧ e.code < (Nat.pow 2 63 : Int))
    (hdata : ∀ d, e.data = some d → d.carries 126 = true) {fuel : Nat}
    (hfuel : (errorText e).length < fuel) (r : List Char) :
    (optional (record "RpcError" rpcErrorMembers ⟨0, "", none⟩ fuel 127)).Reads
      ((errorText e).toList ++ r) r (some { e with data := dropNull e.data }) := by
  have hlen := hfuel
  rw [← String.length_toList, errorText_toList] at hlen
  simp only [List.length_cons, List.length_append] at hlen
  have hbody := byName_all (r := r) (errorFields e) ⟨0, "", none⟩ fuel
    (errorFields_readsIn hcode hdata) (errorKeys_nodup e) (by simp at hlen ⊢; omega)
  rw [foldl_errorFields] at hbody
  rw [errorText_toList]
  simp only [List.cons_append, List.append_assoc]
  exact optional_some (by simp [IsSpace]) (by decide) (record_object (by decide) hbody)

/-- Every member of an envelope the wire carries reads back into its place. -/
theorem fields_readsIn {m : Message} (hm : m.encodable = true) :
    ∀ f ∈ m.fields, f.ReadsIn messageMembers 127 := by
  obtain ⟨hid, hparams, hresult, herror, -⟩ := encodable_spec hm
  intro f hf
  simp only [fields, List.mem_append, Option.mem_toList, Option.map_eq_some_iff] at hf
  rcases hf with (((((⟨s, -, rfl⟩ | ⟨i, hi, rfl⟩) | ⟨s, -, rfl⟩) | ⟨v, hv, rfl⟩) | ⟨v, hv, rfl⟩) |
    ⟨e, he, rfl⟩)
  · exact ⟨_, rfl, fun _ _ r _ _ => (optional_text s r).bind (Reads.pure _ _)⟩
  · exact ⟨_, rfl, fun _ _ _ hlen hr => (optional_requestId i (hid i hi) (by decide)
      (by rw [String.length_toList]; exact hlen) hr).bind (Reads.pure _ _)⟩
  · exact ⟨_, rfl, fun _ _ r _ _ => (optional_text s r).bind (Reads.pure _ _)⟩
  · obtain ⟨hw, hfl, hdp⟩ := Json.Value.carries_iff.1 (hparams v hv)
    exact ⟨_, rfl, fun _ _ _ hlen hr =>
      (optional_value hw hfl hdp (by rw [String.length_toList]; exact hlen) hr).bind (Reads.pure _ _)⟩
  · obtain ⟨hw, hfl, hdp⟩ := Json.Value.carries_iff.1 (hresult v hv)
    exact ⟨_, rfl, fun _ _ _ hlen hr =>
      (optional_value hw hfl hdp (by rw [String.length_toList]; exact hlen) hr).bind (Reads.pure _ _)⟩
  · obtain ⟨hcode, hdata⟩ := herror e he
    exact ⟨_, rfl, fun _ _ r hlen _ => (optional_error hcode hdata hlen r).bind (Reads.pure _ _)⟩

theorem foldl_fields (m : Message) : m.fields.foldl (fun x f => f.set x) {} = m.normalize := by
  rcases m with ⟨_ | j, _ | i, _ | me, _ | p, _ | r, _ | e⟩ <;> rfl

/-- The text of an envelope the wire carries is read back as the envelope, a `null` among its
values as absent. -/
theorem parse_render {m : Message} (hm : m.encodable = true) : parse m.render = .ok m.normalize := by
  have hbody : ∀ fuel, m.render.toList.length < fuel →
      (record "Message" messageMembers {} fuel 128).Reads m.render.toList [] m.normalize := by
    intro fuel hfuel
    rw [render_toList] at hfuel ⊢
    simp only [List.length_cons, List.length_append] at hfuel
    have h := byName_all (r := []) m.fields {} fuel (fields_readsIn hm) (keys_nodup m)
      (by omega)
    rw [foldl_fields] at h
    exact record_object (by decide) h
  have hread := fuelFor_bind
    (k := fun fuel => record "Message" messageMembers {} fuel 128 >>= fun x => finish >>= fun _ => pure x)
    (t := m.render.toList) (r := []) (by simp) fun fuel hf => (hbody fuel hf).bind (finish_reads.bind (Reads.pure m.normalize []))
  obtain ⟨p, hp⟩ := hread.2 0 m.render.length (by rw [String.length_toList])
  simp only [parse, Scan.runOn, Cursor.start]
  rw [hp]

/-! ### No line end inside an envelope's text -/

theorem newline_not_mem_intercalate {ls : List (List Char)} (h : ∀ l ∈ ls, '\n' ∉ l) :
    '\n' ∉ [','].intercalate ls := by
  cases ls with
  | nil => simp
  | cons l ls =>
    rw [intercalate_comma, List.mem_append, List.mem_flatMap, not_or, not_exists]
    refine ⟨h l List.mem_cons_self, fun l' ⟨hl', hin⟩ => ?_⟩
    rcases List.mem_cons.1 hin with he | hin
    · exact absurd he (by decide)
    · exact h l' (List.mem_cons_of_mem _ hl') hin

theorem newline_not_mem_chars {σ : Type} {f : TextRead.Entry σ} (h : '\n' ∉ f.text.toList) :
    '\n' ∉ f.chars := by
  rw [TextRead.Entry.chars, List.mem_append, List.mem_cons, not_or, not_or]
  exact ⟨newline_not_mem_quoteString f.key, by decide, h⟩

theorem newline_not_mem_int (i : Int) : '\n' ∉ (toString i).toList := by
  by_cases hi : i < 0
  · have htext : (toString i).toList = '-' :: Nat.toDigits 10 i.natAbs := text_neg hi
    rw [htext, List.mem_cons, not_or]
    exact ⟨by decide, newline_not_mem_toDigits _⟩
  · have htext : (toString i).toList = Nat.toDigits 10 i.toNat := text_neg_nonneg hi
    rw [htext]
    exact newline_not_mem_toDigits _

theorem newline_not_mem_errorText {e : RpcError} (hdata : ∀ d, e.data = some d → d.hasFloat = false) :
    '\n' ∉ (errorText e).toList := by
  rw [errorText_toList, List.mem_append, List.mem_cons, not_or, not_or]
  refine ⟨⟨by decide, newline_not_mem_intercalate fun l hl => ?_⟩, by decide⟩
  obtain ⟨f, hf, rfl⟩ := List.mem_map.1 hl
  refine newline_not_mem_chars ?_
  simp only [errorFields, List.cons_append, List.nil_append, List.mem_cons, Option.mem_toList,
    Option.map_eq_some_iff] at hf
  rcases hf with rfl | rfl | ⟨d, hd, rfl⟩
  · exact newline_not_mem_int e.code
  · exact newline_not_mem_quoteString e.message
  · exact newline_not_mem_render d (hdata d hd)

/-- The text of an envelope without floats holds no line end. -/
theorem newline_not_mem_render {m : Message} (hm : m.encodable = true) : '\n' ∉ m.render.toList := by
  obtain ⟨hid, hparams, hresult, herror, -⟩ := encodable_spec hm
  rw [render_toList, List.mem_append, List.mem_cons, not_or, not_or]
  refine ⟨⟨by decide, newline_not_mem_intercalate fun l hl => ?_⟩, by decide⟩
  obtain ⟨f, hf, rfl⟩ := List.mem_map.1 hl
  refine newline_not_mem_chars ?_
  simp only [fields, List.mem_append, Option.mem_toList, Option.map_eq_some_iff] at hf
  rcases hf with (((((⟨s, -, rfl⟩ | ⟨i, -, rfl⟩) | ⟨s, -, rfl⟩) | ⟨v, hv, rfl⟩) | ⟨v, hv, rfl⟩) |
    ⟨e, he, rfl⟩)
  · exact newline_not_mem_quoteString s
  · exact Json.Scan.newline_not_mem_render i.toValue (by cases i <;> rfl)
  · exact newline_not_mem_quoteString s
  · exact Json.Scan.newline_not_mem_render v (Json.Value.carries_iff.1 (hparams v hv)).2.1
  · exact Json.Scan.newline_not_mem_render v (Json.Value.carries_iff.1 (hresult v hv)).2.1
  · exact newline_not_mem_errorText fun d hd =>
      (Json.Value.carries_iff.1 ((herror e he).2 d hd)).2.1

/-- The bytes of an envelope's line: its text, then one newline, the only one. -/
theorem line_bytes {m : Message} (hm : m.encodable = true) :
    utf8Encode m.line = utf8Encode m.render ++ [10] ∧ (10 : UInt8) ∉ utf8Encode m.render :=
  ⟨utf8Encode_append _ _, newline_not_mem_charsUtf8 (newline_not_mem_render hm)⟩

end Message

/-! ## Lines -/

theorem dropBlanks_cons {c : Char} (h : isBlank c = false) (cs : List Char) :
    dropBlanks (c :: cs) = c :: cs := by
  simp [dropBlanks, h]

/-- A text that starts and ends with characters that are not white space is its own trimming. -/
theorem trimBlanks_of_ends {s : String} {c d : Char} {cs : List Char}
    (hs : s.toList = c :: cs ++ [d]) (hc : isBlank c = false) (hd : isBlank d = false) :
    trimBlanks s = s := by
  have hrev : (c :: cs ++ [d]).reverse = d :: (cs.reverse ++ [c]) := by simp
  rw [trimBlanks, hs, List.cons_append, dropBlanks_cons hc, ← List.cons_append, hrev,
    dropBlanks_cons hd, ← hrev, List.reverse_reverse, ← hs, String.ofList_toList]

/-- A stream of newline-ended lines: every line ended, none left open. -/
theorem lines_split (ls : List (List UInt8)) (hls : ∀ l ∈ ls, 10 ∉ l) :
    endedLines (ls.flatMap (· ++ [10])) = ls ∧ openLine (ls.flatMap (· ++ [10])) = [] := by
  induction ls with
  | nil => exact ⟨rfl, rfl⟩
  | cons l ls ih =>
    have hl := hls l List.mem_cons_self
    obtain ⟨hended, hopen⟩ := ih fun l' hl' => hls l' (List.mem_cons_of_mem _ hl')
    rw [List.flatMap_cons, List.append_assoc, List.singleton_append, endedLines_line hl,
      openLine_line hl, hended, hopen]
    exact ⟨rfl, rfl⟩

theorem readWhole_lines {ls : List (List UInt8)} (hls : ∀ l ∈ ls, 10 ∉ l) (eof : Bool) :
    readWhole (ls.flatMap (· ++ [10])) eof = (ls.filterMap lineFrame, 0) := by
  obtain ⟨hended, hopen⟩ := lines_split ls hls
  cases eof <;> simp [readWhole, hended, hopen]

/-- A stream of newline-ended lines decodes to the lines' frames with nothing left, however it
is cut into reads and whether or not it has ended. -/
theorem decode_lines {ls : List (List UInt8)} (hls : ∀ l ∈ ls, 10 ∉ l) (reads : List (List UInt8))
    (hreads : reads.flatten = ls.flatMap (· ++ [10])) (eof : Bool) :
    Inbox.decode reads eof = (ls.filterMap lineFrame, 0) := by
  obtain ⟨h, hf⟩ := Inbox.holds_nil.feed reads
  have hnil : (readWhole [] false).1 = [] := by simp [readWhole, endedLines, openLine]
  simp only [hnil, List.nil_append, hreads] at h hf
  cases eof with
  | false =>
    have hheld : heldBytes (ls.flatMap (· ++ [10])) = [] := by
      simp [heldBytes, (lines_split ls hls).2]
    simp only [Inbox.decode, Bool.false_eq_true, if_false, hf, h.buffer, hheld,
      readWhole_lines hls, List.length_nil]
  | true =>
    obtain ⟨hlast, hleft⟩ := h.drainAll_end
    rw [readWhole_lines hls, readWhole_lines hls] at hlast
    rw [readWhole_lines hls] at hleft
    simp only [Inbox.decode, if_true, hf, readWhole_lines hls, hlast, hleft]

namespace Message

/-- The line of an envelope the wire carries gives the envelope's normal form. -/
theorem lineFrame_render {m : Message} (hm : m.encodable = true) :
    lineFrame (utf8Encode m.render) = some (.message m.normalize) := by
  obtain ⟨-, -, -, -, hfits⟩ := encodable_spec hm
  have hs := render_toList m
  have hbytes : utf8Encode m.render =
      charsUtf8 ('{' :: [','].intercalate (m.fields.map TextRead.Entry.chars)) ++ [125] := by
    rw [utf8Encode, hs, charsUtf8_append]
    rfl
  have hcr : dropCarriageReturn (utf8Encode m.render) = utf8Encode m.render := by
    rw [dropCarriageReturn, hbytes, List.getLast?_concat]
    simp
  have htrim : trimBlanks m.render = m.render :=
    trimBlanks_of_ends (by rw [hs, List.cons_append]) (by decide) (by decide)
  have hne : m.render.isEmpty = false := by
    rw [Bool.eq_false_iff]
    intro h
    have hnil := congrArg String.toList (String.isEmpty_iff.1 h)
    rw [hs] at hnil
    simp at hnil
  rw [lineFrame, if_neg (Nat.not_lt.2 hfits), hcr, fitFrame, utf8Decode_utf8Encode]
  simp only [htrim, hne, Bool.false_eq_true, if_false, Frame.ofLine, parseText, parse_render hm]

end Message

namespace Message

/-- Normalizing twice changes nothing. -/
theorem normalize_normalize (m : Message) : m.normalize.normalize = m.normalize := by
  rcases m with ⟨j, i, me, p, r, _ | e⟩ <;> simp [normalize, dropNull_dropNull]

/-- Envelopes the wire carries, written one per line, are read back in order, each as its normal
form, with nothing left over, however the bytes are cut into reads and whether or not the
stream has ended. -/
theorem decode_lines_messages {ms : List Message} (hms : ∀ m ∈ ms, m.encodable = true)
    (reads : List (List UInt8)) (hreads : reads.flatten = (ms.map fun m => utf8Encode m.line).flatten)
    (eof : Bool) : Inbox.decode reads eof = (ms.map fun m => .message m.normalize, 0) := by
  have hlines : reads.flatten = (ms.map fun m => utf8Encode m.render).flatMap (· ++ [10]) := by
    rw [hreads, List.flatMap_map, ← List.flatMap_def]
    exact List.flatMap_congr fun m hm => (line_bytes (hms m hm)).1
  have hnl : ∀ l ∈ ms.map fun m => utf8Encode m.render, (10 : UInt8) ∉ l := by
    intro l hl
    obtain ⟨m, hm, rfl⟩ := List.mem_map.1 hl
    exact (line_bytes (hms m hm)).2
  rw [decode_lines hnl reads hlines eof, List.filterMap_map]
  congr 1
  refine List.filterMap_eq_map_iff_forall_eq_some.2 fun m hm => ?_
  -- open the composition first, so that checking the line's frame does not unfold the framer
  rw [Function.comp_apply]
  exact lineFrame_render (hms m hm)

end Message

/-- The line protocol carries envelopes whole. Envelopes the wire carries, written one per line,
are read back in order, each as its normal form, with nothing left over, however the bytes are
cut into reads and whether or not the stream has ended; normalizing twice is normalizing once;
and each line holds exactly one newline, as its last byte. -/
theorem envelope_roundtrip :
    (∀ (ms : List Message) (reads : List (List UInt8)) (eof : Bool),
      (∀ m ∈ ms, m.encodable = true) → reads.flatten = (ms.map fun m => utf8Encode m.line).flatten →
      Inbox.decode reads eof = (ms.map fun m => .message m.normalize, 0)) ∧
    (∀ m : Message, m.normalize.normalize = m.normalize) ∧
    (∀ m : Message, m.encodable = true → ∃ l, utf8Encode m.line = l ++ [10] ∧ (10 : UInt8) ∉ l) :=
  ⟨fun _ reads eof hms hreads => Message.decode_lines_messages hms reads hreads eof,
    Message.normalize_normalize, fun _ hm => ⟨_, (Message.line_bytes hm).1, (Message.line_bytes hm).2⟩⟩

namespace Message

/-- Decoding and encoding again is not the identity on encodings: a notification whose
parameters are given as null is read back with no parameters, whose line has no params
member. -/
theorem decode_drops_null_params :
    Inbox.decode [utf8Encode (notification "m" .null).line] false =
        ([.message { jsonrpc := some "2.0", method := some "m" }], 0) ∧
      utf8Encode (Message.line { jsonrpc := some "2.0", method := some "m" }) ≠
        utf8Encode (notification "m" .null).line := by
  have hdecode := @decode_lines_messages [notification "m" .null]
    (by simp only [List.mem_singleton, forall_eq]; decide +kernel) [utf8Encode (notification "m" .null).line]
    (by simp) false
  have hnorm : (notification "m" .null).normalize = { jsonrpc := some "2.0", method := some "m" } := rfl
  refine ⟨?_, by decide +kernel⟩
  rw [hdecode, List.map_singleton, hnorm]

end Message

/-- An initialize request with empty parameters, written as one read, is read back as itself. -/
theorem envelope_roundtrip_initialize :
    (∀ m ∈ [Message.request (.num 7) "initialize" (.object [])], m.encodable = true) ∧
      Inbox.decode [utf8Encode (Message.request (.num 7) "initialize" (.object [])).line] true =
        ([.message (Message.request (.num 7) "initialize" (.object []))], 0) := by
  have henc : ∀ m ∈ [Message.request (.num 7) "initialize" (.object [])], m.encodable = true := by
    simp only [List.mem_singleton, forall_eq]
    decide +kernel
  have hnorm : (Message.request (.num 7) "initialize" (.object [])).normalize =
      Message.request (.num 7) "initialize" (.object []) := rfl
  refine ⟨henc, ?_⟩
  rw [envelope_roundtrip.1 _ _ true henc (by simp), List.map_singleton, hnorm]

end AgentLink
