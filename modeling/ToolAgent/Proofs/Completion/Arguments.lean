import ToolAgent.Completion.Reply
import ToolAgent.Proofs.Completion.Entries
import ToolAgent.Proofs.Completion.ToolCalls
import ToolAgent.Proofs.Json.RoundTrip

/-!
# Arguments that are sent back

The arguments of a call come as a text and are sent back as a text when the conversation goes on. A
text that is no JSON comes back as it was. Any other text keeps its meaning, unless it is a string of
JSON that has a meaning of its own (`QuotesArguments`): it is sent back without its quotes, and then
read as what was inside them (`Message.arguments_sentBack`).
-/

namespace ToolAgent

open Fragment (arguments)

/-- The text is a JSON string, and the text inside it is blank or JSON itself. -/
def QuotesArguments (text : String) : Prop :=
  ∃ inner, Json.parse text = .ok (.str inner) ∧
    (Text.allBlank inner = true ∨ ∃ v, Json.parse inner = .ok v)

/-! ## What a text means -/

section Texts

variable {text : String} {v : Json}

theorem interpretArguments_of_allBlank (h : Text.allBlank text = true) :
    interpretArguments text = .obj [] :=
  if_pos h

theorem interpretArguments_of_parse (h : Json.parse text = .ok v) :
    interpretArguments text = v := by
  have hblank : ¬ Text.allBlank text = true := by simp [Json.allBlank_eq_false_of_parse h]
  rw [interpretArguments, if_neg hblank, h]
  rfl

theorem interpretArguments_of_unreadable (hblank : Text.allBlank text = false)
    (h : ∀ v, Json.parse text ≠ .ok v) : interpretArguments text = .str text := by
  rw [interpretArguments, if_neg (by simp [hblank])]
  cases hparse : Json.parse text with
  | ok v => exact absurd hparse (h v)
  | error e => rfl

/-- A text stands for itself only if it means nothing else. -/
theorem interpretArguments_eq_str_iff :
    interpretArguments text = .str text ↔
      ¬ (Text.allBlank text = true ∨ ∃ v, Json.parse text = .ok v) := by
  constructor
  · rintro h (hblank | ⟨v, hv⟩)
    · rw [interpretArguments_of_allBlank hblank] at h
      cases h
    · rw [interpretArguments_of_parse hv] at h
      rw [h] at hv
      exact absurd (Json.length_lt_of_parse_str hv) (Nat.lt_irrefl _)
  · intro h
    obtain ⟨hblank, hparse⟩ := not_or.mp h
    exact interpretArguments_of_unreadable (Bool.eq_false_iff.mpr hblank)
      fun v hv => hparse ⟨v, hv⟩

/-- The text of a value means that value. -/
theorem interpretArguments_toText (hcanonical : v.IsCanonical) (hdepth : v.depth ≤ Json.depthLimit)
    (hdoubles : ∀ x hx, .float x hx ∈ v.numbers → (Number.float x hx).ReadsBack) :
    interpretArguments v.toText = v := by
  have hnumbers : ∀ n ∈ v.numbers, n.ReadsBack := by
    intro n hn
    cases n with
    | int m hm => exact Json.readsBack_int m hm
    | float x hx => exact hdoubles x hx hn
  have hread : Json.parse v.toText = .ok v.canonical := Json.parse_toText hdepth hnumbers
  rw [hcanonical.canonical_eq] at hread
  exact interpretArguments_of_parse hread

theorem quotesArguments_iff {inner : String} (h : Json.parse text = .ok (.str inner)) :
    QuotesArguments text ↔ Text.allBlank inner = true ∨ ∃ v, Json.parse inner = .ok v := by
  constructor
  · rintro ⟨found, hfound, hinner⟩
    rw [h] at hfound
    cases hfound
    exact hinner
  · intro hinner
    exact ⟨inner, h, hinner⟩

theorem asContent_of_ne_str (h : ∀ inner, v ≠ .str inner) : v.asContent = v.toText := by
  cases v with
  | str inner => exact absurd rfl (h inner)
  | null | bool | num | arr | obj => rfl

/-- A text that is no string of JSON keeps its meaning. -/
theorem interpretArguments_asContent_of_ne_str (h : ∀ inner, Json.parse text ≠ .ok (.str inner))
    (hdoubles : ∀ x hx, .float x hx ∈ (interpretArguments text).numbers →
      (Number.float x hx).ReadsBack) :
    interpretArguments (interpretArguments text).asContent = interpretArguments text := by
  by_cases hblank : Text.allBlank text = true
  · rw [interpretArguments_of_allBlank hblank]
    exact interpretArguments_of_parse rfl
  · cases hparse : Json.parse text with
    | error e =>
      have hself : interpretArguments text = .str text :=
        interpretArguments_of_unreadable (Bool.eq_false_iff.mpr hblank) (by simp [hparse])
      rw [hself]
      exact hself
    | ok v =>
      have hstr : ∀ inner, v ≠ .str inner := by
        rintro inner rfl
        exact h inner hparse
      rw [interpretArguments_of_parse hparse] at hdoubles ⊢
      rw [asContent_of_ne_str hstr]
      exact interpretArguments_toText (Json.isCanonical_of_parse hparse)
        (Json.depth_le_of_parse hparse) hdoubles

/-- What is sent back for a text means the same, unless that lies inside quotes. -/
theorem interpretArguments_asContent_iff
    (hdoubles : ∀ x hx, .float x hx ∈ (interpretArguments text).numbers →
      (Number.float x hx).ReadsBack) :
    interpretArguments (interpretArguments text).asContent = interpretArguments text ↔
      ¬ QuotesArguments text := by
  by_cases hstr : ∃ inner, Json.parse text = .ok (.str inner)
  · obtain ⟨inner, hinner⟩ := hstr
    rw [interpretArguments_of_parse hinner, quotesArguments_iff hinner]
    exact interpretArguments_eq_str_iff
  · have hne : ∀ inner, Json.parse text ≠ .ok (.str inner) := not_exists.mp hstr
    have hunquoted : ¬ QuotesArguments text := fun ⟨inner, hinner, _⟩ => hne inner hinner
    exact ⟨fun _ => hunquoted, fun _ => interpretArguments_asContent_of_ne_str hne hdoubles⟩

end Texts

/-! ## Calls that are sent back -/

theorem arguments_toEntry (call : ToolCall) : arguments call.toEntry = call.args.asContent := by
  simp [arguments, ToolCall.toEntry, Json.getD, Json.getString?, Json.asString?]

/-- **Arguments that are sent back.** A message is taken from a completion and is part of the
conversation that is sent next. Its entry lists the same calls, in order. What their arguments mean
is what they meant, except for a text that quotes arguments; a text that is neither blank nor JSON
is sent as it came. Of the doubles in the arguments it is assumed that they read back. -/
theorem Message.arguments_sentBack {entry : Json} {received : List Json}
    (hreceived : (entry.get? "tool_calls").bind Json.asArray? = some received)
    (hne : received ≠ [])
    (hdoubles : ∀ call ∈ received, ∀ x hx,
      .float x hx ∈ (interpretArguments (arguments call)).numbers →
        (Number.float x hx).ReadsBack) :
    (ofEntry entry).toolCalls.map ToolCall.args =
      received.map (fun call => interpretArguments (arguments call)) ∧
    ∃ next sent, next.get? "tool_calls" = some (.arr sent) ∧
      (∀ messages, ofEntry entry ∈ messages → next ∈ conversationEntries messages) ∧
      List.Forall₂ (fun call back =>
        (interpretArguments (arguments back) = interpretArguments (arguments call) ↔
          ¬ QuotesArguments (arguments call)) ∧
        (Text.allBlank (arguments call) = false →
          (∀ v, Json.parse (arguments call) ≠ .ok v) → arguments back = arguments call))
        received sent := by
  have hcalls : ofEntry entry = .assistant ((entry.getString? "content").getD "")
      (received.map ToolCall.ofEntry) := by
    rw [ofEntry, hreceived]
    rfl
  have hne' : received.map ToolCall.ofEntry ≠ [] := by simpa using hne
  obtain ⟨next, hnext, -, htools⟩ := toEntry?_assistant ((entry.getString? "content").getD "") hne'
  refine ⟨?_, next, _, htools, ?_, ?_⟩
  · rw [hcalls, toolCalls, List.map_map]
    rfl
  · intro messages hmem
    exact List.mem_filterMap.mpr ⟨_, hmem, hcalls ▸ hnext⟩
  · rw [List.map_map, List.forall₂_map_right_iff]
    refine List.forall₂_same.mpr ?_
    intro call hcall
    have hback : arguments (ToolCall.ofEntry call).toEntry =
        (interpretArguments (arguments call)).asContent := arguments_toEntry _
    constructor
    · show interpretArguments (arguments (ToolCall.ofEntry call).toEntry) = _ ↔ _
      rw [hback]
      exact interpretArguments_asContent_iff (hdoubles call hcall)
    · intro hblank hparse
      show arguments (ToolCall.ofEntry call).toEntry = _
      rw [hback, interpretArguments_of_unreadable hblank hparse]
      rfl

/-- The entry of a call with that text of arguments. -/
def callEntry (text : String) : Json :=
  .object [("id", .str "c"), ("function", .object [("name", .str "f"), ("arguments", .str text)])]

theorem arguments_callEntry (text : String) : arguments (callEntry text) = text := by
  simp [arguments, callEntry, Json.getD, Json.getString?, Json.asString?]

/-- An object with blanks, a text that is cut off, and a number in quotes. -/
theorem Message.arguments_sentBack_of_three_calls :
    let texts := ["\x7b \"n\": [5, -3], \"a\": \"\\u00e9\" \x7d", "\x7b\"city\": ", "\"5\""]
    let entry : Json := .object [("tool_calls", .arr (texts.map callEntry))]
    ∃ next sent, next ∈ conversationEntries [ofEntry entry] ∧
      next.get? "tool_calls" = some (.arr sent) ∧
      List.Forall₂ (fun text back => interpretArguments (arguments back) = interpretArguments text ↔
        ¬ QuotesArguments text) texts sent := by
  intro texts entry
  have hreceived : (entry.get? "tool_calls").bind Json.asArray? = some (texts.map callEntry) := rfl
  have hne : texts.map callEntry ≠ [] := nofun
  have hmeanings : texts.map interpretArguments =
      [.obj [("a", .str "é"), ("n", .arr [.num (.int 5 (by decide)), .num (.int (-3) (by decide))])],
        .str "\x7b\"city\": ", .str "5"] := by
    decide +kernel
  have hdoubles : ∀ call ∈ texts.map callEntry, ∀ x hx,
      .float x hx ∈ (interpretArguments (arguments call)).numbers →
        (Number.float x hx).ReadsBack := by
    have hmeaning : ∀ v ∈ texts.map interpretArguments, ∀ x hx, .float x hx ∉ v.numbers := by
      rw [hmeanings]
      simp [Json.numbers, Json.numbersItems, Json.numbersMembers]
    intro call hcall x hx hmem
    obtain ⟨text, htext, rfl⟩ := List.mem_map.mp hcall
    rw [arguments_callEntry] at hmem
    exact absurd hmem (hmeaning _ (List.mem_map_of_mem htext) x hx)
  obtain ⟨-, next, sent, hsent, hnext, hback⟩ := arguments_sentBack hreceived hne hdoubles
  refine ⟨next, sent, hnext _ List.mem_cons_self, hsent, ?_⟩
  rw [List.forall₂_map_left_iff] at hback
  refine hback.imp ?_
  intro text back h
  rw [arguments_callEntry] at h
  exact h.1

/-- The quotes of a number are lost, and with them that it is a text. -/
theorem Message.arguments_not_sentBack :
    let call := callEntry "\"5\""
    let back := (ToolCall.ofEntry call).toEntry
    interpretArguments (arguments call) = .str "5" ∧ arguments back = "5" ∧
      interpretArguments (arguments back) ≠ interpretArguments (arguments call) := by
  decide +kernel

end ToolAgent
