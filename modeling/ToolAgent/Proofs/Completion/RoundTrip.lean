import ToolAgent.Proofs.Completion.Arguments
import ToolAgent.Proofs.Completion.WireNames

/-!
# Assistant messages that come back

The entry of an assistant's message, read as the message of a completion, has the same content and
the same calls, each of them as its own entry is read (`Message.ofEntry_of_toEntry?`). If the calls
are such that nothing of them is lost on the wire (`ToolCall.IsFaithful`), the message that comes
back is the one that was sent (`Message.ofResponse_of_sent`).
-/

namespace ToolAgent

/-- Arguments that mean the same when they have been sent as a text: a value that is no string, in
the canonical form of all values that are read, or the text of arguments that could not be read. -/
inductive IsFaithfulArgs : Json → Prop where
  | value {v : Json} (hstr : ∀ text, v ≠ .str text) (hcanonical : v.IsCanonical)
      (hdepth : v.depth ≤ 127) : IsFaithfulArgs v
  | text {text : String} (hblank : Text.allBlank text = false)
      (hparse : ∀ v, Json.parse text ≠ .ok v) : IsFaithfulArgs (.str text)

/-- The arguments that come back are those that were sent. Of the doubles in them it is assumed that
they read back. -/
theorem IsFaithfulArgs.interpretArguments_asContent {args : Json} (h : IsFaithfulArgs args)
    (hdoubles : ∀ x hx, .float x hx ∈ args.numbers → (Number.float x hx).ReadsBack) :
    interpretArguments args.asContent = args := by
  cases h with
  | value hstr hcanonical hdepth =>
    rw [asContent_of_ne_str hstr]
    exact interpretArguments_toText hcanonical hdepth hdoubles
  | text hblank hparse => exact interpretArguments_of_unreadable hblank hparse

namespace ToolCall

/-- Nothing of the call is lost when it is sent. -/
structure IsFaithful (call : ToolCall) : Prop where
  name : IsWireName call.name
  id : call.id ≠ some ""
  args : IsFaithfulArgs call.args

theorem ofEntry_toEntry (call : ToolCall) :
    ofEntry call.toEntry = {
      name := wireName call.name
      args := interpretArguments call.args.asContent
      id := call.id.filter (· ≠ "") } := by
  obtain ⟨name, args, id⟩ := call
  cases id <;> simp [ofEntry, toEntry, Json.getD, Json.getString?, Json.asString?]

theorem IsFaithful.ofEntry_toEntry_eq {call : ToolCall} (h : call.IsFaithful)
    (hdoubles : ∀ x hx, .float x hx ∈ call.args.numbers → (Number.float x hx).ReadsBack) :
    ofEntry call.toEntry = call := by
  have hid : call.id.filter (· ≠ "") = call.id := by
    cases hsome : call.id with
    | none => rfl
    | some id =>
      have hne : id ≠ "" := by
        rintro rfl
        exact h.id hsome
      simp [hne]
  rw [ofEntry_toEntry, wireName_eq_self h.name, h.args.interpretArguments_asContent hdoubles, hid]

end ToolCall

namespace Message

/-- The content and the calls of an entry. -/
theorem ofEntry_of_toEntry? {content : String} {calls : List ToolCall} {entry : Json}
    (h : toEntry? (.assistant content calls) = some entry) :
    ofEntry entry = .assistant content (calls.map fun call => ToolCall.ofEntry call.toEntry) := by
  obtain rfl := Option.some.inj h
  by_cases hcontent : content = "" <;> by_cases hcalls : calls = [] <;>
    simp [ofEntry, hcontent, hcalls, Json.getString?, Json.asString?, Json.asArray?]

/-- **Assistant messages come back.** If nothing of its calls is lost on the wire, the message has
one entry in a conversation, and as the message of a completion that entry is read as the message
again: with the same content, also if it is empty, and with the same calls in order. Of the doubles
in the arguments it is assumed that they read back. -/
theorem ofResponse_of_sent {content : String} {calls : List ToolCall}
    (hcalls : ∀ call ∈ calls, call.IsFaithful)
    (hdoubles : ∀ call ∈ calls, ∀ x hx, .float x hx ∈ call.args.numbers →
      (Number.float x hx).ReadsBack) :
    ∃ entry, conversationEntries [.assistant content calls] = [entry] ∧
      ofResponse (.object [("choices", .arr [.object [("message", entry)]])]) =
        .ok (.assistant content calls) := by
  obtain ⟨entry, hentry⟩ : ∃ entry, toEntry? (.assistant content calls) = some entry := ⟨_, rfl⟩
  have hback : calls.map (fun call => ToolCall.ofEntry call.toEntry) = calls := by
    have hcall : ∀ call ∈ calls, ToolCall.ofEntry call.toEntry = call := fun call hmem =>
      (hcalls call hmem).ofEntry_toEntry_eq (hdoubles call hmem)
    rw [List.map_congr_left hcall, List.map_id']
  refine ⟨entry, ?_, ?_⟩
  · rw [conversationEntries_cons, hentry]
    rfl
  · have hread : ofResponse (.object [("choices", .arr [.object [("message", entry)]])]) =
        .ok (ofEntry entry) := rfl
    rw [hread, ofEntry_of_toEntry? hentry, hback]

/-- Calls with nested arguments, with arguments that are cut off, and without arguments, and a
content that is not sent because it is empty. -/
theorem ofResponse_of_sent_three_calls :
    let calls : List ToolCall := [
      ⟨"look_up", .obj [("a", .str "\n"), ("n", .arr [.ofUInt32 5, .null, .obj []])], none⟩,
      ⟨"g-2", .str "\x7b\"city\": ", some "c"⟩,
      ⟨"h", .obj [], some "c"⟩]
    (∀ call ∈ calls, call.IsFaithful) ∧
    ∃ entry, conversationEntries [.assistant "" calls] = [entry] ∧ entry.get? "content" = none ∧
      ofResponse (.object [("choices", .arr [.object [("message", entry)]])]) =
        .ok (.assistant "" calls) := by
  intro calls
  have hcalls : ∀ call ∈ calls, call.IsFaithful := by
    simp only [calls, List.forall_mem_cons]
    refine ⟨⟨by decide, by decide, .value (nofun) (by decide +kernel) (by decide)⟩,
      ⟨by decide, by decide, .text (by decide) ?_⟩,
      ⟨by decide, by decide, .value (nofun) (by decide +kernel) (by decide)⟩, by simp⟩
    have hparse : (Json.parse "\x7b\"city\": ").toOption = none := by decide +kernel
    intro v hv
    rw [hv] at hparse
    cases hparse
  have hdoubles : ∀ call ∈ calls, ∀ x hx, .float x hx ∈ call.args.numbers →
      (Number.float x hx).ReadsBack := by
    simp [calls, Json.numbers, Json.numbersItems, Json.numbersMembers, Json.ofUInt32]
  obtain ⟨entry, hentry, hback⟩ := @ofResponse_of_sent "" calls hcalls hdoubles
  refine ⟨hcalls, entry, hentry, ?_, hback⟩
  obtain rfl := List.singleton_inj.mp hentry
  rfl

end Message

end ToolAgent
