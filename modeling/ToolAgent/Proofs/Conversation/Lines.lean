import ToolAgent.Proofs.Conversation.Encoding
import ToolAgent.Proofs.Conversation.Transcript
import ToolAgent.Proofs.Json.OneLine
import ToolAgent.Proofs.Json.RoundTrip

/-!
# Lines of a transcript

Where the body of a frame is the text of a value, it is one line, and it reads back as the value
(`Transcript.writeAll_frame_of_showsValues`). That is so for the results of tools and functions, for
messages of no known kind, and for the calls of an assistant.
-/

namespace ToolAgent

/-! ## Lines -/

/-- The text consists of these lines, each of them ended by a line feed. -/
def IsLines (text : String) (lines : List String) : Prop :=
  text.toList.splitOn '\n' = lines.map String.toList ++ [[]]

theorem isLines_join {lines : List String} (h : ∀ line ∈ lines, '\n' ∉ line.toList) :
    IsLines (String.join (lines.map (· ++ "\n"))) lines := by
  rw [IsLines]
  induction lines with
  | nil => rfl
  | cons line lines ih =>
    obtain ⟨hline, hlines⟩ := List.forall_mem_cons.mp h
    have hfirst : (String.join ((line :: lines).map (· ++ "\n"))).toList =
        line.toList ++ '\n' :: (String.join (lines.map (· ++ "\n"))).toList := by
      rw [List.map_cons, String.join_cons, String.toList_append, String.toList_append,
        List.append_assoc]
      rfl
    rw [hfirst, List.splitOn_append_cons_self_of_not_mem hline, ih hlines]
    rfl

namespace Transcript

/-! ## Frames of values -/

/-- The line that separates frames. -/
def rule : String := "------------------------------"

/-- The lines of such a frame: a header and the text of the value for each, between two rules. -/
def valueLines (values : List (String × Json)) : List String :=
  rule :: values.flatMap (fun shown => [shown.1, shown.2.toText]) ++ [rule]

theorem length_valueLines (values : List (String × Json)) :
    (valueLines values).length = 2 * values.length + 2 := by
  simp [valueLines, List.length_flatMap, Nat.mul_comm]

namespace ShowsValues

variable {message : Message} {values : List (String × Json)}

theorem lineFeed_notMem_header (h : ShowsValues message values) :
    ∀ shown ∈ values, '\n' ∉ shown.1.toList := by
  have hheaders : ∀ header ∈ ["Tool Result:", "Function Result:", "Unknown message", "Tool Call:"],
      '\n' ∉ header.toList := by decide
  cases h with
  | tool => exact List.forall_mem_singleton.mpr (hheaders _ (by simp))
  | function => exact List.forall_mem_singleton.mpr (hheaders _ (by simp))
  | unknown => exact List.forall_mem_singleton.mpr (hheaders _ (by simp))
  | called => exact List.forall_mem_map.mpr fun call _ => hheaders _ (by simp)

theorem frame_eq (h : ShowsValues message values) :
    frame message = (valueLines values).map (· ++ "\n") := by
  rw [frame, h.blocks_eq, List.flatMap_map, valueLines, List.map_append, List.map_cons,
    List.map_flatMap]
  rfl

theorem isLines_frame (h : ShowsValues message values) :
    IsLines (String.join (frame message)) (valueLines values) := by
  rw [h.frame_eq]
  refine isLines_join ?_
  have hrule : '\n' ∉ rule.toList := by decide
  rw [valueLines, List.cons_append, List.forall_mem_cons, List.forall_mem_append,
    List.forall_mem_singleton]
  refine ⟨hrule, ?_, hrule⟩
  intro line hline
  obtain ⟨shown, hshown, hline⟩ := List.mem_flatMap.mp hline
  rcases List.mem_pair.mp hline with rfl | rfl
  · exact h.lineFeed_notMem_header shown hshown
  · exact Json.lineFeed_notMem_toText shown.2

end ShowsValues

/-- **Values are shown on lines of their own.** The frame of a message that shows values consists of
a header line and one line for each of them, between two separator lines, whatever texts the values
hold. Unless a value nests too deep to be read at all, its line reads back as the value, with the
members of objects in canonical order. If that is the order in the message itself, an unknown
message reads back as its raw value, a call as itself, and the message as itself. -/
theorem writeAll_frame_of_showsValues {message : Message} {values : List (String × Json)}
    (h : ShowsValues message values) (written : Bytes) :
    (∃ text, Sink.writeAll { written } (frame message) =
        (true, { written := written ++ Bytes.ofString text }) ∧ IsLines text (valueLines values)) ∧
    (valueLines values).length = 2 * values.length + 2 ∧
    (∀ shown ∈ values, shown.2.depth ≤ 127 → (∀ n ∈ shown.2.numbers, n.ReadsBack) →
      Json.parse shown.2.toText = .ok shown.2.canonical) ∧
    (message.IsCanonical →
      (∀ raw, message = .unknown raw → raw.canonical = raw) ∧
      (∀ call ∈ message.toolCalls, ToolCall.decoder.fit call.toJson.canonical = .ok call) ∧
      (message.IsProper → Message.decoder.fit message.toJson.canonical = .ok message)) := by
  refine ⟨⟨_, Sink.writeAll_of_no_limit written (frame message), h.isLines_frame⟩,
    length_valueLines values, fun shown _ hdepth hnumbers => Json.parse_toText hdepth hnumbers, ?_⟩
  intro hcanonical
  refine ⟨?_, ?_, fun hproper => congrArg Except.ok (Message.ofJson_canonical hproper hcanonical)⟩
  · rintro raw rfl
    exact Json.IsCanonical.canonical_eq hcanonical
  · intro call hcall
    refine ToolCall.fit_canonical ?_
    cases h with
    | called => exact hcanonical call hcall
    | tool | function | unknown => cases hcall

/-- A result whose text has lines of its own, one of them like a separator. -/
theorem writeAll_frame_of_separator_text :
    let content : Json := .arr [.str ("a\n" ++ separator), .ofUInt32 5]
    let message : Message := .tool ⟨content, "c", none, .success⟩
    let line := "\x7b\"role\":\"tool\",\"content\":[\"a\\n------------------------------\\n\",5]," ++
      "\"tool_call_id\":\"c\",\"status\":\"success\"\x7d"
    ShowsValues message [("Tool Result:", message.toJson)] ∧ message.IsCanonical ∧
      message.IsProper ∧ message.toJson.depth ≤ 127 ∧
      (∀ n ∈ message.toJson.numbers, n.ReadsBack) ∧
      (∃ text, Sink.writeAll {} (frame message) = (true, { written := Bytes.ofString text }) ∧
        IsLines text [rule, "Tool Result:", line, rule]) ∧
      Json.parse line = .ok message.toJson.canonical ∧
      Message.decoder.fit message.toJson.canonical = .ok message := by
  intro content message line
  have hshows : ShowsValues message [("Tool Result:", message.toJson)] := .tool _
  have hcanonical : message.IsCanonical := show content.IsCanonical by decide +kernel
  have hproper : message.IsProper := nofun
  have hdepth : message.toJson.depth ≤ 127 := by decide +kernel
  have hnumbers : ∀ n ∈ message.toJson.numbers, n.ReadsBack := by
    have hfive : message.toJson.numbers = [.int 5 (by decide)] := rfl
    rw [hfive, List.forall_mem_singleton]
    exact Json.readsBack_int 5 (by decide)
  have hline : message.toJson.toText = line := by decide +kernel
  have hframe (v : Json) : valueLines [("Tool Result:", v)] =
      [rule, "Tool Result:", v.toText, rule] := rfl
  obtain ⟨⟨text, hwrite, hlines⟩, -, hparse, htyped⟩ := writeAll_frame_of_showsValues hshows []
  have hread := hparse _ List.mem_cons_self hdepth hnumbers
  rw [hframe, hline] at hlines
  rw [hline] at hread
  exact ⟨hshows, hcanonical, hproper, hdepth, hnumbers, ⟨text, hwrite, hlines⟩, hread,
    (htyped hcanonical).2.2 hproper⟩

end Transcript

end ToolAgent
