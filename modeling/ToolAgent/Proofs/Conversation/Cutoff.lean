import Mathlib.Data.List.Infix
import ToolAgent.Proofs.Conversation.Transcript

/-!
# Transcripts that are cut short

A sink with little room gets the beginning of the transcript, as many bytes as it has room for. If
that is not all of the transcript, nothing of the stream behind the byte that found no room is of
any account (`Transcript.render_of_room`).
-/

namespace ToolAgent

/-! ## Sinks with little room -/

namespace Sink

/-- It does not matter how the bytes are divided into pieces. -/
theorem writeAll_of_room (written : Bytes) (room : Nat) (pieces : List String) :
    writeAll ⟨written, some room⟩ pieces =
      (decide ((Bytes.ofString (String.join pieces)).length ≤ room),
        ⟨written ++ (Bytes.ofString (String.join pieces)).take room,
          some (room - (Bytes.ofString (String.join pieces)).length)⟩) := by
  induction pieces generalizing written room with
  | nil => simp [writeAll, Bytes.ofString]
  | cons piece pieces ih =>
    rw [String.join_cons, Bytes.ofString_append, writeAll, write]
    generalize Bytes.ofString piece = bytes
    by_cases hfits : bytes.length ≤ room
    · have htake : bytes.take room = bytes := List.take_of_length_le hfits
      simp only [hfits, decide_true, ih, htake, List.take_append, List.length_append,
        List.append_assoc, Nat.sub_add_eq]
      congr 2
      exact propext (by omega)
    · have hlt : room < bytes.length := Nat.lt_of_not_le hfits
      have hnot : ¬ (bytes ++ Bytes.ofString (String.join pieces)).length ≤ room := by
        rw [List.length_append]
        omega
      simp only [hfits, hnot, decide_false, List.take_append_of_le_length hlt.le,
        Nat.sub_eq_zero_of_le hlt.le, Nat.sub_eq_zero_of_le (Nat.lt_of_not_le hnot).le]

end Sink

namespace Transcript

variable {ε : Type}

/-! ## Streams -/

/-- The bytes of the whole transcript. -/
def bytes (items : List (Except ε Chunk)) : Bytes :=
  Bytes.ofString (String.join (pieces items))

theorem render_eq_of_bytes (written : Bytes) (items : List (Except ε Chunk)) :
    render { written } items =
      ((firstError? items).map .source, { written := written ++ bytes items }) := by
  rw [render_eq_writeAll, Sink.writeAll_of_no_limit, bytes]

theorem render_eq_of_room (written : Bytes) (room : Nat) (items : List (Except ε Chunk)) :
    render ⟨written, some room⟩ items =
      (if room < (bytes items).length then some .sinkFull else (firstError? items).map .source,
        ⟨written ++ (bytes items).take room, some (room - (bytes items).length)⟩) := by
  rw [render_eq_writeAll, Sink.writeAll_of_room, ← bytes]
  by_cases hfits : (bytes items).length ≤ room
  · rw [if_neg (Nat.not_lt.mpr hfits), decide_eq_true hfits]
  · rw [if_pos (Nat.lt_of_not_le hfits), decide_eq_false hfits]

theorem chunksBefore_prefix (items later : List (Except ε Chunk)) :
    chunksBefore items <+: chunksBefore (items ++ later) := by
  induction items with
  | nil => exact List.nil_prefix
  | cons item rest ih =>
    cases item with
    | error e => exact List.nil_prefix
    | ok chunk => exact List.cons_prefix_cons.mpr ⟨rfl, ih⟩

/-- What follows in a stream comes behind in its transcript. -/
theorem bytes_prefix (items later : List (Except ε Chunk)) :
    bytes items <+: bytes (items ++ later) := by
  have hchunks : chunksBefore items <+: chunksBefore (items ++ later) :=
    chunksBefore_prefix items later
  obtain ⟨more, hmore⟩ : pieces items <+: pieces (items ++ later) := hchunks.flatMap ofChunk
  rw [bytes, bytes, ← hmore, String.join_append, Bytes.ofString_append]
  exact List.prefix_append _ _

/-- **A full sink ends a transcript.** Of the transcript that a sink without limit gets, a sink with
room for a number of bytes gets the first ones, as many as it has room for. It is full in the end
exactly if the transcript is longer than that, and then what follows in the stream changes neither
what it has got nor the outcome. Otherwise the outcome is that of the sink without limit. -/
theorem render_of_room (written : Bytes) (room : Nat) (items : List (Except ε Chunk)) :
    let transcript := (render {} items).2.written
    (render ⟨written, some room⟩ items).2 =
      ⟨written ++ transcript.take room, some (room - transcript.length)⟩ ∧
    ((render ⟨written, some room⟩ items).1 = some .sinkFull ↔ room < transcript.length) ∧
    (room < transcript.length → ∀ later,
      render ⟨written, some room⟩ (items ++ later) = render ⟨written, some room⟩ items) ∧
    (transcript.length ≤ room →
      (render ⟨written, some room⟩ items).1 = (render {} items).1) := by
  intro transcript
  have htranscript : transcript = bytes items := by
    show (render {} items).2.written = _
    rw [render_eq_of_bytes]
    rfl
  rw [render_eq_of_room, ← htranscript]
  refine ⟨rfl, ?_, ?_, ?_⟩
  · constructor
    · intro hfull
      by_contra hfits
      rw [if_neg hfits] at hfull
      obtain ⟨e, -, he⟩ := Option.map_eq_some_iff.mp hfull
      cases he
    · exact fun hlt => if_pos hlt
  · intro hlt later
    obtain ⟨more, hmore⟩ := bytes_prefix items later
    have hlt' : room < (transcript ++ more).length := by
      rw [List.length_append]
      omega
    rw [render_eq_of_room, ← hmore, ← htranscript, if_pos hlt, if_pos hlt',
      List.take_append_of_le_length hlt.le, Nat.sub_eq_zero_of_le hlt.le,
      Nat.sub_eq_zero_of_le hlt'.le]
  · intro hfits
    rw [if_neg (Nat.not_lt.mpr hfits), render_eq_of_bytes]

/-- A sink that is full within a character, in a stream that goes on with an error and a message,
and one that has just room enough. -/
theorem render_of_cut_character :
    let items : List (Except String Chunk) := [.ok (.model [.user "ü"]), .error "no"]
    let later : List (Except String Chunk) := [.ok (.model [.user "a"])]
    let transcript := (render {} items).2.written
    46 < transcript.length ∧ transcript.length ≤ 79 ∧
      render ⟨[], some 46⟩ (items ++ later) =
        (some .sinkFull, ⟨Bytes.ofString (separator ++ "User Message:\n") ++ [0xC3], some 0⟩) ∧
      render ⟨[], some 79⟩ items = (some (.source "no"), ⟨transcript, some 0⟩) := by
  intro items later transcript
  have hlength : transcript.length = 79 := by decide +kernel
  have hcut : 46 < transcript.length := by omega
  have hfits : transcript.length ≤ 79 := by omega
  obtain ⟨hsink, hfull, hlater, -⟩ := render_of_room [] 46 items
  obtain ⟨hsink', -, -, houtcome⟩ := render_of_room [] 79 items
  refine ⟨hcut, hfits, ?_, ?_⟩
  · rw [hlater hcut later]
    refine Prod.ext (hfull.mpr hcut) ?_
    rw [hsink]
    decide +kernel
  · refine Prod.ext ?_ ?_
    · rw [houtcome hfits]
      rfl
    · rw [hsink']
      exact congrArg₂ Sink.mk (List.take_of_length_le hfits)
        (congrArg some (Nat.sub_eq_zero_of_le hlength.ge))

end Transcript

end ToolAgent
