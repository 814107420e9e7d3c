import Mathlib.Data.List.Forall2
import ToolAgent.Proofs.Json.Canonical
import ToolAgent.Proofs.Text.Utf8
import ToolAgent.Transcript

/-!
# What a transcript shows

A transcript shows the messages of the steps named `model`, up to the first error of the stream
(`Transcript.Shows`). Each of them has a frame with a header and a body, or with one of each for
every call of an assistant (`Transcript.HasBlocks`). With room enough, the transcript consists of
these frames and of nothing else (`Transcript.render_of_no_limit`), so it is the same for every
stream that shows the same messages, and the text of an assistant that calls for tools does not
matter (`Transcript.LooksLike`).
-/

namespace ToolAgent

/-! ## Sinks -/

/-- Pieces that follow others are written if these could be written. -/
theorem Sink.writeAll_append (sink : Sink) (pieces more : List String) :
    sink.writeAll (pieces ++ more) =
      match sink.writeAll pieces with
      | (true, sink) => sink.writeAll more
      | (false, sink) => (false, sink) := by
  induction pieces generalizing sink with
  | nil => rfl
  | cons piece pieces ih =>
    rw [List.cons_append, writeAll, writeAll]
    rcases sink.write (Bytes.ofString piece) with ⟨_ | _, sink⟩
    · rfl
    · exact ih sink

theorem Sink.writeAll_of_no_limit (written : Bytes) (pieces : List String) :
    Sink.writeAll { written } pieces =
      (true, { written := written ++ Bytes.ofString (String.join pieces) }) := by
  induction pieces generalizing written with
  | nil => simp [Sink.writeAll, Bytes.ofString]
  | cons piece pieces ih =>
    rw [String.join_cons, Bytes.ofString_append, ← List.append_assoc]
    exact ih (written ++ Bytes.ofString piece)

/-! ## Model steps -/

namespace Chunk

theorem modelMessages?_eq_some_iff {chunk : Chunk} {messages : List Message} :
    chunk.modelMessages? = some messages ↔ ("model", ⟨messages⟩) ∈ chunk.steps := by
  rw [modelMessages?, step?, Option.map_eq_some_iff, ← chunk.sorted.get?_eq_some_iff]
  constructor
  · rintro ⟨update, hupdate, rfl⟩
    exact hupdate
  · exact fun hupdate => ⟨_, hupdate, rfl⟩

theorem modelMessages?_eq_none_iff {chunk : Chunk} :
    chunk.modelMessages? = none ↔ ∀ step ∈ chunk.steps, step.1 ≠ "model" := by
  rw [modelMessages?, step?, Option.map_eq_none_iff, Keyed.get?_eq_none_iff, List.mem_map]
  constructor
  · exact fun h step hstep hname => h ⟨step, hstep, hname⟩
  · rintro h ⟨step, hstep, hname⟩
    exact h step hstep hname

end Chunk

namespace Transcript

variable {ε : Type}

/-! ## Frames -/

/-- The frame of the message shows these values, each under a header. -/
inductive ShowsValues : Message → List (String × Json) → Prop where
  | tool (result : ToolResult) :
      ShowsValues (.tool result) [("Tool Result:", (Message.tool result).toJson)]
  | function (name : String) (content : Json) :
      ShowsValues (.function name content)
        [("Function Result:", (Message.function name content).toJson)]
  | unknown (raw : Json) : ShowsValues (.unknown raw) [("Unknown message", raw)]
  | called (content : String) {calls : List ToolCall} (h : calls ≠ []) :
      ShowsValues (.assistant content calls) (calls.map fun call => ("Tool Call:", call.toJson))

/-- The headers and the bodies that the frame of the message has. The body is the text of the
message, or the text of a value that is shown. -/
inductive HasBlocks : Message → List (String × String) → Prop where
  | user (content : String) : HasBlocks (.user content) [("User Message:", content)]
  | assistant (content : String) : HasBlocks (.assistant content []) [("AI Message:", content)]
  | system (content : String) : HasBlocks (.system content) [("System Instruction:", content)]
  | values {message : Message} {values : List (String × Json)} (h : ShowsValues message values) :
      HasBlocks message (values.map fun shown => (shown.1, shown.2.toText))

theorem ShowsValues.blocks_eq {message : Message} {values : List (String × Json)}
    (h : ShowsValues message values) :
    blocks message = values.map fun shown => (shown.1, shown.2.toText) := by
  cases h with
  | tool | function | unknown => rfl
  | @called content calls h =>
    cases calls with
    | nil => exact absurd rfl h
    | cons call calls => simp [blocks]

theorem hasBlocks_blocks (message : Message) : HasBlocks message (blocks message) := by
  have hvalues {values : List (String × Json)} (h : ShowsValues message values) :
      HasBlocks message (blocks message) := h.blocks_eq ▸ .values h
  cases message with
  | user content => exact .user content
  | assistant content calls =>
    by_cases hcalls : calls = []
    · subst hcalls
      exact .assistant content
    · exact hvalues (.called content hcalls)
  | system content => exact .system content
  | tool result => exact hvalues (.tool result)
  | function name content => exact hvalues (.function name content)
  | unknown raw => exact hvalues (.unknown raw)

theorem hasBlocks_iff {message : Message} {shown : List (String × String)} :
    HasBlocks message shown ↔ blocks message = shown := by
  constructor
  · intro h
    cases h with
    | user | assistant | system => rfl
    | values h => exact h.blocks_eq
  · rintro rfl
    exact hasBlocks_blocks message

theorem forall₂_hasBlocks_iff {messages : List Message} {frames : List (List (String × String))} :
    List.Forall₂ HasBlocks messages frames ↔ messages.map blocks = frames := by
  have hrel : HasBlocks = fun message shown => blocks message = shown :=
    funext₂ fun _ _ => propext hasBlocks_iff
  rw [hrel, ← List.forall₂_map_left_iff, List.forall₂_eq_eq_eq]

/-- A header and a body, each with a line of its own at least. -/
def blockText (headed : String × String) : String :=
  headed.1 ++ "\n" ++ (headed.2 ++ "\n")

/-- Blocks between two lines of hyphens. -/
def framed (shown : List (String × String)) : String :=
  "------------------------------\n" ++ String.join (shown.map blockText) ++
    "------------------------------\n"

theorem join_flatMap {α : Type} (f : α → List String) (as : List α) :
    String.join (as.flatMap f) = String.join (as.map fun a => String.join (f a)) := by
  induction as with
  | nil => rfl
  | cons a as ih => rw [List.flatMap_cons, String.join_append, ih, List.map_cons, String.join_cons]

theorem join_frame (message : Message) : String.join (frame message) = framed (blocks message) := by
  have hblock : (fun headed => String.join (block headed)) = blockText := by
    funext headed
    simp [block, blockText]
  show _ = separator ++ String.join ((blocks message).map blockText) ++ separator
  rw [frame, List.cons_append, String.join_cons, String.join_append, join_flatMap, hblock,
    String.join_cons, String.join_nil, String.append_empty, String.append_assoc]

/-- The messages look the same: they are, or the assistant calls for the same tools in both. -/
inductive LooksLike : Message → Message → Prop where
  | refl (message : Message) : LooksLike message message
  | called (content content' : String) {calls : List ToolCall} (h : calls ≠ []) :
      LooksLike (.assistant content calls) (.assistant content' calls)

theorem LooksLike.blocks_eq {message message' : Message} (h : LooksLike message message') :
    blocks message = blocks message' := by
  cases h with
  | refl => rfl
  | called content content' h =>
    rw [(ShowsValues.called content h).blocks_eq, (ShowsValues.called content' h).blocks_eq]

theorem map_blocks_eq {messages messages' : List Message}
    (h : List.Forall₂ LooksLike messages messages') :
    messages.map blocks = messages'.map blocks := by
  induction h with
  | nil => rfl
  | cons hmessage _ ih => rw [List.map_cons, List.map_cons, hmessage.blocks_eq, ih]

/-! ## Streams -/

/-- What a transcript shows of a stream, and the error that ends it: the messages of the steps named
`model`, of which a chunk has one at most, up to the first error. -/
inductive Shows : List (Except ε Chunk) → List Message → Option ε → Prop where
  | done : Shows [] [] none
  | failed (e : ε) (rest : List (Except ε Chunk)) : Shows (.error e :: rest) [] (some e)
  | model {chunk : Chunk} {rest : List (Except ε Chunk)} {messages more : List Message}
      {failure : Option ε} (hstep : ("model", ⟨messages⟩) ∈ chunk.steps)
      (hrest : Shows rest more failure) : Shows (.ok chunk :: rest) (messages ++ more) failure
  | other {chunk : Chunk} {rest : List (Except ε Chunk)} {more : List Message}
      {failure : Option ε} (hsteps : ∀ step ∈ chunk.steps, step.1 ≠ "model")
      (hrest : Shows rest more failure) : Shows (.ok chunk :: rest) more failure

/-- The chunks before the first error. -/
def chunksBefore : List (Except ε Chunk) → List Chunk
  | .ok chunk :: rest => chunk :: chunksBefore rest
  | _ => []

def firstError? : List (Except ε Chunk) → Option ε
  | .ok _ :: rest => firstError? rest
  | .error e :: _ => some e
  | [] => none

/-- The messages that a transcript shows. -/
def shown (items : List (Except ε Chunk)) : List Message :=
  (chunksBefore items).flatMap fun chunk => chunk.modelMessages?.getD []

theorem shown_ok_cons (chunk : Chunk) (rest : List (Except ε Chunk)) :
    shown (.ok chunk :: rest) = chunk.modelMessages?.getD [] ++ shown rest := rfl

theorem shows_shown (items : List (Except ε Chunk)) :
    Shows items (shown items) (firstError? items) := by
  induction items with
  | nil => exact .done
  | cons item rest ih =>
    cases item with
    | error e => exact .failed e rest
    | ok chunk =>
      rw [shown_ok_cons]
      cases hmodel : chunk.modelMessages? with
      | none => exact .other (Chunk.modelMessages?_eq_none_iff.mp hmodel) ih
      | some messages => exact .model (Chunk.modelMessages?_eq_some_iff.mp hmodel) ih

theorem shows_iff {items : List (Except ε Chunk)} {messages : List Message} {failure : Option ε} :
    Shows items messages failure ↔ shown items = messages ∧ firstError? items = failure := by
  constructor
  · intro h
    induction h with
    | done | failed => exact ⟨rfl, rfl⟩
    | model hstep _ ih =>
      obtain ⟨rfl, rfl⟩ := ih
      rw [shown_ok_cons, Chunk.modelMessages?_eq_some_iff.mpr hstep]
      exact ⟨rfl, rfl⟩
    | other hsteps _ ih =>
      obtain ⟨rfl, rfl⟩ := ih
      rw [shown_ok_cons, Chunk.modelMessages?_eq_none_iff.mpr hsteps]
      exact ⟨rfl, rfl⟩
  · rintro ⟨rfl, rfl⟩
    exact shows_shown items

/-- The pieces in which the chunks before the first error are written. -/
def pieces (items : List (Except ε Chunk)) : List String :=
  (chunksBefore items).flatMap ofChunk

/-- A stream fails by its sink, if that cannot take the pieces, and else by its first error. -/
theorem render_eq_writeAll (sink : Sink) (items : List (Except ε Chunk)) :
    render sink items =
      match sink.writeAll (pieces items) with
      | (true, sink) => ((firstError? items).map .source, sink)
      | (false, sink) => (some .sinkFull, sink) := by
  induction items generalizing sink with
  | nil => rfl
  | cons item rest ih =>
    cases item with
    | error e => rfl
    | ok chunk =>
      rw [render, pieces, chunksBefore, List.flatMap_cons, Sink.writeAll_append]
      rcases sink.writeAll (ofChunk chunk) with ⟨_ | _, sink⟩
      · rfl
      · exact ih sink

theorem join_pieces (items : List (Except ε Chunk)) :
    String.join (pieces items) = String.join (((shown items).map blocks).map framed) := by
  have hpieces : pieces items = (shown items).flatMap frame := List.flatMap_assoc.symm
  rw [hpieces, join_flatMap, funext join_frame, List.map_map]
  rfl

theorem render_eq_of_no_limit (written : Bytes) (items : List (Except ε Chunk)) :
    render { written } items = ((firstError? items).map .source,
      { written :=
          written ++ Bytes.ofString (String.join (((shown items).map blocks).map framed)) }) := by
  rw [render_eq_writeAll, Sink.writeAll_of_no_limit, join_pieces]

/-- **A transcript shows the model steps up to the first error.** It consists of the frames of their
messages, one after the other, and ends with that error or without one. Streams that show messages
which look the same have the same transcript, whatever else they carry and however they end. -/
theorem render_of_no_limit (written : Bytes) (items : List (Except ε Chunk)) :
    (∀ outcome, render { written } items = outcome ↔ ∃ messages failure frames,
      Shows items messages failure ∧ List.Forall₂ HasBlocks messages frames ∧
      outcome = (failure.map .source,
        { written := written ++ Bytes.ofString (String.join (frames.map framed)) })) ∧
    ∀ {ε' : Type} {items' : List (Except ε' Chunk)} {messages messages' : List Message}
      {failure : Option ε} {failure' : Option ε'}, Shows items messages failure →
      Shows items' messages' failure' → List.Forall₂ LooksLike messages messages' →
      (render { written } items').2 = (render { written } items).2 := by
  constructor
  · intro outcome
    rw [render_eq_of_no_limit]
    constructor
    · rintro rfl
      exact ⟨_, _, _, shows_shown items, forall₂_hasBlocks_iff.mpr rfl, rfl⟩
    · rintro ⟨messages, failure, frames, hshows, hframes, rfl⟩
      obtain ⟨rfl, rfl⟩ := shows_iff.mp hshows
      rw [forall₂_hasBlocks_iff.mp hframes]
  · intro ε' items' messages messages' failure failure' hshows hshows' hlooks
    obtain ⟨rfl, -⟩ := shows_iff.mp hshows
    obtain ⟨rfl, -⟩ := shows_iff.mp hshows'
    rw [render_eq_of_no_limit, render_eq_of_no_limit, map_blocks_eq hlooks]

/-- The texts beside a call differ, and so do the tools steps, the ends of the streams and the chunks
in which the messages come. -/
theorem render_of_different_texts :
    let calls : List ToolCall := [⟨"f", .null, some "1"⟩]
    let others : List Message := [.system "b", .tool ⟨.bool true, "1", none, .error⟩]
    let items : List (Except String Chunk) := [
      .ok ((Chunk.tools [.user "a"]).withStep "model" (.assistant "a" calls :: others)),
      .error "no", .ok (.model [.user "a"])]
    let items' : List (Except Unit Chunk) :=
      [.ok (.tools []), .ok (.model [.assistant "c" calls]), .ok (.model others)]
    let rule := "------------------------------\n"
    let transcript :=
      rule ++ "Tool Call:\n\x7b\"name\":\"f\",\"args\":null,\"id\":\"1\"\x7d\n" ++ rule ++
      rule ++ "System Instruction:\nb\n" ++ rule ++
      rule ++ "Tool Result:\n\x7b\"role\":\"tool\",\"content\":true,\"tool_call_id\":\"1\"," ++
        "\"status\":\"error\"\x7d\n" ++ rule
    Shows items (.assistant "a" calls :: others) (some "no") ∧
    Shows items' (.assistant "c" calls :: others) none ∧
    List.Forall₂ LooksLike (.assistant "a" calls :: others) (.assistant "c" calls :: others) ∧
    render {} items = (some (.source "no"), { written := Bytes.ofString transcript }) ∧
    (render {} items').2 = (render {} items).2 := by
  intro calls others items items' rule transcript
  have hcalls : calls ≠ [] := List.cons_ne_nil _ _
  have hshows : Shows items ((.assistant "a" calls :: others) ++ []) (some "no") :=
    .model List.mem_cons_self (.failed ..)
  have hshows' : Shows items' ([.assistant "c" calls] ++ (others ++ [])) none :=
    .other (by decide) (.model List.mem_cons_self (.model List.mem_cons_self .done))
  have hlooks : List.Forall₂ LooksLike (.assistant "a" calls :: others)
      (.assistant "c" calls :: others) :=
    .cons (.called "a" "c" hcalls) (.cons (.refl _) (.cons (.refl _) .nil))
  let frames := [
    [("Tool Call:", "\x7b\"name\":\"f\",\"args\":null,\"id\":\"1\"\x7d")],
    [("System Instruction:", "b")],
    [("Tool Result:", "\x7b\"role\":\"tool\",\"content\":true,\"tool_call_id\":\"1\"," ++
      "\"status\":\"error\"\x7d")]]
  have hframes : List.Forall₂ HasBlocks (.assistant "a" calls :: others) frames :=
    .cons (.values (.called "a" hcalls)) (.cons (.system "b") (.cons (.values (.tool _)) .nil))
  have htext : String.join (frames.map framed) = transcript := by decide +kernel
  obtain ⟨hrender, hsame⟩ := render_of_no_limit [] items
  refine ⟨hshows, hshows', hlooks, (hrender _).mpr ⟨_, _, frames, hshows, hframes, ?_⟩,
    hsame hshows hshows' hlooks⟩
  rw [htext, List.nil_append, Option.map_some]

end Transcript

end ToolAgent
