import ToolAgent.Conversation.Chunk
import ToolAgent.Json.Printer
import ToolAgent.Text.Utf8

/-!
# Console transcript of a reply

Only the messages of model steps are shown, each in a frame of separator lines with a header that
names its kind. A sink that takes no more bytes ends the transcript at the byte where it was full.
-/

namespace ToolAgent

namespace Transcript

def separator : String :=
  "------------------------------\n"

/-- Headers and bodies for a message. An assistant's text is not shown beside tool calls. -/
def blocks (message : Message) : List (String × String) :=
  match message with
  | .user content => [("User Message:", content)]
  | .assistant content [] => [("AI Message:", content)]
  | .assistant _ calls => calls.map fun call => ("Tool Call:", call.toJson.toText)
  | .system content => [("System Instruction:", content)]
  | .tool _ => [("Tool Result:", message.toJson.toText)]
  | .function .. => [("Function Result:", message.toJson.toText)]
  | .unknown raw => [("Unknown message", raw.toText)]

def block (headed : String × String) : List String :=
  [headed.1 ++ "\n", headed.2 ++ "\n"]

/-- The pieces in which a message is written. -/
def frame (message : Message) : List String :=
  separator :: (blocks message).flatMap block ++ [separator]

/-- The pieces in which a chunk is written. -/
def ofChunk (chunk : Chunk) : List String :=
  (chunk.modelMessages?.getD []).flatMap frame

end Transcript

/-- Takes bytes while there is room, which may be unlimited. -/
structure Sink where
  written : Bytes := []
  room : Option Nat := none
deriving DecidableEq, Repr

namespace Sink

/-- Writes what there is room for, and says whether that was all. -/
def write (sink : Sink) (bytes : Bytes) : Bool × Sink :=
  match sink.room with
  | none => (true, { sink with written := sink.written ++ bytes })
  | some room =>
    (bytes.length ≤ room, ⟨sink.written ++ bytes.take room, some (room - bytes.length)⟩)

/-- Writes pieces up to the first that does not fit. -/
def writeAll (sink : Sink) : List String → Bool × Sink
  | [] => (true, sink)
  | piece :: pieces =>
    match sink.write (Bytes.ofString piece) with
    | (true, sink) => sink.writeAll pieces
    | (false, sink) => (false, sink)

end Sink

namespace Transcript

variable {ε : Type}

/-- Why a transcript ends early. -/
inductive Failure (ε : Type) where
  | sinkFull
  | source (e : ε)
deriving DecidableEq

/-- Writes the chunks of a stream as they come, up to its first error. -/
def render (sink : Sink) : List (Except ε Chunk) → Option (Failure ε) × Sink
  | [] => (none, sink)
  | .error e :: _ => (some (.source e), sink)
  | .ok chunk :: rest =>
    match sink.writeAll (ofChunk chunk) with
    | (true, sink) => render sink rest
    | (false, sink) => (some .sinkFull, sink)

end Transcript

end ToolAgent
