import ToolAgent.Conversation.Message

/-!
# Chunks of a streamed reply

A chunk carries the messages that one step of the agent has produced, under the name of the step.
Its steps are kept in the order of their names.
-/

namespace ToolAgent

structure StepUpdate where
  messages : List Message
deriving DecidableEq

structure Chunk where
  steps : List (String × StepUpdate)
  sorted : Keyed.Sorted steps
deriving DecidableEq

namespace Chunk

def modelStep : String := "model"

def toolsStep : String := "tools"

def empty : Chunk := ⟨[], Keyed.sorted_nil⟩

instance : Inhabited Chunk := ⟨empty⟩

def ofSteps (steps : List (String × StepUpdate)) : Chunk :=
  ⟨Keyed.ofList steps, Keyed.sorted_ofList steps⟩

/-- Adds the messages of a step, or replaces them. -/
def withStep (chunk : Chunk) (step : String) (messages : List Message) : Chunk :=
  ⟨Keyed.insert step ⟨messages⟩ chunk.steps, chunk.sorted.insert step ⟨messages⟩⟩

def model (messages : List Message) : Chunk :=
  empty.withStep modelStep messages

def tools (messages : List Message) : Chunk :=
  empty.withStep toolsStep messages

def step? (chunk : Chunk) (step : String) : Option (List Message) :=
  (Keyed.get? step chunk.steps).map StepUpdate.messages

def modelMessages? (chunk : Chunk) : Option (List Message) :=
  chunk.step? modelStep

@[simp] theorem modelMessages?_model (messages : List Message) :
    (model messages).modelMessages? = some messages := rfl

@[simp] theorem modelMessages?_tools (messages : List Message) :
    (tools messages).modelMessages? = none := rfl

/-- The messages of all steps of a chunk. -/
def messages (chunk : Chunk) : List Message :=
  chunk.steps.flatMap fun step => step.2.messages

@[simp] theorem messages_model (messages : List Message) :
    (model messages).messages = messages := List.append_nil messages

@[simp] theorem messages_tools (messages : List Message) :
    (tools messages).messages = messages := List.append_nil messages

end Chunk

def StepUpdate.toJson (update : StepUpdate) : Json :=
  .obj [("messages", .arr (update.messages.map Message.toJson))]

def Chunk.toJson (chunk : Chunk) : Json :=
  .obj (chunk.steps.map fun (step, update) => (step, update.toJson))

def StepUpdate.decoder : Json.Decoder StepUpdate :=
  (Json.Decoder.record "StepUpdate" <|
    .cons (.withDefault "messages" (.list Message.decoder) []) .nil).map
  fun (messages, ()) => { messages }

def Chunk.decoder : Json.Decoder Chunk :=
  (Json.Decoder.members StepUpdate.decoder).map Chunk.ofSteps

end ToolAgent
