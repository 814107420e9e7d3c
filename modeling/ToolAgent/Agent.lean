import ToolAgent.Completion.Usage
import ToolAgent.Conversation.Chunk
import ToolAgent.Tool.Basic

/-!
# Agent runs

An agent asks a provider for the next message of a conversation, runs the tools that the message
calls for, and goes on with their results until a message calls for none. A run is the list of what
happens in it, in order; provider, tools and fresh ids share a state of any type.
-/

namespace ToolAgent

/-- What a provider is asked to go on from. -/
structure CompletionRequest where
  system : String
  messages : List Message
  tools : List ToolSpec
deriving DecidableEq

/-- Gives the next message of a conversation, or fails with an `ε`. -/
abbrev Provider (σ ε : Type) := CompletionRequest → StateM σ (Except ε (Message × Usage))

structure Agent (σ ε : Type) where
  provider : Provider σ ε
  freshId : StateM σ String
  systemPrompt : String := ""
  tools : List (Tool σ) := []
  /-- The most provider calls for one reply. -/
  maxTurns : UInt64 := 25

/-- Why a run ends in an error. -/
inductive RunFailure (ε : Type) where
  | provider (e : ε)
  | turnLimit (limit : UInt64)

inductive RunEvent (ε : Type) where
  /-- The provider was asked. -/
  | asked (request : CompletionRequest)
  /-- A tool was run. -/
  | ran (tool : ToolSpec) (args : Json)
  /-- A chunk was handed out. -/
  | emitted (chunk : Chunk)
  | failed (failure : RunFailure ε)

namespace Agent

variable {σ ε : Type}

/-- A call may use a tool's own name or its wire name. -/
def answersTo (tool : ToolSpec) (name : String) : Bool :=
  tool.name = name || wireName tool.name = name

/-- The first tool that answers to the name. -/
def findTool? (agent : Agent σ ε) (name : String) : Option (Tool σ) :=
  agent.tools.find? fun tool => answersTo tool.toToolSpec name

/-- The message that answers a call. -/
def resultMessage (call : ToolCall) : Except AgentError Json → Message
  | .ok content => .toolSuccess (call.id.getD "") (some call.name) content
  | .error e => .toolFailure (call.id.getD "") (some call.name) ("Error: " ++ e.message)

/-- Runs the tool of a call, and answers the call whatever comes of it. -/
def runCall (agent : Agent σ ε) (call : ToolCall) : StateM σ (List (RunEvent ε) × Message) := do
  match agent.findTool? call.name with
  | none => return ([], resultMessage call (.error (.toolNotFound call.name)))
  | some tool =>
    let result ← tool.run call.args
    return ([.ran tool.toToolSpec call.args],
      resultMessage call (result.mapError ToolFailure.toAgentError))

/-- Runs calls in order. -/
def runCalls (agent : Agent σ ε) : List ToolCall → StateM σ (List (RunEvent ε) × List Message)
  | [] => return ([], [])
  | call :: calls => do
    let (events, message) ← agent.runCall call
    let (moreEvents, messages) ← agent.runCalls calls
    return (events ++ moreEvents, message :: messages)

/-- Gives each call without an id a fresh one. -/
def assignIds (agent : Agent σ ε) : List ToolCall → StateM σ (List ToolCall)
  | [] => return []
  | call :: calls => do
    let id ← match call.id with
      | some id => Pure.pure id
      | none => agent.freshId
    return { call with id := some id } :: (← agent.assignIds calls)

def assignMessageIds (agent : Agent σ ε) : Message → StateM σ Message
  | .assistant content calls => return .assistant content (← agent.assignIds calls)
  | message => return message

/-- The run from a conversation on, with so many provider calls left. -/
def turns (agent : Agent σ ε) : (left : Nat) → List Message → StateM σ (List (RunEvent ε))
  | 0, _ => return [.failed (.turnLimit agent.maxTurns)]
  | left + 1, messages => do
    let request : CompletionRequest :=
      ⟨agent.systemPrompt, messages, agent.tools.map Tool.toToolSpec⟩
    match ← agent.provider request with
    | .error e => return [.asked request, .failed (.provider e)]
    | .ok (reply, _) =>
      let reply ← agent.assignMessageIds reply
      let head := [.asked request, .emitted (.model [reply])]
      if reply.toolCalls.isEmpty then return head
      else
        let (events, results) ← agent.runCalls reply.toolCalls
        let rest ← agent.turns left (messages ++ reply :: results)
        return head ++ events ++ .emitted (.tools results) :: rest

/-- The run that answers a conversation. -/
def run (agent : Agent σ ε) (messages : List Message) : StateM σ (List (RunEvent ε)) :=
  agent.turns agent.maxTurns.toNat messages

end Agent

namespace RunEvent

variable {ε : Type}

/-- What a consumer of the run gets to see of an event. -/
def item? : RunEvent ε → Option (Except (RunFailure ε) Chunk)
  | emitted chunk => some (.ok chunk)
  | failed failure => some (.error failure)
  | _ => none

def request? : RunEvent ε → Option CompletionRequest
  | asked request => some request
  | _ => none

/-- The chunks of a run in order, and the failure that ends it, if one does. -/
def items (events : List (RunEvent ε)) : List (Except (RunFailure ε) Chunk) :=
  events.filterMap item?

/-- What the provider was asked in the course of a run. -/
def requests (events : List (RunEvent ε)) : List CompletionRequest :=
  events.filterMap request?

end RunEvent

end ToolAgent
