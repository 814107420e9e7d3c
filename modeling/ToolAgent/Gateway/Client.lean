import ToolAgent.Agent
import ToolAgent.Completion.Accumulator
import ToolAgent.Completion.Reply
import ToolAgent.Completion.Request
import ToolAgent.Gateway.Config
import ToolAgent.Gateway.Exchange
import ToolAgent.Stream.Events

/-!
# Completions from a gateway

The provider that asks a gateway: it builds the payload of the request, reads the reply, streamed or
in one piece, and says what went wrong if it is no completion.
-/

namespace ToolAgent.Gateway

section Request

/-- The system prompt as the first entry, unless it is empty. -/
def systemEntries (system : String) : List Json :=
  if system = "" then []
  else [.object [("role", .str "system"), ("content", .str system)]]

/-- The member of the payload that carries the routing extension. -/
def extensionKey : String := "vmx"

/-- The members of a payload beside model, messages and streaming. -/
def optionalMembers (config : GatewayConfig) (tools : List Json) : List (String × Json) :=
  (if tools.isEmpty then [] else [("tools", .arr tools)]) ++
    Json.memberOf? "temperature" (fun t => .ofFloat t.toFloat) config.temperature ++
    Json.memberOf? "max_tokens" .ofInt32 config.maxTokens ++
    Json.memberOf? extensionKey (fun e => e.toJson.canonical)
      (config.extension.filter (!·.isEmpty))

def payload (config : GatewayConfig) (request : CompletionRequest) : Except GatewayFailure Json :=
  (toolEntries [] request.tools).map fun tools =>
    .object ([
      ("model", .str config.model),
      ("messages", .arr (systemEntries request.system ++ conversationEntries request.messages)),
      ("stream", .bool true),
      ("stream_options", .object [("include_usage", .bool true)])] ++
      optionalMembers config tools)

def httpRequest (config : GatewayConfig) (payload : Json) : HttpRequest where
  url := config.completionsUrl
  authorization := config.apiKey.map ("Bearer " ++ ·)
  body := payload.toText

end Request

section Reply

/-- The failure of a connection to `url` that breaks within a body. -/
def broken (url : String) : GatewayFailure :=
  .transport url .brokenBody

/-- Takes the beginning of an event that is left when a stream ends. -/
def readRest (reader : Stream.EventReader) (acc : Accumulator) :
    Except GatewayFailure Accumulator :=
  acc.takeAll reader.finish.1.toList

/-- Reads a stream piece by piece, and no further than the piece in which it says it is done. -/
def readStream (url : String) (isCut : Bool) (reader : Stream.EventReader) (acc : Accumulator) :
    List Bytes → Except GatewayFailure Accumulator
  | [] => if isCut then .error (broken url) else readRest reader acc
  | piece :: pieces => do
    let (payloads, reader) := reader.push piece
    let acc ← acc.takeAll payloads
    if acc.isDone then readRest reader acc else readStream url isCut reader acc pieces

/-- The JSON value in a body. -/
def readJson (url : String) (reply : HttpReply) : Except GatewayFailure Json :=
  if reply.isCut then .error (broken url)
  else (Json.parseBytes reply.arriving.flatten).mapError .unreadableBody

/-- The response in the body of a successful reply. -/
def readBody (url : String) (reply : HttpReply) : Except GatewayFailure Json :=
  if reply.isEventStream then
    (readStream url reply.isCut {} {} reply.arriving).map Accumulator.toResponse
  else readJson url reply

/-- The failure that a reply without success reports; a body that cannot be read reports nothing. -/
def refusal (url : String) (reply : HttpReply) : GatewayFailure :=
  let body := (readJson url reply).toOption.getD .null
  match body.get? "error" with
  | none => .refused reply.status none
  | some error =>
    match tooLongText? error with
    | some text => .inputTooLong text
    | none => .refused reply.status (some ((error.getString? "message").getD "Unknown error"))

/-- The message and the usage in a response. -/
def readResponse (response : Json) : Except GatewayFailure (Message × Usage) :=
  match response.get? "error" with
  | some error =>
    .error (match tooLongText? error with
      | some text => .inputTooLong text
      | none => .replyError error)
  | none => (Message.ofResponse response).map fun message => (message, .ofResponse response)

def readReply (url : String) (reply : HttpReply) : Except GatewayFailure (Message × Usage) :=
  if reply.status = 200 then (readBody url reply).bind readResponse
  else .error (refusal url reply)

end Reply

variable {σ : Type}

/-- The provider of a configured gateway. -/
def provider (config : GatewayConfig) (transport : Transport σ) : Provider σ GatewayFailure :=
  fun request => do
    match payload config request with
    | .error failure => return .error failure
    | .ok payload =>
      let http := httpRequest config payload
      match http.destination with
      | .error failure => return .error (.transport http.url failure)
      | .ok url =>
        match ← transport http with
        | .error failure => return .error (.transport url.text failure)
        | .ok reply => return readReply url.text reply

end ToolAgent.Gateway
