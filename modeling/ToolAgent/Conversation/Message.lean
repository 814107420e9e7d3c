import ToolAgent.Conversation.ToolCall

/-!
# Messages of a conversation

Known kinds are told apart by their `role`. Any other value is kept as it is, so that every JSON
value is a message.
-/

namespace ToolAgent

inductive ToolStatus where
  | success
  | error
deriving DecidableEq, Repr

/-- The answer to a tool call. -/
structure ToolResult where
  content : Json
  callId : String
  name : Option String := none
  status : ToolStatus := .success
deriving DecidableEq

inductive Message where
  | user (content : String)
  | assistant (content : String) (toolCalls : List ToolCall)
  | system (content : String)
  | tool (result : ToolResult)
  | function (name : String) (content : Json)
  | unknown (raw : Json)
deriving DecidableEq

namespace Message

def toolCalls : Message → List ToolCall
  | assistant _ calls => calls
  | _ => []

/-- The text of the kinds that are plain text. -/
def text? : Message → Option String
  | user content | assistant content _ | system content => some content
  | _ => none

def toolSuccess (callId : String) (name : Option String) (content : Json) : Message :=
  tool { content, callId, name }

def toolFailure (callId : String) (name : Option String) (text : String) : Message :=
  tool { content := .str text, callId, name, status := .error }

end Message

def ToolStatus.toJson : ToolStatus → Json
  | success => .str "success"
  | error => .str "error"

namespace Message

def toJson : Message → Json
  | user content => .obj [("role", .str "user"), ("content", .str content)]
  | assistant content calls =>
    .obj ([("role", .str "assistant"), ("content", .str content)] ++
      if calls.isEmpty then [] else [("tool_calls", .arr (calls.map ToolCall.toJson))])
  | system content => .obj [("role", .str "system"), ("content", .str content)]
  | tool result =>
    .obj ([
      ("role", .str "tool"),
      ("content", result.content),
      ("tool_call_id", .str result.callId)] ++
      Json.memberOf? "name" .str result.name ++
      [("status", result.status.toJson)])
  | function name content =>
    .obj [("role", .str "function"), ("name", .str name), ("content", content)]
  | unknown raw => raw

end Message

section Reading

open Json (Decoder RecordField Fields Misfit)

/-- A status is its name, alone or as the only key of an object with nothing under it. -/
def ToolStatus.decoder : Decoder ToolStatus :=
  .ofFit fun
    | .str name => named name
    | .obj [(name, .null)] | .obj [(name, .obj [])] => named name
    | .obj [(_, v)] => .error (.invalidType (.ofJson v) "unit")
    | .obj _ => .error (.invalidValue .map "map with a single key")
    | v => .error (.invalidType (.ofJson v) "string or map")
where
  named (name : String) : Except Misfit ToolStatus :=
    if name = "success" then .ok .success
    else if name = "error" then .ok .error
    else .error (.unknownVariant name ["success", "error"])

namespace Message

/-- Text that may be null or missing, which is the empty text. -/
def contentField : RecordField String :=
  .withDefault "content" (.nullable .string "") ""

def textFields : Fields (String × Unit) (Option String × Unit) :=
  .cons contentField .nil

def assistantFields :
    Fields (String × List ToolCall × Unit) (Option String × Option (List ToolCall) × Unit) :=
  .cons contentField <|
  .cons (.withDefault "tool_calls" (.nullable (.list ToolCall.decoder) []) []) .nil

def toolFields :
    Fields (Json × String × Option String × ToolStatus × Unit)
      (Option Json × Option String × Option (Option String) × Option ToolStatus × Unit) :=
  .cons (.required "content" .any) <|
  .cons (.required "tool_call_id" .string) <|
  .cons (.withDefault "name" (.option .string) none) <|
  .cons (.withDefault "status" ToolStatus.decoder .success) .nil

def functionFields : Fields (String × Json × Unit) (Option String × Option Json × Unit) :=
  .cons (.required "name" .string) <| .cons (.required "content" .any) .nil

/-- The kinds of message and the roles that name them. -/
inductive Kind where
  | user
  | assistant
  | system
  | tool
  | function
deriving DecidableEq, Repr

def Kind.ofRole? (role : String) : Option Kind :=
  if role = "user" || role = "human" then some .user
  else if role = "assistant" || role = "ai" then some .assistant
  else if role = "system" then some .system
  else if role = "tool" then some .tool
  else if role = "function" then some .function
  else none

/-- The message of a kind, given a way to find its fields. -/
def ofKind? (kind : Kind)
    (fields : {τ σ : Type} → Fields τ σ → Option τ) : Option Message :=
  match kind with
  | .user => (fields textFields).map fun (content, ()) => user content
  | .assistant => (fields assistantFields).map fun (content, calls, ()) => assistant content calls
  | .system => (fields textFields).map fun (content, ()) => system content
  | .tool => (fields toolFields).map fun (content, callId, name, status, ()) =>
      tool { content, callId, name, status }
  | .function => (fields functionFields).map fun (name, content, ()) => function name content

/-- A message of a known kind. In an array the role comes first and the fields follow in order. -/
def ofKnown? : Json → Option Message
  | .obj members => do
    let kind ← Kind.ofRole? (← (← Keyed.get? "role" members).asString?)
    ofKind? kind fun fs => (fs.ofMembers members).toOption
  | .arr (.str role :: items) => do
    let kind ← Kind.ofRole? role
    ofKind? kind fun fs =>
      match fs.ofItems "fields" 0 items with
      | .ok (a, []) => some a
      | _ => none
  | _ => none

def ofJson (v : Json) : Message :=
  (ofKnown? v).getD (unknown v)

def decoder : Decoder Message :=
  .ofFit fun v => .ok (ofJson v)

end Message

end Reading

end ToolAgent
