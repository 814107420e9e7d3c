import ToolAgent.CommandLine.Options
import ToolAgent.Gateway.Client
import ToolAgent.ObjectId
import ToolAgent.Text.ControlSequence
import ToolAgent.Tool.Weather
import ToolAgent.Transcript

/-!
# The command line program

It answers one message by way of a gateway, with the weather tool at hand, and writes the transcript
of the reply. A run is a function of the arguments and the environment.
-/

namespace ToolAgent

/-- What a run of the program leaves behind. -/
structure Outcome where
  code : UInt32 := 0
  output : Bytes := []
  diagnostics : String := ""
deriving DecidableEq, Repr

namespace Program

def name : String := "vmx-agent"

def version : String := "0.1.0"

def about : String :=
  "Tool-calling agent over a VMX completion routing gateway, with a console transcript renderer"

/-- What the assistant is told of itself, ahead of the conversation. -/
def agentPrompt : String := "You are a helpful assistant"

section Text

open CommandLine

/-- What failed, when settings cannot be read. -/
def settingsFailure : String := "Failed to read gateway settings"

def versionText : String :=
  name ++ " " ++ version ++ "\n"

/-- What the flag sets, and its value if it is not given. -/
def flagText (flag : Flag) : String :=
  flag.description ++ (Options.default? flag).elim "" fun value => " [default: \"" ++ value ++ "\"]"

/-- What the program is, how it is called, and its flags. -/
def helpText : String :=
  let entry (letter : Option Char) (usage description : String) : String :=
    let lead := match letter with
      | some c => "  -" ++ c.toString ++ ", "
      | none => "      "
    lead ++ usage ++ "\n          " ++ description ++ "\n"
  about ++ "\n\nUsage: " ++ name ++ " [OPTIONS]\n\nOptions:\n" ++
    String.join (Flag.all.map fun f => entry f.letter? f.usage (flagText f)) ++
    String.join (Query.all.map fun q => entry (some q.letter) q.usage q.description)

/-- Says what is wrong with the arguments. Without styles, control sequences in the arguments are
not shown either. -/
def usageText (isStyled : Bool) (e : UsageError) : String :=
  let text := Style.paint isStyled .alarm "error:" ++ " " ++ e.message isStyled ++
    "\n\nFor more information, try '" ++ Style.paint isStyled .literal Query.help.usage ++ "'.\n"
  if isStyled then text else Text.withoutControls text

/-- Says where the answer is asked for. -/
def callingText (isStyled : Bool) (config : GatewayConfig) : String :=
  Style.paint isStyled .dim "Calling" ++ " " ++ Style.paint isStyled .cyan config.baseUrl ++ "\n"

/-- A text behind a label, its further lines indented as far as the label reaches. -/
def labelled (label text : String) : String :=
  let indent := String.ofList (List.replicate label.length ' ')
  label ++ String.join (text.toList.map fun c => if c = '\n' then "\n" ++ indent else c.toString)

/-- A cause with its number, which takes up five columns. -/
def numbered (n : Nat) (cause : String) : String :=
  let digits := toString n
  labelled (String.ofList (List.replicate (5 - digits.length) ' ') ++ digits ++ ": ") cause

/-- Says what failed, and why. Only several causes are numbered. -/
def failureText (text : String) (causes : List String) : String :=
  let heading := "Error: " ++ text
  match causes with
  | [] => heading ++ "\n"
  | [cause] => heading ++ "\n\nCaused by:\n" ++ labelled "    " cause ++ "\n"
  | causes =>
    heading ++ "\n\nCaused by:\n" ++
      "\n".intercalate (causes.mapIdx numbered) ++ "\n"

end Text

section Failure

/-- The text of a failure and those of its causes. -/
def explain : Transcript.Failure (RunFailure GatewayFailure) → String × List String
  | .sinkFull => ("the transcript could not be written", [])
  | .source (.provider e) => (e.message, e.causes)
  | .source (.turnLimit n) => ((AgentError.turnLimitExceeded n).message, [])

end Failure

section Styles

/-- The variable that asks for styles where there is no terminal. -/
def stylesName : String := "CLICOLOR_FORCE"

/-- The variable that asks for none where arguments are refused. -/
def noStylesName : String := "NO_COLOR"

def styleNames : List String :=
  [stylesName, noStylesName]

/-- The value by which styles are not asked for. -/
def noStyles : String := "0"

/-- Whether refused arguments are reported with styles. -/
def stylesUsage (env : Environment) : Bool :=
  (env.value? noStylesName).all List.isEmpty &&
    (env.value? stylesName).any (· ≠ Bytes.ofString noStyles)

/-- Whether the gateway that is called is reported with styles. -/
def stylesCalling (env : Environment) : Bool :=
  (env.text? stylesName).any (· ≠ noStyles)

end Styles

variable {σ : Type}

def agent (config : GatewayConfig) (transport : Transport σ) (freshId : StateM σ String) :
    Agent σ GatewayFailure where
  provider := Gateway.provider config transport
  freshId := freshId
  systemPrompt := agentPrompt
  tools := [Weather.tool]

/-- Answers the conversation that the options describe, after saying where. -/
def answer (transport : Transport σ) (freshId : StateM σ String) (config : GatewayConfig)
    (calling : String) (conversation : List Message) : StateM σ Outcome := do
  let events ← (agent config transport freshId).run conversation
  let (failure, sink) := Transcript.render {} (RunEvent.items events)
  match failure with
  | none => return { output := sink.written, diagnostics := calling }
  | some failure =>
    let (text, causes) := explain failure
    return { code := 1, output := sink.written, diagnostics := calling ++ failureText text causes }

def run (transport : Transport σ) (freshId : StateM σ String) (env : Environment)
    (args : List String) : StateM σ Outcome := do
  match CommandLine.Invocation.ofArgs args with
  | .error e => return { code := 2, diagnostics := usageText (stylesUsage env) e }
  | .ok (.query .help) => return { output := Bytes.ofString helpText }
  | .ok (.query .version) => return { output := Bytes.ofString versionText }
  | .ok (.run options) =>
    match options.config env with
    | .error e => return { code := 1, diagnostics := failureText settingsFailure [e.message] }
    | .ok config =>
      let calling := callingText (stylesCalling env) config
      answer transport freshId config calling options.conversation

end Program

end ToolAgent
