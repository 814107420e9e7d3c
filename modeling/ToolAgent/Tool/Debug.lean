import ToolAgent.Tool.Basic
import ToolAgent.Json.Printer
import ToolAgent.Text.Quoted

/-!
# Diagnostic form of a tool

A tool is shown by its specification, in a form that tells the kinds of JSON value apart.
-/

namespace ToolAgent

namespace Json

mutual

def debug : Json → String
  | null => "Null"
  | bool b => s!"Bool({b})"
  | num n => "Number(" ++ String.ofList n.print ++ ")"
  | str s => "String(" ++ Text.quoted s ++ ")"
  | arr items => "Array [" ++ ", ".intercalate (debugItems items) ++ "]"
  | obj members => "Object \x7b" ++ ", ".intercalate (debugMembers members) ++ "\x7d"

def debugItems : List Json → List String
  | [] => []
  | v :: rest => debug v :: debugItems rest

def debugMembers : List (String × Json) → List String
  | [] => []
  | (k, v) :: rest => (Text.quoted k ++ ": " ++ debug v) :: debugMembers rest

end

end Json

def ToolSpec.debug (tool : ToolSpec) : String :=
  "Tool \x7b name: " ++ Text.quoted tool.name ++ ", description: " ++
    Text.quoted tool.description ++ ", parameters: " ++ tool.parameters.debug ++
    ", function: \"<function>\" \x7d"

end ToolAgent
