import ToolAgent.Tool.Basic

/-!
# The weather tool

It knows one answer, and asks only for the name of a city.
-/

namespace ToolAgent.Weather

def report (city : String) : String :=
  "It's always sunny in " ++ city ++ "!"

def spec : ToolSpec where
  name := "get_weather"
  description := "Get weather for a given city."
  parameters := .object [
    ("type", .str "object"),
    ("properties", .object [
      ("city", .object [
        ("type", .str "string"),
        ("description", .str "The city to get the weather for")])]),
    ("required", .arr [.str "city"])]

def answer (args : Json) : Except ToolFailure Json :=
  match args.getString? "city" with
  | some city => .ok (.str (report city))
  | none => .error (.agent (.invalidParameters "city must be a string"))

def tool {σ : Type} : Tool σ :=
  .pure spec answer

end ToolAgent.Weather
