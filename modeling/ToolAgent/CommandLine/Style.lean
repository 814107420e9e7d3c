/-!
# Styles

How parts of a message are set off on a terminal, and with what control sequences.
-/

namespace ToolAgent.CommandLine

inductive Style where
  /-- What a message is about. -/
  | alarm
  /-- What is wrong. -/
  | invalid
  /-- What is to be written as it stands. -/
  | literal
  | dim
  | cyan
deriving DecidableEq, Repr

namespace Style

/-- The sequences that begin a style. -/
def start : Style → String
  | alarm => "\x1b[1m\x1b[31m"
  | invalid => "\x1b[33m"
  | literal => "\x1b[1m"
  | dim => "\x1b[2m"
  | cyan => "\x1b[36m"

/-- The sequence that ends any style. -/
def reset : String := "\x1b[0m"

/-- A text in a style, or as it is if there are no styles. -/
def paint (isStyled : Bool) (style : Style) (text : String) : String :=
  if isStyled then style.start ++ text ++ reset else text

end Style

end ToolAgent.CommandLine
