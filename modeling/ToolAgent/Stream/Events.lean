import ToolAgent.Text.Utf8

/-!
# Events of a byte stream

A stream is cut into events at its blank lines, carriage returns being left out of account. The
payload of an event is what its `data:` lines carry. Only whole events are decoded, so it does not
matter where the bytes were cut on their way.
-/

namespace ToolAgent.Stream

open Bytes (lineFeed)

def carriageReturn : UInt8 := 0x0D

/-- The events that a blank line ends, and the bytes after the last of these. The first argument is
the event in progress, backwards. -/
def splitEvents (held : Bytes) : Bytes → List Bytes × Bytes
  | [] => ([], held.reverse)
  | [b] => ([], (b :: held).reverse)
  | a :: b :: bs =>
    if a = lineFeed ∧ b = lineFeed then
      let (events, rest) := splitEvents [] bs
      ((b :: a :: held).reverse :: events, rest)
    else splitEvents (a :: held) (b :: bs)

def dataField : Bytes := Bytes.ofString "data:"

/-- What a `data:` line carries, without the one space that may follow the colon. -/
def lineData? (line : Bytes) : Option Bytes :=
  if dataField.isPrefixOf line then
    match line.drop dataField.length with
    | [] => some []
    | b :: bs => some (if b = 0x20 then bs else b :: bs)
  else none

/-- The lines of data of an event, joined by line feeds. An event without any has no payload. -/
def payload? (event : Bytes) : Option String :=
  match (Bytes.lines event).filterMap lineData? with
  | [] => none
  | datas => some (Bytes.toStringLossy ([lineFeed].intercalate datas))

/-- A reader of events: what it keeps is the beginning of the next event. -/
structure EventReader where
  buffer : Bytes := []
deriving DecidableEq, Repr

namespace EventReader

/-- Takes bytes in, and gives the payloads of the events that they complete. -/
def push (reader : EventReader) (bytes : Bytes) : List String × EventReader :=
  let (events, rest) := splitEvents [] (reader.buffer ++ bytes.filter (· != carriageReturn))
  (events.filterMap payload?, ⟨rest⟩)

/-- Takes what is left as the last event. -/
def finish (reader : EventReader) : Option String × EventReader :=
  (payload? reader.buffer, {})

end EventReader

end ToolAgent.Stream
