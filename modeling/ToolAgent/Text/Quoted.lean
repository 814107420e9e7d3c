import ToolAgent.Text.Unprintable
import ToolAgent.Text.Utf8

/-!
# Quoted text

The form in which diagnostics show a string: between double quotes, with escapes for the quote, the
backslash and everything a reader would not see.
-/

namespace ToolAgent.Text

/-- A natural number in hexadecimal, lowercase and without leading zeros. -/
def hexDigits (n : Nat) : String :=
  String.ofList (Nat.toDigits 16 n)

def hexByteUpper (b : UInt8) : String :=
  let digits := (Nat.toDigits 16 b.toNat).map Char.toUpper
  String.ofList (if digits.length < 2 then '0' :: digits else digits)

def quotedChar (c : Char) : String :=
  match c with
  | '"' => "\\\""
  | '\\' => "\\\\"
  | '\n' => "\\n"
  | '\r' => "\\r"
  | '\t' => "\\t"
  | '\x00' => "\\0"
  | c => if isUnprintable c then "\\u\x7b" ++ hexDigits c.toNat ++ "\x7d" else c.toString

def quoted (s : String) : String :=
  "\"" ++ String.join (s.toList.map quotedChar) ++ "\""

def quotedPiece : Utf8.Piece → String
  | .char c => quotedChar c
  | .illFormed bytes => String.join (bytes.map fun b => "\\x" ++ hexByteUpper b)

/-- Bytes that need not be UTF-8: those outside a character are shown by their values. -/
def quotedBytes (bs : Bytes) : String :=
  "\"" ++ String.join ((Utf8.scan none bs).map quotedPiece) ++ "\""

end ToolAgent.Text
