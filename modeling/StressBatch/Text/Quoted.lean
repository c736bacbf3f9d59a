import StressBatch.Text.Printable

/-!
# Quoted text

Texts for a reader, between double quotes. A quote and a backslash get a backslash in front, the
usual control characters are written as escapes, and any other character that is not printable is
written by its code point.
-/

namespace StressBatch.Text

/-- The digits of a code point, lower case. -/
def hexDigits (n : Nat) : List Char := Nat.toDigits 16 n

/-- A character within quotes. -/
def quotedChar (c : Char) : List Char :=
  if c = '"' then ['\\', '"']
  else if c = '\\' then ['\\', '\\']
  else if c = '\n' then ['\\', 'n']
  else if c = '\r' then ['\\', 'r']
  else if c = '\t' then ['\\', 't']
  else if c = '\x00' then ['\\', '0']
  else if isPrintable c then [c]
  else ['\\', 'u', '\x7b'] ++ hexDigits c.toNat ++ ['\x7d']

/-- A text between quotes. -/
def quoted (s : String) : String :=
  "\"" ++ String.ofList (s.toList.flatMap quotedChar) ++ "\""

/-- A list of quoted texts. -/
def quotedList (texts : List String) : String :=
  "[" ++ String.intercalate ", " (texts.map quoted) ++ "]"

end StressBatch.Text
