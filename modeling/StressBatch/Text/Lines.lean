import StressBatch.Text.Utf8

/-!
# Lines

A line ends at a line feed, and a carriage return right before that line feed belongs to the ending.
No other character ends a line: a lone carriage return or a Unicode line separator stays where it
is. The last line needs no ending, and an empty rest is no line.
-/

namespace StressBatch.Text

/-- The lines of a text given by its characters. -/
def lines : List Char → List (List Char)
  | [] => []
  | '\n' :: cs => [] :: lines cs
  | '\r' :: '\n' :: cs => [] :: lines cs
  | c :: cs =>
    match lines cs with
    | [] => [[c]]
    | l :: ls => (c :: l) :: ls

/-- The lines of captured output: the bytes are read as UTF-8, with replacement characters for what
is broken, and then cut into lines. -/
def linesOfBytes (bs : Bytes) : List String :=
  (lines (Utf8.decodeLossyChars bs)).map String.ofList

@[simp] theorem lines_nil : lines [] = [] := rfl

@[simp] theorem lines_newline (cs : List Char) : lines ('\n' :: cs) = [] :: lines cs := rfl

end StressBatch.Text
