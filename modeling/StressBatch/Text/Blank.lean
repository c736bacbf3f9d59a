/-!
# Blank text

The characters with the Unicode property `White_Space`, and the texts made of nothing else. Result
lines and required settings are checked against this notion of blankness: a zero-width space or a
NUL does not count as blank, a no-break space does.
-/

namespace StressBatch.Text

/-- Whether a character has the Unicode property `White_Space`. -/
def isWhite (c : Char) : Bool :=
  let n := c.toNat
  (9 ≤ n && n ≤ 13) || n == 0x20 || n == 0x85 || n == 0xA0 || n == 0x1680 ||
    (0x2000 ≤ n && n ≤ 0x200A) || n == 0x2028 || n == 0x2029 || n == 0x202F || n == 0x205F ||
    n == 0x3000

/-- Whether a text is empty or made of white space only. -/
def isBlank (s : String) : Bool :=
  s.toList.all isWhite

/-- The characters left once the white space in front is dropped. -/
def trimFront (cs : List Char) : List Char :=
  cs.dropWhile isWhite

/-- The characters left once the white space at the end is dropped. -/
def trimBack (cs : List Char) : List Char :=
  (cs.reverse.dropWhile isWhite).reverse

@[simp] theorem isBlank_empty : isBlank "" = true := rfl

@[simp] theorem isBlank_append (s t : String) : isBlank (s ++ t) = (isBlank s && isBlank t) := by
  simp [isBlank]

theorem isBlank_iff {s : String} : isBlank s = true ↔ ∀ c ∈ s.toList, isWhite c = true := by
  simp [isBlank]

end StressBatch.Text
