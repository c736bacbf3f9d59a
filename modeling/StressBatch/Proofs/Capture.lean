import StressBatch.Process
import StressBatch.Proofs.Text.Lines

/-!
# Captured output is read line by line

Whatever a process writes, what is wrong with one line of it stays on that line: its neighbours are
read as if it were not there, and a line of sound text is read as it was written.
-/

namespace StressBatch.Capture

open Text Text.Utf8

/-- How lines are read from bytes. -/
structure ReadsByLine (read : Bytes → List String) : Prop where
  /-- What stands behind a line feed has no part in what stands in front of it, and the other way
  round. -/
  parted : ∀ before after,
    read (before ++ lineFeed :: after) = read (before ++ [lineFeed]) ++ read after
  /-- The lines are cut out of the bytes, and each is read from its own bytes. -/
  bytewise : ∀ bs, read bs = (byteLines bs).map decodeLossy
  /-- Whatever the bytes of a line are, they make one line, and the lines before and behind it are
  those that stand there without it. -/
  confined : ∀ before line after, (∀ b ∈ before.getLast?, b = lineFeed) → lineFeed ∉ line →
    read (before ++ line ++ lineFeed :: after) =
      read before ++ decodeLossy (dropEnd carriageReturn line) :: read after
  /-- A line that is the text `s` in UTF-8 is read as `s`, if it is ended by a line feed and also if
  it is the last one and is not. -/
  verbatim : ∀ before s after, (∀ b ∈ before.getLast?, b = lineFeed) → lineFeed ∉ encode s →
    (encode s).getLast? ≠ some carriageReturn →
    read (before ++ encode s ++ lineFeed :: after) = read before ++ s :: read after ∧
      (s ≠ "" → read (before ++ encode s) = read before ++ [s])

/-- Captured output is read line by line, without cross-talk. -/
theorem captured_line_by_line (stream : String) :
    ReadsByLine fun bs => (Capture.bytes bs).lines stream where
  parted before after := linesOfBytes_append_feed before after
  bytewise := linesOfBytes_eq
  confined before line after hbefore hline := by
    have hread := linesOfBytes_append hbefore (line ++ lineFeed :: after)
    rw [linesOfBytes_of_feed hline, ← List.append_assoc] at hread
    exact hread
  verbatim before s after hbefore hfeed hreturn := by
    have hkept : dropEnd carriageReturn (encode s) = encode s :=
      dropEnd_of_not_suffix (mt List.singleton_suffix_iff_getLast?_eq_some.mp hreturn)
    have hread := linesOfBytes_append hbefore (encode s ++ lineFeed :: after)
    rw [linesOfBytes_of_feed hfeed, hkept, decodeLossy_encode, ← List.append_assoc] at hread
    refine ⟨hread, fun hs => ?_⟩
    have hlast := linesOfBytes_append hbefore (encode s)
    rw [linesOfBytes_of_no_feed hfeed, if_neg (encode_ne_nil hs), decodeLossy_encode] at hlast
    exact hlast

/-- A stray byte, a sequence cut short by the line feed and a surrogate, each on its line. -/
example : linesOfBytes
      [0x6F, 0x6B, 0x0D, 0x0A, 0xFF, 0x0A, 0xE2, 0x82, 0x0A, 0xED, 0xA0, 0x80, 0x0A, 0x65] =
    ["ok", "\uFFFD", "\uFFFD", "\uFFFD\uFFFD\uFFFD", "e"] := by
  cbv

end StressBatch.Capture
