import StressBatch.Proofs.Text.Lossy
import StressBatch.Text.Lines

/-!
# Lines of bytes

Lines are told apart by the line feeds among the bytes alone, and every line is then read from its
own bytes. A sequence that is cut short by a line feed does not swallow it, and no replacement
character stands for bytes of two lines.
-/

namespace StressBatch.Text

open Utf8

/-! ## The end of a list -/

section Ends

variable {α : Type} [DecidableEq α] {a : α} {xs : List α}

/-- A list less one certain element, if that is its last. -/
def dropEnd (a : α) (xs : List α) : List α := if [a] <:+ xs then xs.dropLast else xs

theorem dropEnd_concat (a : α) (xs : List α) : dropEnd a (xs ++ [a]) = xs := by
  rw [dropEnd, if_pos (List.suffix_append xs [a]), List.dropLast_concat]

theorem dropEnd_of_not_suffix (h : ¬[a] <:+ xs) : dropEnd a xs = xs := if_neg h

theorem dropEnd_cons_cons (a x y : α) (xs : List α) :
    dropEnd a (x :: y :: xs) = x :: dropEnd a (y :: xs) := by
  have hne : [a] ≠ x :: y :: xs := by simp
  have hsuffix : [a] <:+ x :: y :: xs ↔ [a] <:+ y :: xs := by
    rw [List.suffix_cons_iff, or_iff_right hne]
  unfold dropEnd
  simp only [hsuffix]
  split <;> rfl

end Ends

/-! ## Lines of characters -/

section Chars

variable {c : Char} {cs ds : List Char}

/-- A character that has no part in the end of a line goes to the front of the next line. -/
theorem lines_cons (hfeed : c ≠ '\n') (hreturn : c = '\r' → cs.head? ≠ some '\n') :
    lines (c :: cs) =
      match lines cs with
      | [] => [[c]]
      | l :: ls => (c :: l) :: ls := by
  have hpair : ∀ rest, c = '\r' → cs = '\n' :: rest → False := by
    rintro rest rfl rfl
    exact hreturn rfl rfl
  exact lines.eq_4 c cs hfeed hpair

theorem lines_of_feed (hcs : '\n' ∉ cs) :
    lines (cs ++ '\n' :: ds) = dropEnd '\r' cs :: lines ds := by
  induction cs with
  | nil => rfl
  | cons c cs ih =>
    have hc : c ≠ '\n' := fun h => hcs (h ▸ List.mem_cons_self)
    have hrest : '\n' ∉ cs := fun h => hcs (List.mem_cons_of_mem c h)
    cases cs with
    | nil =>
      by_cases hreturn : c = '\r'
      · subst hreturn
        rfl
      · have hkept : dropEnd '\r' [c] = [c] := dropEnd_of_not_suffix (by
          rw [List.singleton_suffix_iff_getLast?_eq_some]
          simpa using hreturn)
        rw [List.singleton_append, lines_cons hc (fun h => absurd h hreturn), lines_newline, hkept]
    | cons d cs =>
      have hhead : (d :: cs ++ '\n' :: ds).head? ≠ some '\n' := by
        rintro ⟨⟩
        exact hrest List.mem_cons_self
      rw [List.cons_append, lines_cons hc (fun _ => hhead), ih hrest, dropEnd_cons_cons]

theorem lines_of_no_feed (hcs : '\n' ∉ cs) : lines cs = if cs = [] then [] else [cs] := by
  induction cs with
  | nil => rfl
  | cons c cs ih =>
    have hc : c ≠ '\n' := fun h => hcs (h ▸ List.mem_cons_self)
    have hrest : '\n' ∉ cs := fun h => hcs (List.mem_cons_of_mem c h)
    have hhead : cs.head? ≠ some '\n' := fun h => hrest (List.mem_of_mem_head? h)
    rw [lines_cons hc (fun _ => hhead), ih hrest, if_neg (List.cons_ne_nil c cs)]
    cases cs <;> rfl

end Chars

/-! ## Lines of bytes -/

/-- The line feed. -/
def lineFeed : UInt8 := 0x0A

/-- The carriage return. -/
def carriageReturn : UInt8 := 0x0D

/-- The stretches of bytes that make a line each: what stands in front of every line feed, less a
carriage return at its end, and what stands behind the last line feed if there is anything. -/
def byteLines (bs : Bytes) : List Bytes :=
  let pieces := bs.splitOn lineFeed
  pieces.dropLast.map (dropEnd carriageReturn) ++ pieces.getLast?.toList.filter (· ≠ [])

section Bytes

variable {bs line rest : Bytes}

theorem byteLines_of_feed (h : lineFeed ∉ line) :
    byteLines (line ++ lineFeed :: rest) = dropEnd carriageReturn line :: byteLines rest := by
  obtain ⟨piece, pieces, hpieces⟩ := List.exists_cons_of_ne_nil (List.splitOn_ne_nil lineFeed rest)
  unfold byteLines
  rw [List.splitOn_append_cons_self_of_not_mem h, hpieces]
  rfl

theorem byteLines_of_no_feed (h : lineFeed ∉ bs) : byteLines bs = if bs = [] then [] else [bs] := by
  unfold byteLines
  rw [List.splitOn_eq_singleton h]
  by_cases hbs : bs = []
  · rw [hbs]
    rfl
  · simp [hbs]

/-- Bytes are one stretch without a line feed, or such a stretch, a line feed and more bytes. -/
theorem line_induction {motive : Bytes → Prop} (last : ∀ bs, lineFeed ∉ bs → motive bs)
    (line : ∀ line rest, lineFeed ∉ line → motive rest → motive (line ++ lineFeed :: rest))
    (bs : Bytes) : motive bs := by
  by_cases h : lineFeed ∈ bs
  · obtain ⟨front, rest, hbs, hfront⟩ := List.eq_append_cons_of_mem h
    rw [hbs]
    exact line front rest hfront (line_induction last line rest)
  · exact last bs h
termination_by bs.length
decreasing_by
  rw [hbs, List.length_append, List.length_cons]
  omega

theorem feed_not_mem_decode (h : lineFeed ∉ bs) : '\n' ∉ decodeLossyChars bs := by
  intro hmem
  obtain ⟨b, hb, heq⟩ := exists_mem_of_mem_decodeLossyChars (by decide) hmem
  have hfeed : b = lineFeed := UInt8.toNat_inj.mp heq
  exact h (hfeed ▸ hb)

theorem decodeLossyChars_dropEnd (bs : Bytes) :
    dropEnd '\r' (decodeLossyChars bs) = decodeLossyChars (dropEnd carriageReturn bs) := by
  by_cases h : [carriageReturn] <:+ bs
  · obtain ⟨front, rfl⟩ := h
    have hreturn : decodeLossyChars [carriageReturn] = ['\r'] := by
      rw [decodeLossyChars_ascii (by decide), decodeLossyChars_nil]
      rfl
    have hanew : StartsAnew [carriageReturn] := by
      rintro b ⟨⟩
      decide
    rw [decodeLossyChars_append hanew, hreturn, dropEnd_concat, dropEnd_concat]
  · have hchars : ¬['\r'] <:+ decodeLossyChars bs := by
      intro hsuffix
      obtain ⟨b, hb, heq⟩ := exists_suffix_of_suffix_decodeLossyChars (by decide) hsuffix
      have hreturn : b = carriageReturn := UInt8.toNat_inj.mp heq
      exact h (hreturn ▸ hb)
    rw [dropEnd_of_not_suffix hchars, dropEnd_of_not_suffix h]

theorem linesOfBytes_of_feed (h : lineFeed ∉ line) : linesOfBytes (line ++ lineFeed :: rest) =
    decodeLossy (dropEnd carriageReturn line) :: linesOfBytes rest := by
  have hanew : StartsAnew (lineFeed :: rest) := by
    rintro b ⟨⟩
    decide
  have hfeed : decodeLossyChars (lineFeed :: rest) = '\n' :: decodeLossyChars rest :=
    decodeLossyChars_ascii (by decide) rest
  unfold linesOfBytes
  rw [decodeLossyChars_append hanew, hfeed, lines_of_feed (feed_not_mem_decode h),
    decodeLossyChars_dropEnd]
  rfl

theorem linesOfBytes_of_no_feed (h : lineFeed ∉ bs) :
    linesOfBytes bs = if bs = [] then [] else [decodeLossy bs] := by
  unfold linesOfBytes
  rw [lines_of_no_feed (feed_not_mem_decode h)]
  simp only [decodeLossyChars_eq_nil_iff]
  split <;> rfl

theorem linesOfBytes_nil : linesOfBytes [] = [] := linesOfBytes_of_no_feed List.not_mem_nil

/-- Bytes are cut into lines first, and each line is then read on its own. -/
theorem linesOfBytes_eq (bs : Bytes) : linesOfBytes bs = (byteLines bs).map decodeLossy := by
  induction bs using line_induction with
  | last bs h =>
    rw [linesOfBytes_of_no_feed h, byteLines_of_no_feed h]
    split <;> rfl
  | line line rest h ih =>
    rw [linesOfBytes_of_feed h, byteLines_of_feed h, ih, List.map_cons]

theorem linesOfBytes_append_feed (bs rest : Bytes) : linesOfBytes (bs ++ lineFeed :: rest) =
    linesOfBytes (bs ++ [lineFeed]) ++ linesOfBytes rest := by
  induction bs using line_induction with
  | last bs h =>
    rw [linesOfBytes_of_feed h, linesOfBytes_of_feed h, linesOfBytes_nil, List.singleton_append]
  | line line bs h ih =>
    rw [List.append_assoc, List.cons_append, linesOfBytes_of_feed h, ih, List.append_assoc,
      List.cons_append, linesOfBytes_of_feed h, List.cons_append]

/-- What ends with a line is read without regard to what follows. -/
theorem linesOfBytes_append (h : ∀ b ∈ bs.getLast?, b = lineFeed) (rest : Bytes) :
    linesOfBytes (bs ++ rest) = linesOfBytes bs ++ linesOfBytes rest := by
  rcases List.eq_nil_or_concat bs with rfl | ⟨front, b, hbs⟩
  · rw [linesOfBytes_nil, List.nil_append, List.nil_append]
  · rw [List.concat_eq_append] at hbs
    obtain rfl : b = lineFeed := h b (by rw [hbs, List.getLast?_concat]; rfl)
    rw [hbs, List.append_assoc, List.singleton_append, linesOfBytes_append_feed]

end Bytes

end StressBatch.Text
