import Mathlib.Algebra.Group.Nat.Defs
import StressBatch.Text.Blank
import StressBatch.Text.Decimal

/-!
# Numerals are read as they were written

The digits of a number, with or without zeros in front, have the number as their value.
-/

namespace StressBatch.Text

variable {c : Char} {cs rest : List Char} {n width start : Nat}

/-! ## Digits -/

theorem toNat_range_of_isDigit (h : c.isDigit = true) : 48 ≤ c.toNat ∧ c.toNat ≤ 57 := by
  simp only [Char.isDigit, Bool.and_eq_true, decide_eq_true_eq] at h
  exact ⟨h.1, h.2⟩

theorem digit?_of_isDigit (h : c.isDigit = true) : digit? c = some (c.toNat - 48) := by
  have hrange := toNat_range_of_isDigit h
  exact if_pos ⟨hrange.1, hrange.2⟩

theorem isWhite_of_visible (hlow : 0x20 < c.toNat) (hhigh : c.toNat < 0x7F) :
    isWhite c = false := by
  simp only [isWhite, Bool.or_eq_false_iff, Bool.and_eq_false_iff, decide_eq_false_iff_not,
    beq_eq_false_iff_ne]
  omega

theorem trimFront_of_visible (hlow : 0x20 < c.toNat) (hhigh : c.toNat < 0x7F) :
    trimFront (c :: cs) = c :: cs := by
  rw [trimFront, List.dropWhile_cons_of_neg]
  rw [isWhite_of_visible hlow hhigh]
  decide

theorem trimFront_of_digits (hdigits : ∀ c ∈ cs, c.isDigit = true) (hne : cs ≠ []) :
    trimFront (cs ++ rest) = cs ++ rest := by
  obtain ⟨first, others, rfl⟩ := List.exists_cons_of_ne_nil hne
  have hrange := toNat_range_of_isDigit (hdigits first List.mem_cons_self)
  exact trimFront_of_visible (by omega) (by omega)

theorem digitsFrom?_of_digits (hdigits : ∀ c ∈ cs, c.isDigit = true) (start : Nat) :
    digitsFrom? start cs = some (Nat.ofDigitChars 10 cs start) := by
  induction cs generalizing start with
  | nil => simp [digitsFrom?]
  | cons c cs ih =>
    have hfirst := digit?_of_isDigit (hdigits c List.mem_cons_self)
    rw [digitsFrom?, hfirst, Nat.ofDigitChars_cons, Nat.mul_comm 10]
    exact ih (fun other hother => hdigits other (List.mem_cons_of_mem c hother)) _

theorem digits?_of_digits (hdigits : ∀ c ∈ cs, c.isDigit = true) (hne : cs ≠ []) :
    digits? cs = some (Nat.ofDigitChars 10 cs 0) := by
  obtain ⟨first, others, rfl⟩ := List.exists_cons_of_ne_nil hne
  exact digitsFrom?_of_digits hdigits 0

/-- The digits at the front end where the first other character stands. -/
theorem takeWhile_digits (hdigits : ∀ c ∈ cs, c.isDigit = true)
    (hstop : ∀ c ∈ rest.head?, digit? c = none) :
    (cs ++ rest).takeWhile (fun c => (digit? c).isSome) = cs := by
  have hall : ∀ c ∈ cs, (digit? c).isSome = true := fun c hc => by
    rw [digit?_of_isDigit (hdigits c hc), Option.isSome_some]
  rw [List.takeWhile_append_of_pos hall]
  cases rest with
  | nil => simp
  | cons c rest => simp [hstop c rfl]

/-! ## Zeros in front -/

theorem toList_padded (width n : Nat) :
    (padded width n).toList =
      List.replicate (width - (Nat.toDigits 10 n).length) '0' ++ Nat.toDigits 10 n := by
  simp [padded, Nat.repr_eq_ofList_toDigits]

theorem isDigit_of_mem_padded (h : c ∈ (padded width n).toList) : c.isDigit = true := by
  rw [toList_padded] at h
  rcases List.mem_append.mp h with hzero | hdigit
  · rw [List.eq_of_mem_replicate hzero]
    rfl
  · exact Nat.isDigit_of_mem_toDigits (by decide) (Nat.le_refl 10) hdigit

theorem toList_padded_ne_nil (width n : Nat) : (padded width n).toList ≠ [] := by
  rw [toList_padded]
  exact List.append_ne_nil_of_right_ne_nil _ Nat.toDigits_ne_nil

theorem length_padded_le {bound : Nat} (hpos : 0 < bound) (hwidth : width ≤ bound)
    (h : n < 10 ^ bound) : (padded width n).toList.length ≤ bound := by
  have hlength := (Nat.length_toDigits_le_iff (by decide) hpos).mpr h
  rw [toList_padded, List.length_append, List.length_replicate]
  omega

theorem length_padded (hpos : 0 < width) (h : n < 10 ^ width) :
    (padded width n).toList.length = width := by
  have hle := length_padded_le hpos (Nat.le_refl width) h
  rw [toList_padded, List.length_append, List.length_replicate] at *
  omega

theorem ofDigitChars_padded (width n : Nat) :
    Nat.ofDigitChars 10 (padded width n).toList 0 = n := by
  rw [toList_padded, Nat.ofDigitChars_append, Nat.ofDigitChars_replicate_zero, Nat.mul_zero,
    Nat.ofDigitChars_ten_toDigits]

theorem digits?_padded (width n : Nat) : digits? (padded width n).toList = some n := by
  rw [digits?_of_digits (fun _ => isDigit_of_mem_padded) (toList_padded_ne_nil width n),
    ofDigitChars_padded]

/-! ## What is read as a number -/

theorem isDigit_of_digit? (h : (digit? c).isSome = true) : c.isDigit = true := by
  unfold digit? at h
  split at h
  · next hrange =>
    simp only [Char.isDigit, Bool.and_eq_true, decide_eq_true_eq]
    exact ⟨hrange.1, hrange.2⟩
  · contradiction

theorem isDigit_of_digitsFrom? (h : (digitsFrom? start cs).isSome = true) :
    ∀ c ∈ cs, c.isDigit = true := by
  induction cs generalizing start with
  | nil => simp
  | cons c cs ih =>
    unfold digitsFrom? at h
    cases hdigit : digit? c with
    | none => simp [hdigit] at h
    | some d =>
      simp only [hdigit] at h
      intro other hother
      rcases List.mem_cons.mp hother with rfl | hother
      · exact isDigit_of_digit? (by rw [hdigit]; rfl)
      · exact ih h other hother

theorem digits?_eq_some_iff : digits? cs = some n ↔
    cs ≠ [] ∧ (∀ c ∈ cs, c.isDigit = true) ∧ Nat.ofDigitChars 10 cs 0 = n := by
  constructor
  · intro h
    cases cs with
    | nil => simp [digits?] at h
    | cons c cs =>
      have hne : c :: cs ≠ [] := List.cons_ne_nil c cs
      have hvalue : digitsFrom? 0 (c :: cs) = some n := h
      have hdigits : ∀ other ∈ c :: cs, other.isDigit = true :=
        isDigit_of_digitsFrom? (Option.isSome_of_eq_some hvalue)
      rw [digits?_of_digits hdigits hne] at h
      exact ⟨hne, hdigits, Option.some.inj h⟩
  · rintro ⟨hne, hdigits, rfl⟩
    exact digits?_of_digits hdigits hne

/-- A text that is a number below `bound`: decimal digits, with at most one plus sign in front. -/
structure IsNumeral (bound : Nat) (s : String) (n : Nat) : Prop where
  lt_bound : n < bound
  spelled : ∃ cs, (s.toList = cs ∨ s.toList = '+' :: cs) ∧
    cs ≠ [] ∧ (∀ c ∈ cs, c.isDigit = true) ∧ Nat.ofDigitChars 10 cs 0 = n

theorem numeral?_eq_some_iff {bound : Nat} {s : String} :
    numeral? bound s = some n ↔ IsNumeral bound s n := by
  unfold numeral?
  simp only [Option.filter_eq_some_iff, decide_eq_true_eq]
  constructor
  · rintro ⟨hvalue, hlt⟩
    refine ⟨hlt, ?_⟩
    split at hvalue
    · next cs hs => exact ⟨cs, .inr hs, digits?_eq_some_iff.mp hvalue⟩
    · next cs hs => exact ⟨s.toList, .inl rfl, digits?_eq_some_iff.mp hvalue⟩
  · rintro ⟨hlt, cs, hs, hdigits⟩
    refine ⟨?_, hlt⟩
    rcases hs with hs | hs
    · -- a plus sign is no digit, so it does not stand in front of these
      split
      · next rest hplus =>
        have hsign : '+' ∈ cs := by
          rw [← hs, hplus]
          exact List.mem_cons_self
        exact absurd (hdigits.2.1 '+' hsign) (by decide)
      · rw [hs]
        exact digits?_eq_some_iff.mpr hdigits
    · rw [hs]
      exact digits?_eq_some_iff.mpr hdigits

/-! ## Printed numbers -/

theorem toList_toString (n : Nat) : (toString n).toList = Nat.toDigits 10 n := by
  simp [Nat.repr_eq_ofList_toDigits]

theorem isDigit_of_mem_toString (h : c ∈ (toString n).toList) : c.isDigit = true := by
  rw [toList_toString] at h
  exact Nat.isDigit_of_mem_toDigits (by decide) (Nat.le_refl 10) h

/-- A number is read back from its text. -/
theorem numeral?_toString {bound : Nat} (h : n < bound) :
    numeral? bound (toString n) = some n := by
  refine numeral?_eq_some_iff.mpr ⟨h, Nat.toDigits 10 n, .inl (toList_toString n), ?_, ?_, ?_⟩
  · exact Nat.toDigits_ne_nil
  · intro c hc
    rw [← toList_toString] at hc
    exact isDigit_of_mem_toString hc
  · exact Nat.ofDigitChars_ten_toDigits

end StressBatch.Text
