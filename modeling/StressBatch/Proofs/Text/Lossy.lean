import StressBatch.Proofs.Text.Utf8

/-!
# Broken UTF-8 does not spread

A reader that puts replacement characters for what is broken looks at no more bytes than belong to
what stands at the front, and an ASCII character is never part of anything that starts before it. So
a sequence can be cut in front of every ASCII character, and the parts can be read on their own.
-/

namespace StressBatch.Text.Utf8

variable {first b : UInt8} {low high x n : Nat} {rest bs after : Bytes} {c : Char} {s : String}

/-! ## The front of a sequence -/

/-- The number of bytes behind the first that belong to what stands at the front. -/
def Lead.tail : Lead → Nat
  | .char _ tail | .broken tail => tail

/-- The character that is read for what stands at the front, broken or not. -/
def Lead.shown : Lead → Char
  | .char c _ => c
  | .broken _ => '\uFFFD'

/-- Whether a sequence is empty or starts with an ASCII character. -/
def StartsAnew (bs : Bytes) : Prop := ∀ b ∈ bs.head?, b.toNat < 0x80

theorem continuation?_nil : continuation? low high [] = none := rfl

theorem continuation?_cons : continuation? low high (b :: rest) =
    if low ≤ b.toNat ∧ b.toNat ≤ high then some (b.toNat - 0x80) else none := rfl

theorem continuation?_of_startsAnew (hlow : 0x80 ≤ low) (h : StartsAnew after) :
    continuation? low high after = none := by
  cases after with
  | nil => rfl
  | cons b after =>
    have hb := h b rfl
    exact if_neg (by omega)

/-- A continuation byte is there, and it lies between the bounds. -/
theorem bounds_of_continuation? (hlow : 0x80 ≤ low) (h : continuation? low high bs = some x) :
    0 < bs.length ∧ low ≤ 0x80 + x ∧ 0x80 + x ≤ high := by
  cases bs with
  | nil => cases h
  | cons b bs =>
    rw [continuation?_cons] at h
    split at h
    · next hbounds =>
      obtain rfl := Option.some.inj h
      exact ⟨Nat.succ_pos _, by omega⟩
    · cases h

theorem secondOfThree_low (b : Nat) : 0x80 ≤ (secondOfThree b).1 := by
  unfold secondOfThree
  split
  · decide
  · split <;> decide

theorem secondOfFour_low (b : Nat) : 0x80 ≤ (secondOfFour b).1 := by
  unfold secondOfFour
  split
  · decide
  · split <;> decide

/-- What stands at the front is the same whatever follows, if that starts anew. -/
theorem lead_append (hafter : StartsAnew after) :
    lead first (rest ++ after) = lead first rest := by
  have hnone : continuation? 0x80 0xBF after = none :=
    continuation?_of_startsAnew (Nat.le_refl _) hafter
  have hthree : continuation? (secondOfThree first.toNat).1 (secondOfThree first.toNat).2 after =
      none := continuation?_of_startsAnew (secondOfThree_low _) hafter
  have hfour : continuation? (secondOfFour first.toNat).1 (secondOfFour first.toNat).2 after =
      none := continuation?_of_startsAnew (secondOfFour_low _) hafter
  -- a continuation byte is looked for at the first position where there is none
  match rest with
  | [] => simp only [lead, List.nil_append, hnone, hthree, hfour, continuation?_nil]
  | [x] =>
    simp only [lead, List.cons_append, List.nil_append, hnone, continuation?_cons,
      continuation?_nil, List.drop_succ_cons, List.drop_zero, List.drop_nil]
  | [x, y] =>
    simp only [lead, List.cons_append, List.nil_append, hnone, continuation?_cons,
      continuation?_nil, List.drop_succ_cons, List.drop_zero, List.drop_nil]
  | x :: y :: z :: more =>
    simp only [lead, List.cons_append, continuation?_cons, List.drop_succ_cons, List.drop_zero]

theorem toNat_ofNat_of_valid (h : n.isValidChar) : (Char.ofNat n).toNat = n := by
  unfold Char.ofNat
  rw [dif_pos h]
  rfl

/-- What can stand at the front: an ASCII character, or else something that takes no more bytes than
there are and is read as a character beyond ASCII. -/
theorem lead_cases (first : UInt8) (rest : Bytes) :
    first.toNat < 0x80 ∧ lead first rest = .char (Char.ofNat first.toNat) 0 ∨
      (lead first rest).tail ≤ rest.length ∧ 0x80 ≤ (lead first rest).shown.toNat := by
  have hbroken : 0x80 ≤ '\uFFFD'.toNat := by decide
  by_cases hone : first.toNat < 0x80
  · exact .inl ⟨hone, lead_ascii hone rest⟩
  refine .inr ?_
  unfold lead
  simp only [if_neg hone]
  by_cases htwo : 0xC2 ≤ first.toNat ∧ first.toNat ≤ 0xDF
  · simp only [if_pos htwo]
    cases hx : continuation? 0x80 0xBF rest with
    | none => exact ⟨Nat.zero_le _, hbroken⟩
    | some x =>
      have hxbounds := bounds_of_continuation? (Nat.le_refl _) hx
      have hvalid : ((first.toNat - 0xC0) * 64 + x).isValidChar := .inl (by omega)
      refine ⟨hxbounds.1, ?_⟩
      rw [Lead.shown, toNat_ofNat_of_valid hvalid]
      omega
  simp only [if_neg htwo]
  by_cases hthree : 0xE0 ≤ first.toNat ∧ first.toNat ≤ 0xEF
  · simp only [if_pos hthree]
    cases hx : continuation? (secondOfThree first.toNat).1 (secondOfThree first.toNat).2 rest with
    | none => exact ⟨Nat.zero_le _, hbroken⟩
    | some x =>
      have hxbounds := bounds_of_continuation? (secondOfThree_low _) hx
      cases hy : continuation? 0x80 0xBF (rest.drop 1) with
      | none => exact ⟨hxbounds.1, hbroken⟩
      | some y =>
        have hybounds := bounds_of_continuation? (Nat.le_refl _) hy
        rw [List.length_drop] at hybounds
        have hrange : 0x800 ≤ (first.toNat - 0xE0) * 4096 + x * 64 + y ∧
            ((first.toNat - 0xE0) * 4096 + x * 64 + y).isValidChar := by
          unfold secondOfThree at hxbounds
          unfold Nat.isValidChar
          split at hxbounds
          · omega
          · split at hxbounds <;> omega
        refine ⟨show 2 ≤ rest.length by omega, ?_⟩
        rw [Lead.shown, toNat_ofNat_of_valid hrange.2]
        omega
  simp only [if_neg hthree]
  by_cases hfour : 0xF0 ≤ first.toNat ∧ first.toNat ≤ 0xF4
  · simp only [if_pos hfour]
    cases hx : continuation? (secondOfFour first.toNat).1 (secondOfFour first.toNat).2 rest with
    | none => exact ⟨Nat.zero_le _, hbroken⟩
    | some x =>
      have hxbounds := bounds_of_continuation? (secondOfFour_low _) hx
      cases hy : continuation? 0x80 0xBF (rest.drop 1) with
      | none => exact ⟨hxbounds.1, hbroken⟩
      | some y =>
        have hybounds := bounds_of_continuation? (Nat.le_refl _) hy
        rw [List.length_drop] at hybounds
        cases hz : continuation? 0x80 0xBF (rest.drop 2) with
        | none => exact ⟨show 2 ≤ rest.length by omega, hbroken⟩
        | some z =>
          have hzbounds := bounds_of_continuation? (Nat.le_refl _) hz
          rw [List.length_drop] at hzbounds
          have hrange : 0x10000 ≤ (first.toNat - 0xF0) * 262144 + x * 4096 + y * 64 + z ∧
              ((first.toNat - 0xF0) * 262144 + x * 4096 + y * 64 + z).isValidChar := by
            unfold secondOfFour at hxbounds
            unfold Nat.isValidChar
            split at hxbounds
            · omega
            · split at hxbounds <;> omega
          refine ⟨show 3 ≤ rest.length by omega, ?_⟩
          rw [Lead.shown, toNat_ofNat_of_valid hrange.2]
          omega
  · simp only [if_neg hfour]
    exact ⟨Nat.zero_le _, hbroken⟩

theorem tail_le_length : (lead first rest).tail ≤ rest.length := by
  rcases lead_cases first rest with ⟨-, hlead⟩ | ⟨htail, -⟩
  · rw [hlead]
    exact Nat.zero_le _
  · exact htail

/-- An ASCII character is read for its own byte only. -/
theorem lead_of_shown (h : (lead first rest).shown = c) (hc : c.toNat < 0x80) :
    first.toNat = c.toNat ∧ (lead first rest).tail = 0 := by
  rcases lead_cases first rest with ⟨hfirst, hlead⟩ | ⟨-, hwide⟩
  · rw [hlead] at h ⊢
    have hvalid : first.toNat.isValidChar := .inl (by omega)
    rw [← h, Lead.shown, toNat_ofNat_of_valid hvalid]
    exact ⟨rfl, rfl⟩
  · rw [h] at hwide
    omega

/-! ## Whole sequences -/

theorem decodeLossyChars_nil : decodeLossyChars [] = [] := by rw [decodeLossyChars]

theorem decodeLossyChars_cons : decodeLossyChars (b :: rest) =
    (lead b rest).shown :: decodeLossyChars (rest.drop (lead b rest).tail) := by
  rw [decodeLossyChars]
  cases lead b rest <;> rfl

/-- A sequence is read from the front: it is empty, or the rest behind its front is a sequence. -/
theorem front_induction {motive : Bytes → Prop} (nil : motive [])
    (front : ∀ b rest, motive (rest.drop (lead b rest).tail) → motive (b :: rest)) :
    ∀ bs, motive bs
  | [] => nil
  | b :: rest => front b rest (front_induction nil front (rest.drop (lead b rest).tail))
termination_by bs => bs.length
decreasing_by rw [List.length_drop, List.length_cons]; omega

theorem decodeLossyChars_eq_nil_iff : decodeLossyChars bs = [] ↔ bs = [] := by
  cases bs with
  | nil => exact iff_of_true decodeLossyChars_nil rfl
  | cons b rest =>
    rw [decodeLossyChars_cons]
    exact iff_of_false (List.cons_ne_nil _ _) (List.cons_ne_nil _ _)

/-- A sequence can be cut where it starts anew. -/
theorem decodeLossyChars_append (hafter : StartsAnew after) (bs : Bytes) :
    decodeLossyChars (bs ++ after) = decodeLossyChars bs ++ decodeLossyChars after := by
  induction bs using front_induction with
  | nil => rw [decodeLossyChars_nil, List.nil_append, List.nil_append]
  | front b rest ih =>
    rw [List.cons_append, decodeLossyChars_cons, decodeLossyChars_cons, lead_append hafter,
      List.drop_append_of_le_length tail_le_length, ih, List.cons_append]

theorem decodeLossyChars_ascii (hb : b.toNat < 0x80) (rest : Bytes) :
    decodeLossyChars (b :: rest) = Char.ofNat b.toNat :: decodeLossyChars rest := by
  rw [decodeLossyChars_cons, lead_ascii hb]
  rfl

/-- Every ASCII character that is read was there. -/
theorem exists_mem_of_mem_decodeLossyChars (hc : c.toNat < 0x80) (h : c ∈ decodeLossyChars bs) :
    ∃ b ∈ bs, b.toNat = c.toNat := by
  induction bs using front_induction with
  | nil =>
    rw [decodeLossyChars_nil] at h
    contradiction
  | front b rest ih =>
    rw [decodeLossyChars_cons] at h
    rcases List.mem_cons.mp h with hshown | hmem
    · exact ⟨b, List.mem_cons_self, (lead_of_shown hshown.symm hc).1⟩
    · obtain ⟨other, hother, heq⟩ := ih hmem
      exact ⟨other, List.mem_cons_of_mem b (List.mem_of_mem_drop hother), heq⟩

/-- An ASCII character that is read last was the last one. -/
theorem exists_suffix_of_suffix_decodeLossyChars (hc : c.toNat < 0x80)
    (h : [c] <:+ decodeLossyChars bs) : ∃ b, [b] <:+ bs ∧ b.toNat = c.toNat := by
  induction bs using front_induction with
  | nil =>
    rw [decodeLossyChars_nil] at h
    exact absurd (List.suffix_nil.mp h) (List.cons_ne_nil c [])
  | front b rest ih =>
    rw [decodeLossyChars_cons] at h
    rcases List.suffix_cons_iff.mp h with hwhole | hsuffix
    · obtain ⟨hshown, hnil⟩ := List.cons.inj hwhole
      obtain ⟨hb, htail⟩ := lead_of_shown hshown.symm hc
      have hrest : rest = [] := by
        rw [htail, List.drop_zero] at hnil
        exact decodeLossyChars_eq_nil_iff.mp hnil.symm
      rw [hrest]
      exact ⟨b, List.suffix_rfl, hb⟩
    · obtain ⟨other, hother, heq⟩ := ih hsuffix
      have hmore : rest.drop (lead b rest).tail <:+ b :: rest :=
        (List.drop_suffix _ _).trans (List.suffix_cons b rest)
      exact ⟨other, hother.trans hmore, heq⟩

theorem decodeLossyChars_flatMap (cs : List Char) :
    decodeLossyChars (cs.flatMap encodeChar) = cs := by
  induction cs with
  | nil => exact decodeLossyChars_nil
  | cons c cs ih =>
    obtain ⟨first, tail, hchar, hlead⟩ := lead_encodeChar c (cs.flatMap encodeChar)
    rw [List.flatMap_cons, hchar, List.cons_append, decodeLossyChars_cons, hlead]
    exact congrArg (c :: ·) (by rw [Lead.tail, List.drop_left, ih])

/-- The bytes of a text are read as that text. -/
theorem decodeLossy_encode (s : String) : decodeLossy (encode s) = s := by
  rw [decodeLossy, encode, decodeLossyChars_flatMap, String.ofList_toList]

end StressBatch.Text.Utf8
