import StressBatch.Text.Utf8

/-!
# UTF-8 reads back what it wrote

Every character is written as a form that `lead` takes for that very character, whatever stands
behind it; so a text decodes to itself. Longer forms start with greater bytes, so that the bytes of
texts come in the same order as their characters.
-/

namespace StressBatch.Text.Utf8

variable {c : Char} {x low high : Nat} {rest : Bytes}

/-! ## One character -/

theorem toNat_ofNat_of_lt (h : x < 256) : (UInt8.ofNat x).toNat = x :=
  UInt8.toNat_ofNat_of_lt' h

theorem continuation?_ofNat (rest : Bytes) (hx : x < 64) (hlow : low ≤ 0x80 + x)
    (hhigh : 0x80 + x ≤ high) :
    continuation? low high (UInt8.ofNat (0x80 + x) :: rest) = some x := by
  have hbyte : (UInt8.ofNat (0x80 + x)).toNat = 0x80 + x := toNat_ofNat_of_lt (by omega)
  rw [continuation?, hbyte, if_pos ⟨hlow, hhigh⟩, Nat.add_sub_cancel_left]

/-- The code points of characters leave out the surrogates and end with the last plane. -/
theorem toNat_range (c : Char) : c.toNat < 0xD800 ∨ 0xDFFF < c.toNat ∧ c.toNat < 0x110000 :=
  c.valid

theorem encodeChar_one (h : c.toNat < 0x80) : encodeChar c = [UInt8.ofNat c.toNat] := by
  simp only [encodeChar, if_pos h]

theorem encodeChar_two (hlow : 0x80 ≤ c.toNat) (hhigh : c.toNat < 0x800) :
    encodeChar c = [UInt8.ofNat (0xC0 + c.toNat / 64), UInt8.ofNat (0x80 + c.toNat % 64)] := by
  simp only [encodeChar, if_neg (Nat.not_lt.mpr hlow), if_pos hhigh]

theorem encodeChar_three (hlow : 0x800 ≤ c.toNat) (hhigh : c.toNat < 0x10000) :
    encodeChar c = [UInt8.ofNat (0xE0 + c.toNat / 4096), UInt8.ofNat (0x80 + c.toNat / 64 % 64),
      UInt8.ofNat (0x80 + c.toNat % 64)] := by
  have hsmall : ¬c.toNat < 0x80 := by omega
  simp only [encodeChar, if_neg hsmall, if_neg (Nat.not_lt.mpr hlow), if_pos hhigh]

theorem encodeChar_four (hlow : 0x10000 ≤ c.toNat) :
    encodeChar c = [UInt8.ofNat (0xF0 + c.toNat / 262144),
      UInt8.ofNat (0x80 + c.toNat / 4096 % 64), UInt8.ofNat (0x80 + c.toNat / 64 % 64),
      UInt8.ofNat (0x80 + c.toNat % 64)] := by
  have hsmall : ¬c.toNat < 0x80 := by omega
  have hmiddle : ¬c.toNat < 0x800 := by omega
  simp only [encodeChar, if_neg hsmall, if_neg hmiddle, if_neg (Nat.not_lt.mpr hlow)]

theorem lead_two (hlow : 0x80 ≤ c.toNat) (hhigh : c.toNat < 0x800) :
    lead (UInt8.ofNat (0xC0 + c.toNat / 64)) (UInt8.ofNat (0x80 + c.toNat % 64) :: rest) =
      .char c 1 := by
  have hbyte : (UInt8.ofNat (0xC0 + c.toNat / 64)).toNat = 0xC0 + c.toNat / 64 :=
    toNat_ofNat_of_lt (by omega)
  have hvalue : (0xC0 + c.toNat / 64 - 0xC0) * 64 + c.toNat % 64 = c.toNat := by omega
  have hfirst : ¬0xC0 + c.toNat / 64 < 0x80 := by omega
  have hform : 0xC2 ≤ 0xC0 + c.toNat / 64 ∧ 0xC0 + c.toNat / 64 ≤ 0xDF := by omega
  have hlast := continuation?_ofNat rest (Nat.mod_lt c.toNat (by decide : 0 < 64))
    (Nat.le_add_right 0x80 _) (by omega : 0x80 + c.toNat % 64 ≤ 0xBF)
  simp only [lead, hbyte, if_neg hfirst, if_pos hform, hlast, hvalue, Char.ofNat_toNat]

theorem lead_three (hlow : 0x800 ≤ c.toNat) (hhigh : c.toNat < 0x10000) :
    lead (UInt8.ofNat (0xE0 + c.toNat / 4096)) (UInt8.ofNat (0x80 + c.toNat / 64 % 64) ::
      UInt8.ofNat (0x80 + c.toNat % 64) :: rest) = .char c 2 := by
  have hbyte : (UInt8.ofNat (0xE0 + c.toNat / 4096)).toNat = 0xE0 + c.toNat / 4096 :=
    toNat_ofNat_of_lt (by omega)
  have hvalue : (0xE0 + c.toNat / 4096 - 0xE0) * 4096 + c.toNat / 64 % 64 * 64 + c.toNat % 64 =
      c.toNat := by omega
  have hfirst : ¬0xE0 + c.toNat / 4096 < 0x80 := by omega
  have hnotTwo : ¬(0xC2 ≤ 0xE0 + c.toNat / 4096 ∧ 0xE0 + c.toNat / 4096 ≤ 0xDF) := by omega
  have hform : 0xE0 ≤ 0xE0 + c.toNat / 4096 ∧ 0xE0 + c.toNat / 4096 ≤ 0xEF := by omega
  -- The bounds of the second byte leave out what is short enough for two bytes, and the surrogates.
  have hbounds : (secondOfThree (0xE0 + c.toNat / 4096)).1 ≤ 0x80 + c.toNat / 64 % 64 ∧
      0x80 + c.toNat / 64 % 64 ≤ (secondOfThree (0xE0 + c.toNat / 4096)).2 := by
    have hrange := toNat_range c
    unfold secondOfThree
    split
    · omega
    · split <;> omega
  have hsecond := continuation?_ofNat (UInt8.ofNat (0x80 + c.toNat % 64) :: rest)
    (Nat.mod_lt (c.toNat / 64) (by decide : 0 < 64)) hbounds.1 hbounds.2
  have hlast := continuation?_ofNat rest (Nat.mod_lt c.toNat (by decide : 0 < 64))
    (Nat.le_add_right 0x80 _) (by omega : 0x80 + c.toNat % 64 ≤ 0xBF)
  simp only [lead, hbyte, if_neg hfirst, if_neg hnotTwo, if_pos hform, hsecond,
    List.drop_succ_cons, List.drop_zero, hlast, hvalue, Char.ofNat_toNat]

theorem lead_four (hlow : 0x10000 ≤ c.toNat) :
    lead (UInt8.ofNat (0xF0 + c.toNat / 262144)) (UInt8.ofNat (0x80 + c.toNat / 4096 % 64) ::
      UInt8.ofNat (0x80 + c.toNat / 64 % 64) :: UInt8.ofNat (0x80 + c.toNat % 64) :: rest) =
      .char c 3 := by
  have hrange := toNat_range c
  have hbyte : (UInt8.ofNat (0xF0 + c.toNat / 262144)).toNat = 0xF0 + c.toNat / 262144 :=
    toNat_ofNat_of_lt (by omega)
  have hvalue : (0xF0 + c.toNat / 262144 - 0xF0) * 262144 + c.toNat / 4096 % 64 * 4096 +
      c.toNat / 64 % 64 * 64 + c.toNat % 64 = c.toNat := by omega
  have hfirst : ¬0xF0 + c.toNat / 262144 < 0x80 := by omega
  have hnotTwo : ¬(0xC2 ≤ 0xF0 + c.toNat / 262144 ∧ 0xF0 + c.toNat / 262144 ≤ 0xDF) := by omega
  have hnotThree : ¬(0xE0 ≤ 0xF0 + c.toNat / 262144 ∧ 0xF0 + c.toNat / 262144 ≤ 0xEF) := by omega
  have hform : 0xF0 ≤ 0xF0 + c.toNat / 262144 ∧ 0xF0 + c.toNat / 262144 ≤ 0xF4 := by omega
  have hbounds : (secondOfFour (0xF0 + c.toNat / 262144)).1 ≤ 0x80 + c.toNat / 4096 % 64 ∧
      0x80 + c.toNat / 4096 % 64 ≤ (secondOfFour (0xF0 + c.toNat / 262144)).2 := by
    unfold secondOfFour
    split
    · omega
    · split <;> omega
  have hsecond := continuation?_ofNat
    (UInt8.ofNat (0x80 + c.toNat / 64 % 64) :: UInt8.ofNat (0x80 + c.toNat % 64) :: rest)
    (Nat.mod_lt (c.toNat / 4096) (by decide : 0 < 64)) hbounds.1 hbounds.2
  have hthird := continuation?_ofNat (UInt8.ofNat (0x80 + c.toNat % 64) :: rest)
    (Nat.mod_lt (c.toNat / 64) (by decide : 0 < 64)) (Nat.le_add_right 0x80 _)
    (by omega : 0x80 + c.toNat / 64 % 64 ≤ 0xBF)
  have hlast := continuation?_ofNat rest (Nat.mod_lt c.toNat (by decide : 0 < 64))
    (Nat.le_add_right 0x80 _) (by omega : 0x80 + c.toNat % 64 ≤ 0xBF)
  simp only [lead, hbyte, if_neg hfirst, if_neg hnotTwo, if_neg hnotThree, if_pos hform, hsecond,
    List.drop_succ_cons, List.drop_zero, hthird, hlast, hvalue, Char.ofNat_toNat]

/-- A character is written as a first byte and a tail that `lead` takes for it. -/
theorem lead_encodeChar (c : Char) (rest : Bytes) :
    ∃ first tail, encodeChar c = first :: tail ∧
      lead first (tail ++ rest) = .char c tail.length := by
  by_cases hone : c.toNat < 0x80
  · have hbyte : (UInt8.ofNat c.toNat).toNat = c.toNat := toNat_ofNat_of_lt (by omega)
    refine ⟨UInt8.ofNat c.toNat, [], encodeChar_one hone, ?_⟩
    rw [lead_ascii (hbyte.symm ▸ hone), hbyte, Char.ofNat_toNat, List.length_nil]
  by_cases htwo : c.toNat < 0x800
  · exact ⟨_, _, encodeChar_two (by omega) htwo, lead_two (by omega) htwo⟩
  by_cases hthree : c.toNat < 0x10000
  · exact ⟨_, _, encodeChar_three (by omega) hthree, lead_three (by omega) hthree⟩
  · exact ⟨_, _, encodeChar_four (by omega), lead_four (by omega)⟩

/-! ## Texts -/

theorem decodeChars?_encodeChar_append (c : Char) (rest : Bytes) :
    decodeChars? (encodeChar c ++ rest) = (decodeChars? rest).map (c :: ·) := by
  obtain ⟨first, tail, hchar, hlead⟩ := lead_encodeChar c rest
  rw [hchar, List.cons_append, decodeChars?]
  simp only [hlead, List.drop_left]

theorem decodeChars?_flatMap (cs : List Char) : decodeChars? (cs.flatMap encodeChar) = some cs := by
  induction cs with
  | nil => simp [decodeChars?]
  | cons c cs ih => rw [List.flatMap_cons, decodeChars?_encodeChar_append, ih, Option.map_some]

/-- A text decodes to itself. -/
@[simp] theorem decode?_encode (s : String) : decode? (encode s) = some s := by
  rw [decode?, encode, decodeChars?_flatMap, Option.map_some, String.ofList_toList]

/-- Different texts have different bytes. -/
theorem encode_injective {s t : String} (h : encode s = encode t) : s = t := by
  have hdecoded := decode?_encode s
  rw [h, decode?_encode t] at hdecoded
  exact (Option.some.inj hdecoded).symm

theorem encode_ne_nil {s : String} (h : s ≠ "") : encode s ≠ [] := by
  intro hnil
  exact h (encode_injective (hnil.trans encode_empty.symm))

theorem zero_eq_ofNat_iff (h : x < 256) : 0 = UInt8.ofNat x ↔ x = 0 := by
  rw [← UInt8.toNat_inj, toNat_ofNat_of_lt h]
  exact eq_comm

/-- Only the character NUL has a byte that is zero: in longer forms every byte has its highest bit
set. -/
theorem zero_mem_encodeChar_iff : 0 ∈ encodeChar c ↔ c = '\x00' := by
  have hrange := toNat_range c
  have hnul : c = '\x00' ↔ c.toNat = 0 :=
    ⟨fun h => h ▸ rfl, fun h => Char.ext (UInt32.toNat_inj.mp h)⟩
  rw [hnul]
  by_cases hone : c.toNat < 0x80
  · rw [encodeChar_one hone, List.mem_singleton, zero_eq_ofNat_iff (by omega)]
  by_cases htwo : c.toNat < 0x800
  · rw [encodeChar_two (by omega) htwo, List.mem_cons, List.mem_singleton,
      zero_eq_ofNat_iff (by omega), zero_eq_ofNat_iff (by omega)]
    omega
  by_cases hthree : c.toNat < 0x10000
  · rw [encodeChar_three (by omega) hthree, List.mem_cons, List.mem_cons, List.mem_singleton,
      zero_eq_ofNat_iff (by omega), zero_eq_ofNat_iff (by omega), zero_eq_ofNat_iff (by omega)]
    omega
  · rw [encodeChar_four (by omega), List.mem_cons, List.mem_cons, List.mem_cons,
      List.mem_singleton, zero_eq_ofNat_iff (by omega), zero_eq_ofNat_iff (by omega),
      zero_eq_ofNat_iff (by omega), zero_eq_ofNat_iff (by omega)]
    omega

theorem zero_mem_encode_iff {s : String} : 0 ∈ encode s ↔ '\x00' ∈ s.toList := by
  rw [encode, List.mem_flatMap]
  constructor
  · rintro ⟨c, hc, hzero⟩
    exact zero_mem_encodeChar_iff.mp hzero ▸ hc
  · intro h
    exact ⟨'\x00', h, zero_mem_encodeChar_iff.mpr rfl⟩

theorem length_encodeChar_le (c : Char) : (encodeChar c).length ≤ 4 := by
  simp only [encodeChar]
  split
  · simp
  split
  · simp
  split
  · simp
  · simp

theorem length_encode_le (s : String) : (encode s).length ≤ 4 * s.toList.length := by
  rw [encode]
  induction s.toList with
  | nil => simp
  | cons c cs ih =>
    have hfirst := length_encodeChar_le c
    rw [List.flatMap_cons, List.length_append, List.length_cons]
    omega

/-! ## The order of texts -/

section Order

variable {d : Char} {y : Nat} {xs ys : Bytes} {s t : String}

theorem ofNat_cons_lt_iff (hx : x < 256) (hy : y < 256) :
    UInt8.ofNat x :: xs < UInt8.ofNat y :: ys ↔ x < y ∨ x = y ∧ xs < ys := by
  rw [List.cons_lt_cons_iff, UInt8.lt_iff_toNat_lt, ← UInt8.toNat_inj, toNat_ofNat_of_lt hx,
    toNat_ofNat_of_lt hy]

/-- The first byte of a character tells how many bytes it takes. -/
theorem exists_front (c : Char) : ∃ x tail, encodeChar c = UInt8.ofNat x :: tail ∧ x < 256 ∧
    (x < 0x80 ↔ c.toNat < 0x80) ∧ (x < 0xE0 ↔ c.toNat < 0x800) ∧
    (x < 0xF0 ↔ c.toNat < 0x10000) := by
  have hrange := toNat_range c
  by_cases hone : c.toNat < 0x80
  · exact ⟨_, _, encodeChar_one hone, by omega⟩
  by_cases htwo : c.toNat < 0x800
  · exact ⟨_, _, encodeChar_two (by omega) htwo, by omega⟩
  by_cases hthree : c.toNat < 0x10000
  · exact ⟨_, _, encodeChar_three (by omega) hthree, by omega⟩
  · exact ⟨_, _, encodeChar_four (by omega), by omega⟩

/-- Two characters decide the order of what starts with them. -/
theorem encodeChar_append_lt (h : c.toNat < d.toNat) (xs ys : Bytes) :
    encodeChar c ++ xs < encodeChar d ++ ys := by
  have hrange := toNat_range d
  obtain ⟨x, front, hx, hxsmall, hxone, hxtwo, hxthree⟩ := exists_front c
  obtain ⟨y, back, hy, hysmall, hyone, hytwo, hythree⟩ := exists_front d
  by_cases hfirst : x < y
  · rw [hx, hy]
    exact (ofNat_cons_lt_iff hxsmall hysmall).mpr (.inl hfirst)
  -- a longer form starts with a greater byte, so both characters take the same number of bytes
  by_cases hone : c.toNat < 0x80
  · rw [encodeChar_one hone, encodeChar_one (by omega)]
    exact (ofNat_cons_lt_iff (by omega) (by omega)).mpr (.inl h)
  by_cases htwo : c.toNat < 0x800
  · rw [encodeChar_two (by omega) htwo, encodeChar_two (by omega) (by omega)]
    simp only [List.cons_append]
    rw [ofNat_cons_lt_iff (by omega) (by omega), ofNat_cons_lt_iff (by omega) (by omega)]
    omega
  by_cases hthree : c.toNat < 0x10000
  · rw [encodeChar_three (by omega) hthree, encodeChar_three (by omega) (by omega)]
    simp only [List.cons_append]
    rw [ofNat_cons_lt_iff (by omega) (by omega), ofNat_cons_lt_iff (by omega) (by omega),
      ofNat_cons_lt_iff (by omega) (by omega)]
    omega
  · rw [encodeChar_four (by omega), encodeChar_four (by omega)]
    simp only [List.cons_append]
    rw [ofNat_cons_lt_iff (by omega) (by omega), ofNat_cons_lt_iff (by omega) (by omega),
      ofNat_cons_lt_iff (by omega) (by omega), ofNat_cons_lt_iff (by omega) (by omega)]
    omega

theorem flatMap_encodeChar_lt {cs ds : List Char} (h : cs < ds) :
    cs.flatMap encodeChar < ds.flatMap encodeChar := by
  induction h with
  | @nil d ds =>
    obtain ⟨y, back, hy, -⟩ := exists_front d
    rw [List.flatMap_nil, List.flatMap_cons, hy]
    exact List.nil_lt_cons _ _
  | rel hlt =>
    rw [List.flatMap_cons, List.flatMap_cons]
    exact encodeChar_append_lt hlt _ _
  | cons _ ih =>
    rw [List.flatMap_cons, List.flatMap_cons]
    exact List.append_left_lt ih

/-- A text that comes before another has bytes that come before the other's. -/
theorem encode_lt_encode (h : s < t) : encode s < encode t :=
  flatMap_encodeChar_lt h

end Order

end StressBatch.Text.Utf8
