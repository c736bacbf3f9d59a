import StressBatch.Proofs.Text.Decimal
import StressBatch.Proofs.Time.Calendar
import StressBatch.Time.Timestamp

/-!
# Timestamps are read as they were written

The text of a moment is read part by part: the date, the time of the day, the fraction of the second
and the `Z`. What the reader allows beyond that, such as blanks and longer numerals, never comes up.
-/

namespace StressBatch.Time

open Text

variable {cs rest : List Char} {n max width : Nat}

namespace Timestamp

/-- Whether there is such a moment: its year is one that timestamps can lie in, and only the last
second of a minute goes on beyond its nanoseconds. -/
structure Sound (t : Timestamp) : Prop where
  year_inRange : Date.inRange (Date.ofDays (t.seconds / secondsPerDay)).year = true
  nanos_lt : t.nanos < nanosPerSecond ∨ t.nanos < 2 * nanosPerSecond ∧ t.seconds % 60 = 59

instance (t : Timestamp) : Decidable t.Sound :=
  decidable_of_iff
    (Date.inRange (Date.ofDays (t.seconds / secondsPerDay)).year = true ∧
      (t.nanos < nanosPerSecond ∨ t.nanos < 2 * nanosPerSecond ∧ t.seconds % 60 = 59))
    ⟨fun h => ⟨h.1, h.2⟩, fun h => ⟨h.year_inRange, h.nanos_lt⟩⟩

/-! ## Numbers -/

theorem mem_head?_of_take {c : Char} (h : c ∈ (cs.take n).head?) : c ∈ cs.head? := by
  cases cs with
  | nil => rwa [List.take_nil] at h
  | cons first others =>
    cases n with
    | zero => simp at h
    | succ n => exact h

theorem number?_of_digits (hdigits : ∀ c ∈ cs, c.isDigit = true) (hne : cs ≠ [])
    (hmax : cs.length ≤ max) (hstop : cs.length = max ∨ ∀ c ∈ rest.head?, digit? c = none) :
    number? max (cs ++ rest) = some (Nat.ofDigitChars 10 cs 0, rest) := by
  have htake : (cs ++ rest).take max = cs ++ rest.take (max - cs.length) := by
    rw [List.take_append, List.take_of_length_le hmax]
  have hfront : ∀ c ∈ (rest.take (max - cs.length)).head?, digit? c = none := by
    rcases hstop with hfull | hstop
    · rw [hfull, Nat.sub_self]
      nofun
    · exact fun c hc => hstop c (mem_head?_of_take hc)
  rw [number?, htake, takeWhile_digits hdigits hfront]
  simp only [digits?_of_digits hdigits hne, Option.map_some, List.drop_left]

theorem twoDigits?_padded (h : n < 100) (rest : List Char) :
    twoDigits? ((padded 2 n).toList ++ rest) = some (n, rest) := by
  have hdigits : ∀ c ∈ (padded 2 n).toList, c.isDigit = true := fun c => isDigit_of_mem_padded
  have hne := toList_padded_ne_nil 2 n
  have hlength := length_padded (by decide : 0 < 2) h
  rw [twoDigits?, trimFront_of_digits hdigits hne,
    number?_of_digits hdigits hne (Nat.le_of_eq hlength) (.inl hlength), ofDigitChars_padded]

theorem separator?_cons {c : Char} (hlow : 0x20 < c.toNat) (hhigh : c.toNat < 0x7F)
    (rest : List Char) : separator? c (c :: rest) = some rest := by
  rw [separator?, trimFront_of_visible hlow hhigh]
  exact if_pos rfl

/-! ## Dates -/

theorem number?_padded_year (hmax : (padded 4 n).toList.length ≤ max) (rest : List Char) :
    number? max ((padded 4 n).toList ++ '-' :: rest) = some (n, '-' :: rest) := by
  have hstop : ∀ c ∈ ('-' :: rest).head?, digit? c = none := by
    intro c hc
    obtain rfl := Option.some.inj hc
    rfl
  rw [number?_of_digits (fun _ => isDigit_of_mem_padded) (toList_padded_ne_nil 4 n) hmax
    (.inr hstop), ofDigitChars_padded]

theorem year?_of_digits (hdigits : ∀ c ∈ cs, c.isDigit = true) (hne : cs ≠ []) :
    year? (cs ++ rest) = (number? 4 (cs ++ rest)).map fun (n, rest) => ((n : Int), rest) := by
  rw [year?, trimFront_of_digits hdigits hne]
  obtain ⟨first, others, rfl⟩ := List.exists_cons_of_ne_nil hne
  have hfirst := toNat_range_of_isDigit (hdigits first List.mem_cons_self)
  split
  · next heq =>
    obtain rfl := (List.cons.inj heq).1
    exact absurd hfirst.1 (by decide)
  · next heq =>
    obtain rfl := (List.cons.inj heq).1
    exact absurd hfirst.1 (by decide)
  · rfl

theorem year?_minus (rest : List Char) :
    year? ('-' :: rest) = (number? rest.length rest).map fun (n, rest) => (-(n : Int), rest) := by
  rw [year?, trimFront_of_visible (by decide) (by decide)]
  rfl

theorem year?_plus (rest : List Char) :
    year? ('+' :: rest) = (number? rest.length rest).map fun (n, rest) => ((n : Int), rest) := by
  rw [year?, trimFront_of_visible (by decide) (by decide)]
  rfl

theorem year?_yearText (year : Int) (rest : List Char) :
    year? ((yearText year).toList ++ '-' :: rest) = some (year, '-' :: rest) := by
  unfold yearText
  split
  · next hshort =>
    have hlength := length_padded (by decide : 0 < 4) (by omega : year.toNat < 10 ^ 4)
    rw [year?_of_digits (fun _ => isDigit_of_mem_padded) (toList_padded_ne_nil 4 _),
      number?_padded_year (Nat.le_of_eq hlength)]
    simp only [Option.map_some, Int.toNat_of_nonneg hshort.1]
  · have hnumber : number? ((padded 4 year.natAbs).toList ++ '-' :: rest).length
        ((padded 4 year.natAbs).toList ++ '-' :: rest) = some (year.natAbs, '-' :: rest) := by
      refine number?_padded_year ?_ rest
      rw [List.length_append]
      omega
    split
    · next hneg =>
      have hyear : -(year.natAbs : Int) = year := by omega
      have htext : ("-" ++ padded 4 year.natAbs).toList ++ '-' :: rest =
          '-' :: ((padded 4 year.natAbs).toList ++ '-' :: rest) := by simp
      rw [htext, year?_minus, hnumber]
      simp only [Option.map_some, hyear]
    · have hyear : (year.natAbs : Int) = year := by omega
      have htext : ("+" ++ padded 4 year.natAbs).toList ++ '-' :: rest =
          '+' :: ((padded 4 year.natAbs).toList ++ '-' :: rest) := by simp
      rw [htext, year?_plus, hnumber]
      simp only [Option.map_some, hyear]

/-- The text of a date. -/
def dateText (date : Date) : String :=
  yearText date.year ++ "-" ++ padded 2 date.month ++ "-" ++ padded 2 date.day

theorem date?_dateText {date : Date} (hrange : Date.inRange date.year = true)
    (hexists : date.exists? = true) (rest : List Char) :
    date? ((dateText date).toList ++ rest) = some (date, rest) := by
  obtain ⟨hmonth, hday⟩ := Date.bounds_of_exists hexists
  have htext : (dateText date).toList ++ rest = (yearText date.year).toList ++ '-' ::
      ((padded 2 date.month).toList ++ '-' :: ((padded 2 date.day).toList ++ rest)) := by
    simp [dateText]
  rw [date?, htext, year?_yearText]
  simp [separator?_cons, twoDigits?_padded, Nat.lt_of_le_of_lt hmonth, Nat.lt_of_le_of_lt hday,
    hrange, hexists]

/-! ## Times of the day -/

theorem fraction?_padded (hpos : 0 < width) (hmax : width ≤ 9) (h : n < 10 ^ width)
    (rest : List Char) :
    fraction? ('.' :: ((padded width n).toList ++ 'Z' :: rest)) =
      some (n * Nat.pow 10 (9 - width), 'Z' :: rest) := by
  have hdigits : ∀ c ∈ (padded width n).toList, c.isDigit = true := fun c => isDigit_of_mem_padded
  have hlength := length_padded hpos h
  have htake : ((padded width n).toList ++ 'Z' :: rest).take 9 =
      (padded width n).toList ++ ('Z' :: rest).take (9 - width) := by
    have hle := Nat.le_trans (Nat.le_of_eq hlength) hmax
    rw [List.take_append, List.take_of_length_le hle, hlength]
  have hstop : ∀ c ∈ (('Z' :: rest).take (9 - width)).head?, digit? c = none := by
    intro c hc
    obtain rfl := Option.some.inj (mem_head?_of_take hc)
    rfl
  have hbehind : ('Z' :: rest).dropWhile (fun c => (digit? c).isSome) = 'Z' :: rest :=
    List.dropWhile_cons_of_neg (by decide)
  rw [fraction?, htake, takeWhile_digits hdigits hstop]
  simp only [digits?_padded, hlength, List.drop_left' hlength, hbehind, Option.map_some]

theorem fraction?_fractionText {nanos : Nat} (h : nanos < nanosPerSecond) (rest : List Char) :
    fraction? ((fractionText nanos).toList ++ 'Z' :: rest) = some (nanos, 'Z' :: rest) := by
  have hpoint : ∀ digits : String, ("." ++ digits).toList ++ 'Z' :: rest =
      '.' :: (digits.toList ++ 'Z' :: rest) := fun digits => by simp
  rw [nanosPerSecond] at h
  unfold fractionText
  split
  · next hzero =>
    subst hzero
    rfl
  split
  · next hmillis =>
    have hexact : nanos / 1000000 * Nat.pow 10 (9 - 3) = nanos :=
      Nat.div_mul_cancel (Nat.dvd_of_mod_eq_zero hmillis)
    rw [hpoint, fraction?_padded (by decide) (by decide) (by omega), hexact]
  split
  · next hmicros =>
    have hexact : nanos / 1000 * Nat.pow 10 (9 - 6) = nanos :=
      Nat.div_mul_cancel (Nat.dvd_of_mod_eq_zero hmicros)
    rw [hpoint, fraction?_padded (by decide) (by decide) (by omega), hexact]
  · rw [hpoint, fraction?_padded (by decide) (by decide) (by omega), Nat.sub_self]
    exact congrArg (fun n => some (n, 'Z' :: rest)) (Nat.mul_one nanos)

/-- The text of a time of the day. -/
def clockText (hour minute second nanos : Nat) : String :=
  padded 2 hour ++ ":" ++ padded 2 minute ++ ":" ++ padded 2 second ++ fractionText nanos

theorem clock?_clockText {hour minute second nanos : Nat} (hhour : hour ≤ 23)
    (hminute : minute ≤ 59) (hsecond : second ≤ 60) (hnanos : nanos < nanosPerSecond)
    (rest : List Char) :
    clock? ((clockText hour minute second nanos).toList ++ 'Z' :: rest) =
      if second = 60 then
        some ((hour * 3600 + minute * 60 + 59, nanosPerSecond + nanos), 'Z' :: rest)
      else some ((hour * 3600 + minute * 60 + second, nanos), 'Z' :: rest) := by
  have htext : (clockText hour minute second nanos).toList ++ 'Z' :: rest =
      (padded 2 hour).toList ++ ':' :: ((padded 2 minute).toList ++ ':' ::
        ((padded 2 second).toList ++ ((fractionText nanos).toList ++ 'Z' :: rest))) := by
    simp [clockText]
  have hvalid : ¬(23 < hour ∨ 59 < minute ∨ 60 < second) := by omega
  rw [clock?, htext, twoDigits?_padded (by omega)]
  simp only [Option.bind_eq_bind, Option.bind_some, separator?_cons, Char.reduceToNat,
    Nat.reduceLT, twoDigits?_padded (by omega : minute < 100),
    twoDigits?_padded (by omega : second < 100), fraction?_fractionText hnanos, if_neg hvalid]

/-! ## Moments -/

/-- The second of the day. -/
def secondOfDay (t : Timestamp) : Nat := (t.seconds % secondsPerDay).toNat

/-- The second that the text gives; the leap second has a number of its own. -/
def shownSecond (t : Timestamp) : Nat :=
  if nanosPerSecond ≤ t.nanos then t.secondOfDay % 60 + 1 else t.secondOfDay % 60

/-- The nanoseconds that the text gives. -/
def shownNanos (t : Timestamp) : Nat :=
  if nanosPerSecond ≤ t.nanos then t.nanos - nanosPerSecond else t.nanos

theorem text_eq (t : Timestamp) :
    t.text =
      dateText (Date.ofDays (t.seconds / secondsPerDay)) ++ "T" ++
        clockText (t.secondOfDay / 3600) (t.secondOfDay / 60 % 60) t.shownSecond t.shownNanos ++
        "Z" := by
  simp only [text, dateText, clockText, secondOfDay, shownSecond, shownNanos, String.append_assoc]

theorem secondOfDay_lt (t : Timestamp) : t.secondOfDay < 86400 := by
  have hday : (secondsPerDay : Int) = 86400 := rfl
  rw [secondOfDay, hday]
  omega

theorem day_add_secondOfDay (t : Timestamp) :
    t.seconds / secondsPerDay * secondsPerDay + (t.secondOfDay : Int) = t.seconds := by
  have hday : (secondsPerDay : Int) = 86400 := rfl
  rw [secondOfDay, hday]
  omega

theorem shownSecond_le (t : Timestamp) : t.shownSecond ≤ 60 := by
  rw [shownSecond]
  split <;> omega

theorem Sound.shownNanos_lt {t : Timestamp} (h : t.Sound) : t.shownNanos < nanosPerSecond := by
  have hnanos := h.nanos_lt
  rw [shownNanos]
  split <;> omega

/-- The clock reads the second of the day back, be it a leap second or not. -/
theorem Sound.clock?_eq {t : Timestamp} (h : t.Sound) (rest : List Char) :
    clock? ((clockText (t.secondOfDay / 3600) (t.secondOfDay / 60 % 60) t.shownSecond
      t.shownNanos).toList ++ 'Z' :: rest) = some ((t.secondOfDay, t.nanos), 'Z' :: rest) := by
  have hlt := t.secondOfDay_lt
  have hsum := t.day_add_secondOfDay
  have hday : (secondsPerDay : Int) = 86400 := rfl
  rw [clock?_clockText (by omega) (by omega) t.shownSecond_le h.shownNanos_lt]
  by_cases hleap : nanosPerSecond ≤ t.nanos
  · have hlast : t.seconds % 60 = 59 := by
      rcases h.nanos_lt with hshort | ⟨-, hlast⟩
      · omega
      · exact hlast
    have hshown : t.shownSecond = 60 := by
      rw [hday] at hsum
      rw [shownSecond, if_pos hleap]
      omega
    have hseconds : t.secondOfDay / 3600 * 3600 + t.secondOfDay / 60 % 60 * 60 + 59 =
        t.secondOfDay := by
      rw [hday] at hsum
      omega
    have hnanos : nanosPerSecond + t.shownNanos = t.nanos := by
      rw [shownNanos, if_pos hleap]
      omega
    rw [if_pos hshown, hseconds, hnanos]
  · have hshown : t.shownSecond = t.secondOfDay % 60 := if_neg hleap
    have hnanos : t.shownNanos = t.nanos := if_neg hleap
    have hseconds : t.secondOfDay / 3600 * 3600 + t.secondOfDay / 60 % 60 * 60 +
        t.secondOfDay % 60 = t.secondOfDay := by omega
    rw [hshown, hnanos, if_neg (by omega), hseconds]

/-- A moment is read back from its text. -/
theorem ofText?_text {t : Timestamp} (h : t.Sound) : ofText? t.text = some t := by
  have htext : t.text.toList =
      (dateText (Date.ofDays (t.seconds / secondsPerDay))).toList ++ 'T' ::
        ((clockText (t.secondOfDay / 3600) (t.secondOfDay / 60 % 60) t.shownSecond
          t.shownNanos).toList ++ 'Z' :: []) := by
    rw [text_eq]
    simp
  have hyear := h.year_inRange
  have hzone : zone? (trimFront ['Z']) = some (0, []) := by rfl
  have hend : trimFront [] = [] := rfl
  rw [ofText?, htext, date?_dateText hyear (Date.exists?_ofDays _)]
  simp only [Option.bind_eq_bind, Option.bind_some, true_or, if_true, h.clock?_eq, hzone,
    Date.toDays_ofDays, day_add_secondOfDay, Int.sub_zero, hend, hyear, and_self]

/-! ## Lengths -/

theorem length_yearText_le {year : Int} (h : Date.inRange year = true) :
    (yearText year).toList.length ≤ 7 := by
  obtain ⟨hmin, hmax⟩ := Bool.and_eq_true_iff.mp h
  have hlow : -262143 ≤ year := of_decide_eq_true hmin
  have hhigh : year ≤ 262142 := of_decide_eq_true hmax
  unfold yearText
  split
  · have hlength := length_padded_le (by decide : 0 < 6) (by decide : 4 ≤ 6)
      (by omega : year.toNat < 10 ^ 6)
    omega
  · have hlength := length_padded_le (by decide : 0 < 6) (by decide : 4 ≤ 6)
      (by omega : year.natAbs < 10 ^ 6)
    have hsign : ∀ sign : String, sign.toList.length = 1 →
        (sign ++ padded 4 year.natAbs).toList.length ≤ 7 := by
      intro sign hone
      rw [String.toList_append, List.length_append]
      omega
    split
    · exact hsign "-" rfl
    · exact hsign "+" rfl

theorem length_fractionText_le {nanos : Nat} (h : nanos < nanosPerSecond) :
    (fractionText nanos).toList.length ≤ 10 := by
  have hpoint : ∀ width n, 0 < width → width ≤ 9 → n < 10 ^ width →
      ("." ++ padded width n).toList.length ≤ 10 := by
    intro width n hpos hmax hlt
    have hlength := length_padded hpos hlt
    have hone : ".".toList.length = 1 := rfl
    rw [String.toList_append, List.length_append, hlength, hone]
    omega
  rw [nanosPerSecond] at h
  unfold fractionText
  split
  · exact Nat.zero_le 10
  split
  · exact hpoint 3 _ (by decide) (by decide) (by omega)
  split
  · exact hpoint 6 _ (by decide) (by decide) (by omega)
  · exact hpoint 9 _ (by decide) (by decide) (by omega)

theorem length_dateText_le {date : Date} (hrange : Date.inRange date.year = true)
    (hexists : date.exists? = true) : (dateText date).toList.length ≤ 13 := by
  have hyear := length_yearText_le hrange
  obtain ⟨hmonth, hday⟩ := Date.bounds_of_exists hexists
  have hmonthLength := length_padded (by decide : 0 < 2) (by omega : date.month < 10 ^ 2)
  have hdayLength := length_padded (by decide : 0 < 2) (by omega : date.day < 10 ^ 2)
  have hhyphen : "-".toList.length = 1 := rfl
  simp only [dateText, String.toList_append, List.length_append]
  omega

theorem length_clockText_le {hour minute second nanos : Nat} (hhour : hour ≤ 23)
    (hminute : minute ≤ 59) (hsecond : second ≤ 60) (hnanos : nanos < nanosPerSecond) :
    (clockText hour minute second nanos).toList.length ≤ 18 := by
  have hfraction := length_fractionText_le hnanos
  have hhourLength := length_padded (by decide : 0 < 2) (by omega : hour < 10 ^ 2)
  have hminuteLength := length_padded (by decide : 0 < 2) (by omega : minute < 10 ^ 2)
  have hsecondLength := length_padded (by decide : 0 < 2) (by omega : second < 10 ^ 2)
  have hcolon : ":".toList.length = 1 := rfl
  simp only [clockText, String.toList_append, List.length_append]
  omega

/-- No moment takes more than 33 characters. -/
theorem length_text_le {t : Timestamp} (h : t.Sound) : t.text.toList.length ≤ 33 := by
  have hlt := t.secondOfDay_lt
  have hdate := length_dateText_le h.year_inRange (Date.exists?_ofDays _)
  have hclock := length_clockText_le (by omega : t.secondOfDay / 3600 ≤ 23)
    (by omega : t.secondOfDay / 60 % 60 ≤ 59) t.shownSecond_le h.shownNanos_lt
  have hletters : "T".toList.length = 1 ∧ "Z".toList.length = 1 := ⟨rfl, rfl⟩
  rw [text_eq]
  simp only [String.toList_append, List.length_append]
  omega

end Timestamp

end StressBatch.Time
