import StressBatch.Time.Calendar

/-!
# Days and dates

Every day has a date that exists, and the date leads back to the day. The calendar repeats itself
every 400 years, so what has to be shown is where a day of such a cycle falls: in which year,
counted from March, and on which day of that year.
-/

namespace StressBatch.Time.Date

variable {days day year rest : Int}

/-- Where a day of a cycle of 400 years falls: `rest` days behind the first of March of `year`. Only
a leap day is the 366th of its year; it lies in the year after that March. -/
structure Falls (day year rest : Int) : Prop where
  year_nonneg : 0 ≤ year
  year_lt : year < 400
  rest_nonneg : 0 ≤ rest
  rest_le : rest ≤ 365
  day_eq : day = year * 365 + year / 4 - year / 100 + rest
  leap : rest = 365 → (year + 1) % 4 = 0 ∧ ((year + 1) % 100 ≠ 0 ∨ (year + 1) % 400 = 0)

/-- The year of a day of a cycle. -/
def yearOf (day : Int) : Int := (day - day / 1460 + day / 36524 - day / 146096) / 365

/-- The day of the year of a day of a cycle. -/
def restOf (day : Int) : Int := day - (365 * yearOf day + yearOf day / 4 - yearOf day / 100)

/-- All but the last day of a cycle lie in one of its four centuries of 36524 days, which consist of
groups of four years with 1461 days; the last group is a day short. -/
theorem falls_of_lt (hlow : 0 ≤ day) (hhigh : day < 146096) :
    Falls day (yearOf day) (restOf day) := by
  obtain ⟨century, hcentury⟩ : ∃ century, century = day / 36524 := ⟨_, rfl⟩
  obtain ⟨inCentury, hin⟩ : ∃ inCentury, inCentury = day - 36524 * century := ⟨_, rfl⟩
  obtain ⟨group, hgroup⟩ : ∃ group, group = inCentury / 1461 := ⟨_, rfl⟩
  obtain ⟨inGroup, hinGroup⟩ : ∃ inGroup, inGroup = inCentury - 1461 * group := ⟨_, rfl⟩
  obtain ⟨part, hpart⟩ : ∃ part, part = if inGroup = 1460 then 3 else inGroup / 365 := ⟨_, rfl⟩
  have hcenturies : 0 ≤ century ∧ century ≤ 3 ∧ 0 ≤ inCentury ∧ inCentury < 36524 := by omega
  have hgroups : 0 ≤ group ∧ group ≤ 24 ∧ 0 ≤ inGroup ∧ inGroup ≤ 1460 := by omega
  have hparts : 0 ≤ part ∧ part ≤ 3 ∧ 365 * part ≤ inGroup ∧ inGroup - 365 * part ≤ 365 := by
    split at hpart <;> omega
  have hleaps : day / 1460 = 25 * century + group + (24 * century + group + inGroup) / 1460 := by
    omega
  have hyear : yearOf day = 100 * century + 4 * group + part := by
    have hlast : day / 146096 = 0 := by omega
    rw [yearOf, hleaps, ← hcentury, hlast]
    split at hpart <;> omega
  have hquarter : yearOf day / 4 = 25 * century + group := by omega
  have hhundred : yearOf day / 100 = century := by omega
  have hrest : restOf day = inGroup - 365 * part := by
    rw [restOf, hquarter, hhundred, hyear]
    omega
  refine ⟨by omega, by omega, by omega, by omega, by rw [hrest, hquarter, hhundred]; omega, ?_⟩
  intro hlong
  have hthird : inGroup = 1460 ∧ part = 3 := by
    split at hpart <;> omega
  -- The last group of a century has no such day, so the next year is no full century.
  have hshort : group < 24 := by omega
  rw [hyear]
  omega

theorem falls (hlow : 0 ≤ day) (hhigh : day ≤ 146096) : Falls day (yearOf day) (restOf day) := by
  by_cases hlast : day = 146096
  · subst hlast
    exact ⟨by decide, by decide, by decide, by decide, by decide, fun _ => by decide⟩
  · exact falls_of_lt hlow (by omega)

/-! ## Months -/

/-- The date that lies `rest` days behind the first of March of a year. -/
def ofMarch (year rest : Int) : Date :=
  let month := (5 * rest + 2) / 153
  let day := rest - (153 * month + 2) / 5 + 1
  if month < 10 then ⟨year, (month + 3).toNat, day.toNat⟩
  else ⟨year + 1, (month - 9).toNat, day.toNat⟩

theorem ofDays_eq_ofMarch (days : Int) :
    ofDays days =
      ofMarch (yearOf ((days + 719468) - (days + 719468) / 146097 * 146097) +
          (days + 719468) / 146097 * 400)
        (restOf ((days + 719468) - (days + 719468) / 146097 * 146097)) := rfl

theorem ofMarch_early {month : Int} (hmonth : month = (5 * rest + 2) / 153) (h : month < 10) :
    ofMarch year rest =
      ⟨year, (month + 3).toNat, (rest - (153 * month + 2) / 5 + 1).toNat⟩ := by
  subst hmonth
  exact if_pos h

theorem ofMarch_late {month : Int} (hmonth : month = (5 * rest + 2) / 153) (h : 10 ≤ month) :
    ofMarch year rest =
      ⟨year + 1, (month - 9).toNat, (rest - (153 * month + 2) / 5 + 1).toNat⟩ := by
  subst hmonth
  exact if_neg (Int.not_lt.mpr h)

theorem toDays_ofMarch (hlow : 0 ≤ rest) (hhigh : rest ≤ 365) :
    (ofMarch year rest).toDays =
      year / 400 * 146097 + ((year - year / 400 * 400) * 365 + (year - year / 400 * 400) / 4 -
        (year - year / 400 * 400) / 100 + rest) - 719468 := by
  obtain ⟨month, hmonth⟩ : ∃ month, month = (5 * rest + 2) / 153 := ⟨_, rfl⟩
  have hmonths : 0 ≤ month ∧ month ≤ 11 := by omega
  have hday : ((rest - (153 * month + 2) / 5 + 1).toNat : Int) =
      rest - (153 * month + 2) / 5 + 1 := by omega
  by_cases hearly : month < 10
  · have hlate : ¬(month + 3).toNat ≤ 2 := by omega
    have hcount : ((month + 3).toNat : Int) - 3 = month := by omega
    rw [ofMarch_early hmonth hearly]
    simp only [toDays, if_neg hlate, hcount, hday]
    omega
  · have hlate : (month - 9).toNat ≤ 2 := by omega
    have hcount : ((month - 9).toNat : Int) + 9 = month := by omega
    rw [ofMarch_late hmonth (by omega)]
    simp only [toDays, if_pos hlate, hcount, hday, Int.add_sub_cancel]
    omega

theorem exists?_iff {month day : Nat} : (⟨year, month, day⟩ : Date).exists? = true ↔
    1 ≤ month ∧ month ≤ 12 ∧ 1 ≤ day ∧ day ≤ daysOfMonth year month := by
  simp [exists?, and_assoc]

theorem bounds_of_exists {date : Date} (h : date.exists? = true) :
    date.month ≤ 12 ∧ date.day ≤ 31 := by
  obtain ⟨-, hmonth, -, hday⟩ := exists?_iff.mp h
  have hlength : daysOfMonth date.year date.month ≤ 31 := by
    unfold daysOfMonth
    split
    · split <;> omega
    · split <;> omega
  exact ⟨hmonth, Nat.le_trans hday hlength⟩

theorem exists?_ofMarch (hlow : 0 ≤ rest) (hhigh : rest ≤ 365)
    (hleap : rest = 365 → isLeapYear (year + 1) = true) : (ofMarch year rest).exists? = true := by
  obtain ⟨month, hmonth⟩ : ∃ month, month = (5 * rest + 2) / 153 := ⟨_, rfl⟩
  by_cases hearly : month < 10
  · rw [ofMarch_early hmonth hearly, exists?_iff]
    refine ⟨by omega, by omega, by omega, ?_⟩
    have hnotFebruary : (month + 3).toNat ≠ 2 := by omega
    simp only [daysOfMonth, if_neg hnotFebruary]
    split <;> omega
  · rw [ofMarch_late hmonth (by omega), exists?_iff]
    refine ⟨by omega, by omega, by omega, ?_⟩
    by_cases hfebruary : (month - 9).toNat = 2
    · -- Only here does the length of the month depend on the year.
      by_cases hlong : rest = 365
      · simp only [daysOfMonth, if_pos hfebruary, if_pos (hleap hlong)]
        omega
      · simp only [daysOfMonth, if_pos hfebruary]
        split <;> omega
    · simp only [daysOfMonth, if_neg hfebruary]
      split <;> omega

/-! ## Days -/

/-- The cycle of a day and its place in it. -/
theorem falls_of_days (days : Int) :
    Falls (days + 719468 - (days + 719468) / 146097 * 146097)
      (yearOf (days + 719468 - (days + 719468) / 146097 * 146097))
      (restOf (days + 719468 - (days + 719468) / 146097 * 146097)) :=
  falls (by omega) (by omega)

/-- A date leads back to its day. -/
theorem toDays_ofDays (days : Int) : (ofDays days).toDays = days := by
  have hfalls := falls_of_days days
  have hcycle := hfalls.year_nonneg
  have hbound := hfalls.year_lt
  have hday := hfalls.day_eq
  rw [ofDays_eq_ofMarch, toDays_ofMarch hfalls.rest_nonneg hfalls.rest_le]
  generalize yearOf (days + 719468 - (days + 719468) / 146097 * 146097) = year at *
  generalize restOf (days + 719468 - (days + 719468) / 146097 * 146097) = rest at *
  have hcentury : (year + (days + 719468) / 146097 * 400) / 400 = (days + 719468) / 146097 := by
    omega
  rw [hcentury, Int.add_sub_cancel]
  omega

/-- Every day has a date that exists. -/
theorem exists?_ofDays (days : Int) : (ofDays days).exists? = true := by
  have hfalls := falls_of_days days
  rw [ofDays_eq_ofMarch]
  refine exists?_ofMarch hfalls.rest_nonneg hfalls.rest_le fun hlong => ?_
  have hleap := hfalls.leap hlong
  simp only [isLeapYear, Bool.and_eq_true, Bool.or_eq_true, beq_iff_eq, bne_iff_ne]
  omega

end StressBatch.Time.Date
