import SessionTokens.Time.Calendar

/-! # Days and dates

The date of a day number exists and has that number. All of it rests on the year that a day of the
cycle falls in, which is found by cutting the cycle into centuries, these into spans of four years
and the spans into years.
-/

namespace SessionTokens.Time.Date

theorem isLeapYear_iff {year : Int} :
    isLeapYear year = true ↔ year % 4 = 0 ∧ (year % 100 ≠ 0 ∨ year % 400 = 0) := by
  simp [isLeapYear]

/-! ## The year of a day -/

/-- A day of the cycle, told by its century, span of four years, year of the span and day of the
year. A span has one leap day, at its end; the last span of a century has none, unless the cycle
ends with it. -/
structure IsCut (dayOfCycle century span year day : Int) : Prop where
  sum : dayOfCycle = 36524 * century + (1461 * span + (365 * year + day))
  century_mem : 0 ≤ century ∧ century ≤ 3
  span_mem : 0 ≤ span ∧ span ≤ 24
  year_mem : 0 ≤ year ∧ year ≤ 3
  day_mem : 0 ≤ day ∧ day ≤ 365
  leapDay : day = 365 → year = 3 ∧ (span ≤ 23 ∨ century = 3)

theorem exists_century {dayOfCycle : Int} (hnonneg : 0 ≤ dayOfCycle) (hlt : dayOfCycle < 146097) :
    ∃ century rest : Int, dayOfCycle = 36524 * century + rest ∧
      (0 ≤ century ∧ century ≤ 3) ∧ 0 ≤ rest ∧ rest ≤ 36524 ∧ (rest = 36524 → century = 3) := by
  -- the last day of the cycle is the last of the fourth century, which is a day longer
  by_cases h : dayOfCycle = 146096
  · exact ⟨3, 36524, by omega, by omega, by omega, by omega, by omega⟩
  · exact ⟨dayOfCycle / 36524, dayOfCycle % 36524, by omega, by omega, by omega, by omega, by omega⟩

theorem exists_yearOfSpan {dayOfSpan : Int} (hnonneg : 0 ≤ dayOfSpan) (hlt : dayOfSpan < 1461) :
    ∃ year day : Int, dayOfSpan = 365 * year + day ∧ (0 ≤ year ∧ year ≤ 3) ∧
      (0 ≤ day ∧ day ≤ 365) ∧ (day = 365 → year = 3) := by
  -- the leap day is the last day of the fourth year
  by_cases h : dayOfSpan = 1460
  · exact ⟨3, 365, by omega, by omega, by omega, by omega⟩
  · exact ⟨dayOfSpan / 365, dayOfSpan % 365, by omega, by omega, by omega, by omega⟩

theorem exists_isCut {dayOfCycle : Int} (hnonneg : 0 ≤ dayOfCycle) (hlt : dayOfCycle < 146097) :
    ∃ century span year day, IsCut dayOfCycle century span year day := by
  obtain ⟨century, rest, hsum, hcentury, hrest, hle, hlast⟩ := exists_century hnonneg hlt
  obtain ⟨year, day, hday, hyear, hdays, hleap⟩ :=
    exists_yearOfSpan (Int.emod_nonneg rest (by omega : (1461 : Int) ≠ 0))
      (Int.emod_lt_of_pos rest (by omega))
  have hspan : rest = 1461 * (rest / 1461) + (365 * year + day) := by
    rw [← hday]
    exact (Int.mul_ediv_add_emod rest 1461).symm
  exact ⟨century, rest / 1461, year, day, by omega, hcentury, by omega, hyear, hdays, by omega⟩

/-- The year of a cycle that a day of the cycle falls in, by the formula of the calendar. -/
def yearOfCycle (dayOfCycle : Int) : Int :=
  (dayOfCycle - dayOfCycle / 1460 + dayOfCycle / 36524 - dayOfCycle / 146096) / 365

/-- Counting 1460 days a span errs by one day in each span. Over a whole cycle that is less than a
span, and it takes effect in the last year of a span only. -/
theorem div_span_error {surplus year day : Int} (hsurplus : 0 ≤ surplus ∧ surplus ≤ 96)
    (hyear : 0 ≤ year ∧ year ≤ 3) (hday : 0 ≤ day ∧ day ≤ 365) (hleap : day = 365 → year = 3) :
    (365 * year + day - (surplus + (365 * year + day)) / 1460) / 365 = year := by
  omega

theorem IsCut.yearOfCycle_eq {dayOfCycle century span year day : Int}
    (h : IsCut dayOfCycle century span year day) :
    yearOfCycle dayOfCycle = 100 * century + 4 * span + year := by
  obtain ⟨hsum, hcentury, hspan, hyear, hday, hleap⟩ := h
  -- The last day of the cycle would begin a fifth century; the last term takes it back.
  have hcenturies : dayOfCycle / 36524 - dayOfCycle / 146096 = century := by
    have hlast : 1461 * span + (365 * year + day) ≤ 36523 ∨
        1461 * span + (365 * year + day) = 36524 ∧ century = 3 := by omega
    have hnonneg : 0 ≤ 1461 * span + (365 * year + day) := by omega
    generalize 1461 * span + (365 * year + day) = rest at *
    omega
  have hspans : dayOfCycle / 1460 =
      (24 * century + span + (365 * year + day)) / 1460 + (25 * century + span) := by
    have hdays : dayOfCycle =
        24 * century + span + (365 * year + day) + 1460 * (25 * century + span) := by
      omega
    rw [hdays, Int.add_mul_ediv_left _ _ (by omega)]
  have hdays (error : Int) (herror : dayOfCycle / 1460 = error + (25 * century + span)) :
      dayOfCycle - dayOfCycle / 1460 + dayOfCycle / 36524 - dayOfCycle / 146096 =
        365 * year + day - error + 365 * (100 * century + 4 * span) := by
    clear hspans
    omega
  rw [yearOfCycle, hdays _ hspans, Int.add_mul_ediv_left _ _ (by omega),
    div_span_error (by omega) hyear hday (by omega), Int.add_comm]

/-- The days of a cycle that lie before one of its years. -/
def daysBefore (year : Int) : Int := 365 * year + year / 4 - year / 100

/-- A day of a cycle falls in a year of the cycle. Only a year that ends with a leap day has a 366th
day. -/
structure FallsIn (dayOfCycle year : Int) : Prop where
  year_mem : 0 ≤ year ∧ year ≤ 399
  begun : daysBefore year ≤ dayOfCycle
  notOver : dayOfCycle ≤ daysBefore year + 365
  leapDay : dayOfCycle = daysBefore year + 365 → isLeapYear (year + 1) = true

theorem fallsIn_yearOfCycle {dayOfCycle : Int} (hnonneg : 0 ≤ dayOfCycle)
    (hlt : dayOfCycle < 146097) : FallsIn dayOfCycle (yearOfCycle dayOfCycle) := by
  obtain ⟨century, span, year, day, hcut⟩ := exists_isCut hnonneg hlt
  rw [hcut.yearOfCycle_eq]
  obtain ⟨hsum, hcentury, hspan, hyear, hday, hleap⟩ := hcut
  have hbefore : daysBefore (100 * century + 4 * span + year) =
      36524 * century + (1461 * span + 365 * year) := by
    have hspans : (100 * century + 4 * span + year) / 4 = 25 * century + span := by omega
    have hcenturies : (100 * century + 4 * span + year) / 100 = century := by omega
    unfold daysBefore
    omega
  refine ⟨by omega, by omega, by omega, fun hlast => ?_⟩
  rw [isLeapYear_iff]
  omega

/-! ## The month of a day -/

/-- The date of a day of a year, both counted from March. -/
def ofDayOfYear (year dayOfYear : Int) : Date :=
  let monthFromMarch := (5 * dayOfYear + 2) / 153
  let day := dayOfYear - (153 * monthFromMarch + 2) / 5 + 1
  let month := if monthFromMarch < 10 then monthFromMarch + 3 else monthFromMarch - 9
  ⟨if month ≤ 2 then year + 1 else year, month.toNat, day.toNat⟩

/-- The days of a year, counted from March, that lie before one of its months. -/
def daysBeforeMonth (monthFromMarch : Nat) : Nat := (153 * monthFromMarch + 2) / 5

/-- A day of a year has a month of the year, counted from March, and a day of that month. -/
theorem exists_month {dayOfYear : Int} (hday : 0 ≤ dayOfYear ∧ dayOfYear ≤ 365) (year : Int) :
    ∃ month day : Nat, dayOfYear + 1 = daysBeforeMonth month + day ∧ 1 ≤ day ∧
      dayOfYear < daysBeforeMonth (month + 1) ∧ month ≤ 11 ∧
        ofDayOfYear year dayOfYear =
          if month < 10 then ⟨year, month + 3, day⟩ else ⟨year + 1, month - 9, day⟩ := by
  obtain ⟨month, hmonth⟩ : ∃ month : Nat, (month : Int) = (5 * dayOfYear + 2) / 153 :=
    ⟨((5 * dayOfYear + 2) / 153).toNat, by omega⟩
  obtain ⟨day, hsum⟩ : ∃ day : Nat, dayOfYear + 1 = daysBeforeMonth month + day :=
    ⟨(dayOfYear + 1 - daysBeforeMonth month).toNat, by unfold daysBeforeMonth; omega⟩
  have hmonthDay : (dayOfYear - (153 * (month : Int) + 2) / 5 + 1).toNat = day := by
    unfold daysBeforeMonth at hsum
    omega
  refine ⟨month, day, hsum, ?_, ?_, by omega, ?_⟩
  · unfold daysBeforeMonth at hsum
    omega
  · unfold daysBeforeMonth
    omega
  · simp only [ofDayOfYear, ← hmonth, hmonthDay]
    by_cases h : month < 10
    · have hshift : (month : Int) < 10 := by omega
      have hlate : ¬ (month : Int) + 3 ≤ 2 := by omega
      have hcast : ((month : Int) + 3).toNat = month + 3 := by omega
      rw [if_pos h, if_pos hshift, if_neg hlate, hcast]
    · have hshift : ¬ (month : Int) < 10 := by omega
      have hearly : (month : Int) - 9 ≤ 2 := by omega
      have hcast : ((month : Int) - 9).toNat = month - 9 := by omega
      rw [if_neg h, if_neg hshift, if_pos hearly, hcast]

theorem isValid_ofDayOfYear {year dayOfYear : Int} (hday : 0 ≤ dayOfYear ∧ dayOfYear ≤ 365)
    (hleap : dayOfYear = 365 → isLeapYear (year + 1) = true) :
    (ofDayOfYear year dayOfYear).isValid = true := by
  obtain ⟨month, day, hsum, hpos, hlt, hmonth, hdate⟩ := exists_month hday year
  rw [hdate]
  unfold daysBeforeMonth at hsum hlt
  -- counted from March, February is the last month and takes what is left of the year
  by_cases hfebruary : month = 11
  · subst hfebruary
    by_cases hlast : dayOfYear = 365
    · simp [isValid, daysInMonth, hleap hlast]
      omega
    · have hshort : day ≤ 28 := by omega
      simp [isValid, daysInMonth]
      split <;> omega
  · have hcases : month = 0 ∨ month = 1 ∨ month = 2 ∨ month = 3 ∨ month = 4 ∨ month = 5 ∨
        month = 6 ∨ month = 7 ∨ month = 8 ∨ month = 9 ∨ month = 10 := by omega
    rcases hcases with rfl | rfl | rfl | rfl | rfl | rfl | rfl | rfl | rfl | rfl | rfl
    all_goals
      simp [isValid, daysInMonth]
      omega

theorem toDays_ofDayOfYear {cycle year dayOfYear : Int} (hyear : 0 ≤ year ∧ year ≤ 399)
    (hday : 0 ≤ dayOfYear ∧ dayOfYear ≤ 365) :
    (ofDayOfYear (year + cycle * 400) dayOfYear).toDays =
      cycle * 146097 + (daysBefore year + dayOfYear) - 719468 := by
  obtain ⟨month, day, hsum, hpos, -, hmonth, hdate⟩ := exists_month hday (year + cycle * 400)
  rw [hdate]
  have hcycle : (year + cycle * 400) / 400 = cycle := by omega
  have hrest : (year + cycle * 400) % 400 = year := by omega
  unfold daysBeforeMonth at hsum
  by_cases h : month < 10
  · have hlate : ¬ month + 3 ≤ 2 := by omega
    have hback : ((month + 3 : Nat) + 9 : Int) % 12 = month := by omega
    simp only [if_pos h, toDays, if_neg hlate, hback, hcycle, hrest, daysBefore]
    omega
  · have hearly : month - 9 ≤ 2 := by omega
    have hback : ((month - 9 : Nat) + 9 : Int) % 12 = month := by omega
    have hyears : year + cycle * 400 + 1 - 1 = year + cycle * 400 := by omega
    simp only [if_neg h, toDays, if_pos hearly, hback, hyears, hcycle, hrest, daysBefore]
    omega

/-! ## The date of a number -/

theorem ofDays_eq (days : Int) :
    ofDays days =
      ofDayOfYear
        (yearOfCycle ((days + 719468) % 146097) + (days + 719468) / 146097 * 400)
        ((days + 719468) % 146097 - daysBefore (yearOfCycle ((days + 719468) % 146097))) := rfl

theorem FallsIn.day_mem {dayOfCycle year : Int} (h : FallsIn dayOfCycle year) :
    0 ≤ dayOfCycle - daysBefore year ∧ dayOfCycle - daysBefore year ≤ 365 := by
  have hbegun := h.begun
  have hnotOver := h.notOver
  omega

theorem fallsIn_emod (days : Int) : FallsIn (days % 146097) (yearOfCycle (days % 146097)) :=
  fallsIn_yearOfCycle (Int.emod_nonneg days (by omega)) (Int.emod_lt_of_pos days (by omega))

/-- Numbering the days undoes dating them. -/
theorem toDays_ofDays (days : Int) : (ofDays days).toDays = days := by
  have hyear := fallsIn_emod (days + 719468)
  rw [ofDays_eq, toDays_ofDayOfYear hyear.year_mem hyear.day_mem]
  omega

/-- The date of every day exists. -/
theorem isValid_ofDays (days : Int) : (ofDays days).isValid = true := by
  have hyear := fallsIn_emod (days + 719468)
  rw [ofDays_eq]
  apply isValid_ofDayOfYear hyear.day_mem
  intro hlast
  have hleap := hyear.leapDay (by omega)
  rw [isLeapYear_iff] at hleap ⊢
  omega

theorem year_ofDayOfYear {year dayOfYear : Int} (hday : 0 ≤ dayOfYear ∧ dayOfYear ≤ 365) :
    (ofDayOfYear year dayOfYear).year = if dayOfYear < 306 then year else year + 1 := by
  obtain ⟨month, day, hsum, hpos, hlt, hmonth, hdate⟩ := exists_month hday year
  unfold daysBeforeMonth at hsum hlt
  rw [hdate]
  by_cases h : month < 10
  · rw [if_pos h, if_pos (by omega)]
  · rw [if_neg h, if_neg (by omega)]

/-- The days of the representable instants have the years from -262143 to 262142. -/
theorem year_ofDays {days : Int} (hearliest : -96465292 ≤ days) (hlatest : days ≤ 95026236) :
    -262143 ≤ (ofDays days).year ∧ (ofDays days).year ≤ 262142 := by
  have hyear := fallsIn_emod (days + 719468)
  rw [ofDays_eq, year_ofDayOfYear hyear.day_mem]
  obtain ⟨⟨hnonneg, hle⟩, hbegun, hnotOver, -⟩ := hyear
  generalize yearOfCycle ((days + 719468) % 146097) = year at *
  have hrest := Int.mul_ediv_add_emod (days + 719468) 146097
  have hcycle : -656 ≤ (days + 719468) / 146097 ∧ (days + 719468) / 146097 ≤ 655 := by omega
  generalize (days + 719468) / 146097 = cycle at *
  generalize (days + 719468) % 146097 = dayOfCycle at *
  unfold daysBefore at *
  constructor
  · -- only the first cycle has years that are too early
    by_cases hfirst : cycle = -656
    · have hyears : year = 256 ∨ year ≤ 255 ∨ 257 ≤ year := by omega
      subst hfirst
      split <;> omega
    · split <;> omega
  · by_cases hlast : cycle = 655
    · have hyears : year = 142 ∨ year ≤ 141 ∨ 143 ≤ year := by omega
      subst hlast
      split <;> omega
    · split <;> omega

end SessionTokens.Time.Date
