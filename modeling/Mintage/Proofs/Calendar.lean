import Mintage.Time.Calendar

/-!
# Proofs: the calendar

The numbers of days and the days of the calendar stand for each other: the day with a number is a
day that there is, and has that number. Later numbers fall into later years, so that whether a year
has been reached is told by the number of its first of January.
-/

namespace Mintage.Calendar

/-! ## Days of an era -/

/-- The year of an era that a day of it falls into. -/
def yearOfEra (dayOfEra : Int) : Int :=
  (dayOfEra - dayOfEra / 1460 + dayOfEra / 36524 - dayOfEra / 146096) / 365

/-- The days of an era before a year of it. -/
def daysBeforeYear (y : Int) : Int := 365 * y + y / 4 - y / 100

/-- Years that end with a leap day, which come before a leap year of the calendar. -/
def EndsWithLeapDay (y : Int) : Prop := y % 4 = 3 ∧ (y % 100 = 99 → y = 399)

/-- A day of a century: `cycle` times four years, and a number of days within the next four. -/
theorem yearOfEra_of_cycle {century cycle day : Int} (hCentury : 0 ≤ century ∧ century ≤ 3)
    (hCycle : 0 ≤ cycle ∧ cycle ≤ 24) (hDay : 0 ≤ day ∧ day ≤ 1460)
    (hShort : 1461 * cycle + day < 36524) :
    ∃ year, 0 ≤ year ∧ year ≤ 3 ∧ 0 ≤ day - 365 * year ∧ day - 365 * year ≤ 365 ∧
      (day - 365 * year = 365 → year = 3) ∧
      yearOfEra (36524 * century + 1461 * cycle + day) = 100 * century + 4 * cycle + year := by
  -- The correction for leap days counts in steps of 1460 days and comes too early by `early`.
  obtain ⟨early, hEarly⟩ : ∃ early, (cycle + day + 24 * century) / 1460 = early := ⟨_, rfl⟩
  have steps : (36524 * century + 1461 * cycle + day) / 1460 = 25 * century + cycle + early := by
    omega
  have centuries : (36524 * century + 1461 * cycle + day) / 36524 = century := by omega
  have eras : (36524 * century + 1461 * cycle + day) / 146096 = 0 := by omega
  refine ⟨(day - early) / 365, ?_⟩
  have sum : yearOfEra (36524 * century + 1461 * cycle + day) =
      (365 * (100 * century + 4 * cycle) + (day - early)) / 365 := by
    rw [yearOfEra, steps, centuries, eras]
    congr 1
    omega
  rw [sum]
  omega

theorem daysBeforeYear_of_cycle {century cycle year : Int} (hCycle : 0 ≤ cycle ∧ cycle ≤ 24)
    (hYear : 0 ≤ year ∧ year ≤ 3) :
    daysBeforeYear (100 * century + 4 * cycle + year) =
      36524 * century + 1461 * cycle + 365 * year := by
  have leapYears : (100 * century + 4 * cycle + year) / 4 = 25 * century + cycle := by omega
  have centuries : (100 * century + 4 * cycle + year) / 100 = century := by omega
  rw [daysBeforeYear, leapYears, centuries]
  omega

/-- The last day of an era is the leap day of its last year. -/
theorem yearOfEra_last : yearOfEra 146096 = 399 := by decide

theorem dayOfYear_bounds {dayOfEra : Int} (h : 0 ≤ dayOfEra) (hEra : dayOfEra < eraDays) :
    0 ≤ yearOfEra dayOfEra ∧ yearOfEra dayOfEra ≤ 399 ∧
      0 ≤ dayOfEra - daysBeforeYear (yearOfEra dayOfEra) ∧
      dayOfEra - daysBeforeYear (yearOfEra dayOfEra) ≤ 365 ∧
      (dayOfEra - daysBeforeYear (yearOfEra dayOfEra) = 365 →
        EndsWithLeapDay (yearOfEra dayOfEra)) := by
  unfold eraDays at hEra
  by_cases hLast : dayOfEra = 146096
  · rw [hLast, yearOfEra_last]
    simp [daysBeforeYear, EndsWithLeapDay]
  · obtain ⟨century, cycle, day, hCentury, hCycle, hDay, hShort, rfl⟩ :
        ∃ century cycle day : Int, (0 ≤ century ∧ century ≤ 3) ∧ (0 ≤ cycle ∧ cycle ≤ 24) ∧
          (0 ≤ day ∧ day ≤ 1460) ∧ 1461 * cycle + day < 36524 ∧
          dayOfEra = 36524 * century + 1461 * cycle + day :=
      ⟨dayOfEra / 36524, dayOfEra % 36524 / 1461, dayOfEra % 36524 % 1461, by omega⟩
    obtain ⟨year, h0, h3, hFirst, hLong, hLeap, hYear⟩ :=
      yearOfEra_of_cycle hCentury hCycle hDay hShort
    rw [hYear, daysBeforeYear_of_cycle hCycle ⟨h0, h3⟩]
    refine ⟨by omega, by omega, by omega, by omega, ?_⟩
    intro hEnd
    obtain rfl := hLeap (by omega)
    constructor
    · omega
    · omega

/-! ## Days of a year that begins in March -/

/-- The day `day` of the month that is `month` months after March, in a year of an era. -/
def ofMarch (era year month day : Int) : Date :=
  ⟨era * 400 + year + if month < 10 then 0 else 1,
    (if month < 10 then month + 3 else month - 9).toNat, day.toNat⟩

/-- There is such a month and such a day of it. -/
structure InMarchYear (year month day : Int) : Prop where
  years : 0 ≤ year ∧ year ≤ 399
  months : 0 ≤ month ∧ month ≤ 11
  first : 1 ≤ day
  last : month ≤ 10 → day ≤ daysBeforeMonth (month + 1) - daysBeforeMonth month
  february : month = 11 → day ≤ 29 ∧ (day = 29 → EndsWithLeapDay year)

theorem ofDays_eq_ofMarch (n : Int) : ∃ era year month day, InMarchYear year month day ∧
    Date.ofDays n = ofMarch era year month day ∧
    n = era * eraDays + daysBeforeYear year + daysBeforeMonth month + (day - 1) - epochOffset := by
  obtain ⟨dayOfEra, hEra⟩ : ∃ d, (n + epochOffset) % eraDays = d := ⟨_, rfl⟩
  have hDays : 0 ≤ dayOfEra ∧ dayOfEra < eraDays := by
    unfold eraDays at *
    omega
  obtain ⟨h0, h399, hFirst, hLast, hLeap⟩ := dayOfYear_bounds hDays.1 hDays.2
  obtain ⟨dayOfYear, hDay⟩ : ∃ d, dayOfEra - daysBeforeYear (yearOfEra dayOfEra) = d := ⟨_, rfl⟩
  rw [hDay] at hFirst hLast hLeap
  have hDate : Date.ofDays n = ofMarch ((n + epochOffset) / eraDays) (yearOfEra dayOfEra)
      ((5 * dayOfYear + 2) / 153)
      (dayOfYear - daysBeforeMonth ((5 * dayOfYear + 2) / 153) + 1) := by
    rw [← hDay, ← hEra]
    rfl
  refine ⟨_, _, _, _, ?_, hDate, ?_⟩
  · unfold daysBeforeMonth
    refine ⟨⟨h0, h399⟩, by omega, by omega, ?_, ?_⟩
    · intro hMonth
      unfold daysBeforeMonth
      omega
    · intro hFebruary
      refine ⟨by omega, ?_⟩
      intro hEnd
      exact hLeap (by omega)
  · have hEras : (n + epochOffset) / eraDays * eraDays + dayOfEra = n + epochOffset := by
      unfold eraDays at *
      omega
    omega

theorem toDays_ofMarch {era year month day : Int} (h : InMarchYear year month day) :
    (ofMarch era year month day).toDays =
      era * eraDays + daysBeforeYear year + daysBeforeMonth month + (day - 1) - epochOffset := by
  obtain ⟨hYear, hMonth, hFirst, -, -⟩ := h
  by_cases hLate : month < 10
  · have month' : ¬ (month + 3).toNat ≤ 2 := by omega
    have eras : (era * 400 + year + 0) / 400 = era := by omega
    have years : (era * 400 + year + 0) % 400 = year := by omega
    have months : ((month + 3).toNat : Int) - 3 = month := by omega
    have days : (day.toNat : Int) = day := by omega
    simp only [Date.toDays, ofMarch, if_pos hLate, if_neg month', eras, years, months, days,
      daysBeforeYear]
    omega
  · have month' : (month - 9).toNat ≤ 2 := by omega
    have eras : (era * 400 + year + 1 - 1) / 400 = era := by omega
    have years : (era * 400 + year + 1 - 1) % 400 = year := by omega
    have months : ((month - 9).toNat : Int) + 9 = month := by omega
    have days : (day.toNat : Int) = day := by omega
    simp only [Date.toDays, ofMarch, if_neg hLate, if_pos month', eras, years, months, days,
      daysBeforeYear]
    omega

/-- All months but February have the same number of days each year. -/
theorem daysInMonth_of_ne_february (y month : Int) (h : 0 ≤ month ∧ month ≤ 10) :
    (daysInMonth y (if month < 10 then month + 3 else month - 9).toNat : Int) =
      daysBeforeMonth (month + 1) - daysBeforeMonth month := by
  have months : month = 0 ∨ month = 1 ∨ month = 2 ∨ month = 3 ∨ month = 4 ∨ month = 5 ∨
      month = 6 ∨ month = 7 ∨ month = 8 ∨ month = 9 ∨ month = 10 := by
    omega
  rcases months with rfl | rfl | rfl | rfl | rfl | rfl | rfl | rfl | rfl | rfl | rfl
  all_goals rfl

/-- A year that begins behind a leap day ends a leap year. -/
theorem isLeapYear_of_endsWithLeapDay {era year : Int} (h : EndsWithLeapDay year) :
    isLeapYear (era * 400 + year + 1) = true := by
  obtain ⟨hFour, hCentury⟩ := h
  have four : (era * 400 + year + 1) % 4 = 0 := by omega
  have century : (era * 400 + year + 1) % 100 = 0 → (era * 400 + year + 1) % 400 = 0 := by omega
  simp only [isLeapYear, Bool.and_eq_true, Bool.or_eq_true, decide_eq_true_eq]
  refine ⟨four, ?_⟩
  by_cases hc : (era * 400 + year + 1) % 100 = 0
  · exact .inr (century hc)
  · exact .inl hc

theorem isValid_ofMarch {era year month day : Int} (h : InMarchYear year month day) :
    (ofMarch era year month day).isValid = true := by
  obtain ⟨hYear, hMonth, hFirst, hLast, hFebruary⟩ := h
  have months : 1 ≤ (if month < 10 then month + 3 else month - 9).toNat ∧
      (if month < 10 then month + 3 else month - 9).toNat ≤ 12 := by
    split
    · omega
    · omega
  have days : day.toNat ≤ daysInMonth (era * 400 + year + if month < 10 then 0 else 1)
      (if month < 10 then month + 3 else month - 9).toNat := by
    by_cases hShort : month = 11
    · subst hShort
      obtain ⟨h29, hLeap⟩ := hFebruary rfl
      change day.toNat ≤ if isLeapYear (era * 400 + year + 1) then 29 else 28
      by_cases hEnd : day = 29
      · rw [if_pos (isLeapYear_of_endsWithLeapDay (hLeap hEnd)), hEnd]
        decide
      · split
        · omega
        · omega
    · have hLength := daysInMonth_of_ne_february (era * 400 + year + if month < 10 then 0 else 1)
        month (by omega)
      have hDay := hLast (by omega)
      omega
  have first : 1 ≤ day.toNat := by omega
  simp [Date.isValid, ofMarch, months, days, first]

/-! ## Numbers and days -/

/-- The day with a number has that number. -/
theorem toDays_ofDays (n : Int) : (Date.ofDays n).toDays = n := by
  obtain ⟨era, year, month, day, hMarch, hDate, hNumber⟩ := ofDays_eq_ofMarch n
  rw [hDate, toDays_ofMarch hMarch, ← hNumber]

/-- The day with a number is one of the calendar. -/
theorem isValid_ofDays (n : Int) : (Date.ofDays n).isValid = true := by
  obtain ⟨era, year, month, day, hMarch, hDate, -⟩ := ofDays_eq_ofMarch n
  rw [hDate]
  exact isValid_ofMarch hMarch

/-- The days from 0000-03-01 to the first of March of a year. -/
def daysBeforeMarch (y : Int) : Int := 365 * y + y / 4 - y / 100 + y / 400

theorem daysBeforeMarch_eq (era : Int) {year : Int} (h : 0 ≤ year ∧ year ≤ 399) :
    daysBeforeMarch (era * 400 + year) = era * eraDays + daysBeforeYear year := by
  unfold daysBeforeMarch daysBeforeYear eraDays
  omega

/-- A year has 365 days or more. -/
theorem daysBeforeMarch_add_le {y z : Int} (h : y ≤ z) :
    daysBeforeMarch y + 365 * (z - y) ≤ daysBeforeMarch z := by
  unfold daysBeforeMarch
  omega

/-- The number of the first of January of a year. -/
def newYear (y : Int) : Int := Date.toDays ⟨y, 1, 1⟩

/-- January begins 306 days behind the March before. -/
theorem newYear_eq (y : Int) : newYear y = daysBeforeMarch (y - 1) + 306 - epochOffset := by
  have hInEra : 0 ≤ (y - 1) % 400 ∧ (y - 1) % 400 ≤ 399 := by omega
  have h := daysBeforeMarch_eq ((y - 1) / 400) hInEra
  have hYear : (y - 1) / 400 * 400 + (y - 1) % 400 = y - 1 := by omega
  rw [hYear] at h
  rw [h]
  simp [newYear, Date.toDays, daysBeforeYear, daysBeforeMonth]
  omega

theorem newYear_le_newYear {y z : Int} (h : y ≤ z) : newYear y ≤ newYear z := by
  have hMarch := daysBeforeMarch_add_le (Int.sub_le_sub_right h 1)
  rw [newYear_eq, newYear_eq]
  omega

/-- A day falls into its year. -/
theorem ofDays_between_newYears (n : Int) :
    newYear (Date.ofDays n).year ≤ n ∧ n < newYear ((Date.ofDays n).year + 1) := by
  obtain ⟨era, year, month, day, ⟨hYear, hMonth, hFirst, hLast, hFebruary⟩, hDate, hNumber⟩ :=
    ofDays_eq_ofMarch n
  unfold daysBeforeMonth at hLast hNumber
  rw [← daysBeforeMarch_eq era hYear] at hNumber
  rw [hDate, newYear_eq, newYear_eq]
  by_cases hLate : month < 10
  · have hMarch := daysBeforeMarch_add_le (Int.sub_le_self (era * 400 + year) Int.one_nonneg)
    simp only [ofMarch, if_pos hLate, Int.add_zero, Int.add_sub_cancel]
    omega
  · have hMarch := daysBeforeMarch_add_le (Int.le_add_one (Int.le_refl (era * 400 + year)))
    simp only [ofMarch, if_neg hLate, Int.add_sub_cancel]
    omega

/-- The year of a day is before a given one exactly if the day is before its first of January. -/
theorem ofDays_year_lt_iff (n y : Int) : (Date.ofDays n).year < y ↔ n < newYear y := by
  obtain ⟨hLower, hUpper⟩ := ofDays_between_newYears n
  constructor
  · intro h
    have hYears := newYear_le_newYear (Int.add_one_le_of_lt h)
    omega
  · intro h
    rcases Int.lt_or_le (Date.ofDays n).year y with hYear | hYear
    · exact hYear
    · have hYears := newYear_le_newYear hYear
      omega

end Mintage.Calendar
