import Mintage.Proofs.Calendar
import Mintage.Proofs.Outcome
import Mintage.Time.Timestamp

/-!
# Proofs: points in time as text

The writer and the reader of RFC 3339 times agree on years of four digits. The writer goes on beyond
them, up to the end of its calendar, and gives later years a sign that no reader takes. So a text is
read back as the time that it was written for exactly if that time is before the year 10000.
-/

namespace Mintage.Timestamp

open Json

/-! ## Digits -/

theorem takeDigits?_append {ds : List Char} (h : ∀ c ∈ ds, c.isDigit = true) (acc : Nat)
    (rest : List Char) :
    takeDigits? acc ds.length (ds ++ rest) = some (Nat.ofDigitChars 10 ds acc, rest) := by
  induction ds generalizing acc with
  | nil => rfl
  | cons c ds ih =>
    obtain ⟨hc, hds⟩ := List.forall_mem_cons.mp h
    rw [List.length_cons, List.cons_append, takeDigits?, if_pos hc, ih hds,
      Nat.ofDigitChars_cons]

theorem toList_digits (width n : Nat) : (digits width n).toList =
    List.replicate (width - (Nat.toDigits 10 n).length) '0' ++ Nat.toDigits 10 n := by
  rw [digits, String.toList_ofList, List.leftpad, Nat.toString_eq_repr, Nat.toList_repr]

theorem isDigit_of_mem_digits {width n : Nat} {c : Char} (h : c ∈ (digits width n).toList) :
    c.isDigit = true := by
  rw [toList_digits] at h
  rcases List.mem_append.mp h with hZero | hDigit
  · rw [List.eq_of_mem_replicate hZero]
    rfl
  · exact Nat.isDigit_of_mem_toDigits (by decide) (by decide) hDigit

theorem ofDigitChars_digits (width n : Nat) :
    Nat.ofDigitChars 10 (digits width n).toList 0 = n := by
  rw [toList_digits, Nat.ofDigitChars_append, Nat.ofDigitChars_replicate_zero, Nat.mul_zero,
    Nat.ofDigitChars_ten_toDigits]

theorem length_digits {width n : Nat} (hWidth : 0 < width) (h : n < 10 ^ width) :
    (digits width n).toList.length = width := by
  have hLength := (Nat.length_toDigits_le_iff (by decide) hWidth).mpr h
  rw [toList_digits, List.length_append, List.length_replicate]
  omega

/-- A number in a fixed number of digits is taken off the front again. -/
theorem takeDigits?_digits {width n : Nat} (hWidth : 0 < width) (h : n < 10 ^ width)
    (rest : List Char) :
    takeDigits? 0 width ((digits width n).toList ++ rest) = some (n, rest) := by
  have hDigits : ∀ c ∈ (digits width n).toList, c.isDigit = true := fun _ => isDigit_of_mem_digits
  have hTake := takeDigits?_append hDigits 0 rest
  rwa [length_digits hWidth h, ofDigitChars_digits] at hTake

/-- Three digits behind a point are milliseconds. -/
theorem takeFraction?_digits {ms : Nat} (h : ms < 1000) :
    takeFraction? ('.' :: ((digits 3 ms).toList ++ ['Z'])) = some (ms, ['Z']) := by
  have hLength : (digits 3 ms).toList.length = 3 := length_digits (by decide) h
  have hTake : ((digits 3 ms).toList ++ ['Z']).takeWhile Char.isDigit = (digits 3 ms).toList := by
    rw [List.takeWhile_append_of_pos fun _ => isDigit_of_mem_digits]
    simp
  have hDrop : ((digits 3 ms).toList ++ ['Z']).dropWhile Char.isDigit = ['Z'] := by
    rw [List.dropWhile_append_of_pos fun _ => isDigit_of_mem_digits]
    rfl
  have hThree : ((digits 3 ms).toList ++ ['0', '0', '0']).take 3 = (digits 3 ms).toList :=
    List.take_left' hLength
  have hSome : (digits 3 ms).toList.isEmpty = false := by
    rw [List.isEmpty_eq_false_iff, ← List.length_pos_iff]
    omega
  have hValue := ofDigitChars_digits 3 ms
  rw [Nat.ofDigitChars_eq_foldl] at hValue
  simp only [takeFraction?, hTake, hDrop, hThree, hSome, hValue]
  rfl

/-! ## The text of a time -/

/-- A text with the parts of a time that there is, in the form that the writer gives them. -/
theorem parseMillis?_of_parts {s : String} {year month day hour minute second ms : Nat}
    (hText : s.toList = (digits 4 year).toList ++ '-' :: ((digits 2 month).toList ++
      '-' :: ((digits 2 day).toList ++ 'T' :: ((digits 2 hour).toList ++
      ':' :: ((digits 2 minute).toList ++ ':' :: ((digits 2 second).toList ++
      '.' :: ((digits 3 ms).toList ++ ['Z'])))))))
    (hYear : year < 10000) (hMonth : month < 100) (hDay : day < 100)
    (hDate : (⟨year, month, day⟩ : Calendar.Date).isValid = true)
    (hHour : hour < 24) (hMinute : minute < 60) (hSecond : second < 60) (hMs : ms < 1000) :
    parseMillis? s = some ((⟨year, month, day⟩ : Calendar.Date).toDays * dayMillis +
      (hour * 60 + minute : Nat) * 60000 + second * 1000 + ms) := by
  have hTime : hour < 24 ∧ minute < 60 ∧ second ≤ 60 := ⟨hHour, hMinute, by omega⟩
  have takeYear := takeDigits?_digits (show 0 < 4 by decide) hYear
  have takeTwo : ∀ n, n < 100 → ∀ rest,
      takeDigits? 0 2 ((digits 2 n).toList ++ rest) = some (n, rest) := by
    intro n hn
    exact takeDigits?_digits (by decide) hn
  have takeMonth := takeTwo month hMonth
  have takeDay := takeTwo day hDay
  have takeHour := takeTwo hour (by omega)
  have takeMinute := takeTwo minute (by omega)
  have takeSecond := takeTwo second (by omega)
  have takeMs := takeFraction?_digits hMs
  unfold parseMillis?
  rw [hText]
  refine Option.bind_eq_some_iff.mpr ⟨_, takeYear _, ?_⟩
  refine Option.bind_eq_some_iff.mpr ⟨_, rfl, ?_⟩
  refine Option.bind_eq_some_iff.mpr ⟨_, takeMonth _, ?_⟩
  refine Option.bind_eq_some_iff.mpr ⟨_, rfl, ?_⟩
  refine Option.bind_eq_some_iff.mpr ⟨_, takeDay _, ?_⟩
  refine Option.bind_eq_some_iff.mpr ⟨_, rfl, ?_⟩
  refine Option.bind_eq_some_iff.mpr ⟨_, takeHour _, ?_⟩
  refine Option.bind_eq_some_iff.mpr ⟨_, rfl, ?_⟩
  refine Option.bind_eq_some_iff.mpr ⟨_, takeMinute _, ?_⟩
  refine Option.bind_eq_some_iff.mpr ⟨_, rfl, ?_⟩
  refine Option.bind_eq_some_iff.mpr ⟨_, takeSecond _, ?_⟩
  refine Option.bind_eq_some_iff.mpr ⟨_, takeMs, ?_⟩
  refine Option.bind_eq_some_iff.mpr ⟨0, rfl, ?_⟩
  refine (if_pos ⟨hDate, hTime⟩).trans ?_
  rw [Int.sub_zero]

/-- The day of a time. -/
def date (t : Timestamp) : Calendar.Date := .ofDays (t.millis.toNat / dayMillis : Nat)

/-- The milliseconds of a time since midnight. -/
def timeOfDay (t : Timestamp) : Nat := t.millis.toNat % dayMillis

/-- What follows the year in the text of a time. -/
def behindYear (month day hour minute second ms : Nat) : String :=
  "-" ++ (digits 2 month ++ ("-" ++ (digits 2 day ++ ("T" ++ (digits 2 hour ++
    (":" ++ (digits 2 minute ++ (":" ++ (digits 2 second ++ ("." ++ (digits 3 ms ++ "Z")))))))))))

theorem toList_behindYear (month day hour minute second ms : Nat) :
    (behindYear month day hour minute second ms).toList =
      '-' :: ((digits 2 month).toList ++ '-' :: ((digits 2 day).toList ++
      'T' :: ((digits 2 hour).toList ++ ':' :: ((digits 2 minute).toList ++
      ':' :: ((digits 2 second).toList ++ '.' :: ((digits 3 ms).toList ++ ['Z'])))))) := by
  simp [behindYear]

/-- The text of a time that is written. -/
def writtenText (t : Timestamp) : String :=
  yearText t.date.year ++ behindYear t.date.month t.date.day (t.timeOfDay / 3600000)
    (t.timeOfDay / 60000 % 60) (t.timeOfDay / 1000 % 60) (t.timeOfDay % 1000)

theorem text?_eq (t : Timestamp) :
    t.text? = if t.date.year > lastYear then none else some t.writtenText := by
  unfold text? writtenText behindYear
  simp only [String.append_assoc]
  rfl

/-- Whether a time falls before a year depends on the days that have passed. -/
theorem date_year_lt_iff (t : Timestamp) (y : Int) :
    t.date.year < y ↔ ((t.millis.toNat / dayMillis : Nat) : Int) < Calendar.newYear y :=
  Calendar.ofDays_year_lt_iff _ y

theorem date_year_nonneg (t : Timestamp) : 0 ≤ t.date.year := by
  have hStart : Calendar.newYear 0 = -719528 := by decide
  have h := t.date_year_lt_iff 0
  rw [hStart] at h
  unfold dayMillis at h
  omega

/-- The first millisecond of the year 10000. -/
def fiveDigitYears : Nat := 253402300800000

/-- The first millisecond that is too late to be written. -/
def endOfText : Nat := 8210266876800000

theorem date_year_lt_10000_iff (t : Timestamp) :
    t.date.year < 10000 ↔ t.millis.toNat < fiveDigitYears := by
  have hStart : Calendar.newYear 10000 = 2932897 := by decide
  rw [date_year_lt_iff, hStart]
  unfold dayMillis fiveDigitYears
  omega

theorem text?_eq_none_iff (t : Timestamp) : t.text? = none ↔ endOfText ≤ t.millis.toNat := by
  have hStart : Calendar.newYear (lastYear + 1) = 95026237 := by decide
  have hYear := t.date_year_lt_iff (lastYear + 1)
  rw [hStart] at hYear
  have hNone : t.text? = none ↔ t.date.year > lastYear := by
    by_cases h : t.date.year > lastYear
    · rw [text?_eq, if_pos h]
      exact iff_of_true rfl h
    · rw [text?_eq, if_neg h]
      exact iff_of_false (Option.some_ne_none _) h
  rw [hNone]
  unfold lastYear dayMillis endOfText at *
  omega

theorem toList_yearText {year : Nat} (h : year < 10000) :
    (yearText year).toList = (digits 4 year).toList := by
  have hRange : (0 : Int) ≤ year ∧ (year : Int) ≤ 9999 := by omega
  rw [yearText, if_pos hRange, Int.toNat_natCast]

theorem timeOfDay_lt (t : Timestamp) : t.timeOfDay < dayMillis := Nat.mod_lt _ (by decide)

/-- A date that there is has a month and a day of two digits. -/
theorem two_digits_of_isValid {date : Calendar.Date} (h : date.isValid = true) :
    date.month < 100 ∧ date.day < 100 := by
  have hLong : Calendar.daysInMonth date.year date.month ≤ 31 := by
    unfold Calendar.daysInMonth
    split
    · split
      all_goals omega
    · split
      all_goals omega
  simp only [Calendar.Date.isValid, Bool.and_eq_true, decide_eq_true_eq] at h
  omega

/-- The parts of a time of day add up to it. -/
theorem parts_of_timeOfDay {ms : Nat} (h : ms < dayMillis) :
    ms / 3600000 < 24 ∧ ((ms / 3600000 * 60 + ms / 60000 % 60 : Nat) : Int) * 60000 +
      (ms / 1000 % 60 : Nat) * 1000 + (ms % 1000 : Nat) = ms := by
  unfold dayMillis at h
  omega

/-- A time before the year 10000 is read back. -/
theorem parseMillis?_writtenText {t : Timestamp} (h : t.millis.toNat < fiveDigitYears) :
    parseMillis? t.writtenText = some (t.millis.toNat : Int) := by
  have hYear := t.date_year_lt_10000_iff.mpr h
  have hDate : t.date.isValid = true := Calendar.isValid_ofDays _
  have hDays : t.date.toDays = ((t.millis.toNat / dayMillis : Nat) : Int) :=
    Calendar.toDays_ofDays _
  have hWhole : dayMillis * (t.millis.toNat / dayMillis) + t.timeOfDay = t.millis.toNat :=
    Nat.div_add_mod _ _
  obtain ⟨hHour, hTime⟩ := parts_of_timeOfDay t.timeOfDay_lt
  obtain ⟨hMonth, hDay⟩ := two_digits_of_isValid hDate
  obtain ⟨year, month, day, hEq⟩ : ∃ (year month day : Nat), t.date = ⟨year, month, day⟩ :=
    ⟨t.date.year.toNat, t.date.month, t.date.day, by rw [Int.toNat_of_nonneg t.date_year_nonneg]⟩
  rw [hEq] at hYear hDate hDays hMonth hDay
  have hFour : year < 10000 := by
    have hCast : (year : Int) < 10000 := hYear
    omega
  have hText := congrArg String.toList (show t.writtenText =
    yearText year ++ behindYear month day (t.timeOfDay / 3600000) (t.timeOfDay / 60000 % 60)
      (t.timeOfDay / 1000 % 60) (t.timeOfDay % 1000) by rw [writtenText, hEq])
  rw [String.toList_append, toList_yearText hFour, toList_behindYear] at hText
  have hMinute : t.timeOfDay / 60000 % 60 < 60 := Nat.mod_lt _ (by decide)
  have hSecond : t.timeOfDay / 1000 % 60 < 60 := Nat.mod_lt _ (by decide)
  have hMs : t.timeOfDay % 1000 < 1000 := Nat.mod_lt _ (by decide)
  have hParse := parseMillis?_of_parts hText hFour hMonth hDay hDate hHour hMinute hSecond hMs
  rw [hDays] at hParse
  rw [hParse, Option.some_inj]
  generalize t.timeOfDay = ms at *
  generalize t.millis.toNat = whole at *
  generalize whole / dayMillis = days at *
  unfold dayMillis at *
  omega

/-- The text of a time from the year 10000 on begins with a sign, where readers want a digit. -/
theorem parseMillis?_writtenText_eq_none {t : Timestamp} (h : fiveDigitYears ≤ t.millis.toNat) :
    parseMillis? t.writtenText = none := by
  have hYear : ¬ t.date.year < 10000 := by
    rw [date_year_lt_10000_iff]
    exact Nat.not_lt.mpr h
  have hSigned : yearText t.date.year = "+" ++ digits 4 t.date.year.natAbs := by
    have hRange : ¬ (0 ≤ t.date.year ∧ t.date.year ≤ 9999) := by omega
    have hPositive : ¬ t.date.year < 0 := by omega
    rw [yearText, if_neg hRange, if_neg hPositive]
  obtain ⟨rest, hText⟩ : ∃ rest, t.writtenText.toList = '+' :: rest := by
    rw [writtenText, hSigned, String.append_assoc]
    generalize digits 4 t.date.year.natAbs ++ _ = more
    exact ⟨more.toList, String.toList_append⟩
  have hDigits : takeDigits? 0 4 ('+' :: rest) = none := rfl
  rw [parseMillis?, hText, hDigits, Option.bind_eq_bind, Option.bind_none]

/-! ## Reading what is written -/

theorem readJson_str (s : String) : readJson (.str (.of s)) = parse s := rfl

theorem toJson?_eq_some_iff {t : Timestamp} {j : Json} :
    t.toJson? = some j ↔ t.millis.toNat < endOfText ∧ j = .str t.writtenText := by
  have hNone := t.text?_eq_none_iff
  rw [text?_eq] at hNone
  rw [toJson?, text?_eq]
  by_cases hLate : t.date.year > lastYear
  · rw [if_pos hLate] at hNone ⊢
    have hEnd := hNone.mp rfl
    refine iff_of_false (by simp) ?_
    omega
  · rw [if_neg hLate] at hNone ⊢
    have hEnd : ¬ endOfText ≤ t.millis.toNat := by
      intro h
      cases hNone.mpr h
    rw [Option.map_some, Option.some_inj]
    constructor
    · rintro rfl
      exact ⟨by omega, rfl⟩
    · rintro ⟨-, rfl⟩
      rfl

/-- What is written of a time before the year 10000 is read as that time. -/
theorem readJson_writtenText {t : Timestamp} (h : t.millis.toNat < fiveDigitYears) :
    readJson (.str (.of t.writtenText)) = .ok t := by
  have hNotBefore : ¬ ((t.millis.toNat : Int) < 0) := by omega
  rw [readJson_str, parse, parseMillis?_writtenText h]
  simp only [if_neg hNotBefore, Int.toNat_natCast, UInt64.ofNat_toNat]

/-- What is written of a later time is no time for a reader. -/
theorem readJson_writtenText_eq_error {t : Timestamp} (h : fiveDigitYears ≤ t.millis.toNat) :
    readJson (.str (.of t.writtenText)) = .error .invalidTimestamp := by
  rw [readJson_str, parse, parseMillis?_writtenText_eq_none h]

/-- A time is not written from the end of the writer's calendar on. Before it, exactly the times
with years of four digits are read back, and the text of a later one is refused. -/
theorem read_back_iff_four_digit_year (t : Timestamp) :
    (t.toJson? = none ↔ endOfText ≤ t.millis.toNat) ∧
    ∀ j, t.toJson? = some j →
      (readJson j.toDraft = .ok t ↔ t.millis.toNat < fiveDigitYears) ∧
      (fiveDigitYears ≤ t.millis.toNat → readJson j.toDraft = .error .invalidTimestamp) := by
  constructor
  · rw [toJson?, Option.map_eq_none_iff]
    exact t.text?_eq_none_iff
  · intro j hWritten
    obtain ⟨-, rfl⟩ := toJson?_eq_some_iff.mp hWritten
    have hDraft : (Json.str t.writtenText).toDraft = .str (.of t.writtenText) := rfl
    rw [hDraft]
    refine ⟨⟨?_, readJson_writtenText⟩, readJson_writtenText_eq_error⟩
    intro hRead
    rcases Nat.lt_or_ge t.millis.toNat fiveDigitYears with hEarly | hLate
    · exact hEarly
    · rw [readJson_writtenText_eq_error hLate] at hRead
      cases hRead

theorem read_back_end_of_year_9999 :
    ∃ j, toJson? ⟨253402300799999⟩ = some j ∧ readJson j.toDraft = .ok ⟨253402300799999⟩ := by
  have hMillis : (⟨253402300799999⟩ : Timestamp).millis.toNat = 253402300799999 := rfl
  obtain ⟨hNone, hSome⟩ := read_back_iff_four_digit_year ⟨253402300799999⟩
  cases hWritten : toJson? ⟨253402300799999⟩ with
  | none =>
    have hEnd := hNone.mp hWritten
    rw [hMillis] at hEnd
    exact absurd hEnd (by decide)
  | some j => exact ⟨j, rfl, (hSome j hWritten).1.mpr (by rw [hMillis]; decide)⟩

/-- The first millisecond of the year 10000 is written, and what is written is not read. -/
theorem unreadable_text_of_year_10000 :
    ¬ ∀ t : Timestamp, t.toJson? = none ∨ ∃ j, t.toJson? = some j ∧ readJson j.toDraft = .ok t := by
  intro h
  have hMillis : (⟨253402300800000⟩ : Timestamp).millis.toNat = fiveDigitYears := rfl
  have hWritten : (⟨253402300800000⟩ : Timestamp).millis.toNat < endOfText := by
    rw [hMillis]
    decide
  have hJson := toJson?_eq_some_iff.mpr ⟨hWritten, rfl⟩
  rcases h ⟨253402300800000⟩ with hNone | ⟨j, hSome, hRead⟩
  · rw [hNone] at hJson
    cases hJson
  · obtain ⟨-, rfl⟩ := toJson?_eq_some_iff.mp hSome
    have hError := readJson_writtenText_eq_error (Nat.le_of_eq hMillis.symm)
    have hOk : readJson (.str (.of (writtenText ⟨253402300800000⟩))) = .ok ⟨253402300800000⟩ :=
      hRead
    rw [hError] at hOk
    cases hOk

end Mintage.Timestamp
