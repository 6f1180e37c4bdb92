import VpnClient.Time.Calendar

/-!
# Dates and their numbers

Every number is the number of a date that there is, and dates follow each other as their numbers do.

## Main Definitions

* `Date.daysBefore`, `Date.yearOfEra` — the years of an era, counted in days
* `Date.ofMarch` — the date of a day in a year that starts in March

## Main Statements

* `Date.dayNumber_ofDayNumber` — the date with a number has that number
* `Date.isValid_ofDayNumber` — and there is such a date
* `Date.year_ofDayNumber_bounds` — the year in which a numbered day lies
-/

namespace VpnClient

namespace Date

/-! ## The years of an era -/

/-- The days of an era before its year with a number. -/
def daysBefore (year : Nat) : Nat :=
  365 * year + year / 4 - year / 100

/-- The year of an era in which a day of the era lies. -/
def yearOfEra (day : Nat) : Nat :=
  (day - day / 1460 + day / 36524 - day / 146096) / 365

variable {day : Nat}

/-- The correction for the end of the era is there for the one day that would begin a fifth
century. -/
theorem centuries_eq (h : day < 146097) : day / 36524 = yearOfEra day / 100 + day / 146096 := by
  obtain ⟨year, hyear⟩ : ∃ year, year = yearOfEra day := ⟨_, rfl⟩
  rw [← hyear]
  rw [yearOfEra] at hyear
  have hcentury : day / 36524 = 0 ∨ day / 36524 = 1 ∨ day / 36524 = 2 ∨ day / 36524 = 3 ∨
      day / 36524 = 4 := by omega
  rcases hcentury with hcentury | hcentury | hcentury | hcentury | hcentury <;> omega

/-- A day lies in one of the four years that its group of 1460 days begins, or in the year before
them. -/
theorem yearOfEra_cases (h : day < 146097) :
    yearOfEra day + 1 = 4 * (day / 1460) ∨ yearOfEra day = 4 * (day / 1460) ∨
      yearOfEra day = 4 * (day / 1460) + 1 ∨ yearOfEra day = 4 * (day / 1460) + 2 ∨
      yearOfEra day = 4 * (day / 1460) + 3 := by
  unfold yearOfEra
  omega

theorem yearOfEra_lt (h : day < 146097) : yearOfEra day < 400 := by
  unfold yearOfEra
  omega

/-- A year of an era contains the days that are said to lie in it, and one with a day more than
others ends in a leap day. -/
theorem yearOfEra_spec (h : day < 146097) :
    daysBefore (yearOfEra day) ≤ day ∧ day ≤ daysBefore (yearOfEra day) + 365 ∧
      (day = daysBefore (yearOfEra day) + 365 → isLeapYear (yearOfEra day + 1) = true) := by
  have hcenturies := centuries_eq h
  have hcases := yearOfEra_cases h
  have hlt := yearOfEra_lt h
  have hyear : yearOfEra day = (day - day / 1460 + yearOfEra day / 100) / 365 := by
    rw [show day - day / 1460 + yearOfEra day / 100 =
      day - day / 1460 + day / 36524 - day / 146096 by omega]
    rfl
  simp only [isLeapYear, Bool.and_eq_true, Bool.or_eq_true, beq_iff_eq, bne_iff_ne]
  unfold daysBefore
  -- the place of the year in its group of four is all that is left to tell
  generalize yearOfEra day = year at hcenturies hcases hlt hyear ⊢
  refine ⟨?_, ?_, ?_⟩ <;> rcases hcases with hcase | hcase | hcase | hcase | hcase <;> omega

/-! ## The days of a year -/

/-- The date of a day in a year that starts in March. -/
def ofMarch (year : Int) (dayOfYear : Nat) : Date :=
  let march := (5 * dayOfYear + 2) / 153
  let month := if march < 10 then march + 3 else march - 9
  ⟨if month ≤ 2 then year + 1 else year, month, dayOfYear - (153 * march + 2) / 5 + 1⟩

variable {year : Int} {dayOfYear : Nat}

/-- A day of the year lies in a month that has such a day, the last one only in a leap year. -/
theorem isValid_ofMarch (h : dayOfYear ≤ 365)
    (hleap : dayOfYear = 365 → isLeapYear (year + 1) = true) :
    (ofMarch year dayOfYear).isValid = true := by
  have hmarch : (5 * dayOfYear + 2) / 153 < 12 := by omega
  simp only [isValid, Bool.and_eq_true, decide_eq_true_eq]
  simp only [ofMarch, daysInMonth]
  by_cases hfebruary : (5 * dayOfYear + 2) / 153 = 11
  · simp only [hfebruary]
    by_cases hlast : dayOfYear = 365
    · simp [hlast, hleap hlast]
    · simp only [Nat.reduceLT, Nat.reduceSub, if_false, if_true]
      split <;> split <;> omega
  · split <;> split <;> split <;> omega

/-- January and February belong to the calendar year that begins in them. -/
theorem year_ofMarch (h : dayOfYear ≤ 365) :
    (ofMarch year dayOfYear).year = if dayOfYear < 306 then year else year + 1 := by
  simp only [ofMarch]
  split <;> split <;> split <;> omega

/-- The year and the month that the number of a date is made from are those the date was made
from. -/
theorem dayNumber_ofMarch (h : dayOfYear ≤ 365) :
    (ofMarch year dayOfYear).dayNumber =
      year / 400 * 146097 + (year % 400 * 365 + year % 400 / 4 - year % 400 / 100 + dayOfYear) -
        epochOffset := by
  have hmarch : (5 * dayOfYear + 2) / 153 < 12 := by omega
  simp only [dayNumber, ofMarch]
  split <;> split <;> omega

/-- Wherever there is a date, its month and its day have at most two digits. -/
theorem bounds_of_isValid {date : Date} (h : date.isValid = true) :
    1 ≤ date.month ∧ date.month ≤ 12 ∧ 1 ≤ date.day ∧ date.day ≤ 31 := by
  have hmost : daysInMonth date.year date.month ≤ 31 := by
    rw [daysInMonth]
    repeat' split
    all_goals omega
  simp only [isValid, Bool.and_eq_true, decide_eq_true_eq] at h
  omega

/-! ## Numbered days -/

/-- A numbered day is a day of a year of an era. -/
theorem exists_ofMarch (number : Int) :
    ∃ (era : Int) (year dayOfYear : Nat), year < 400 ∧ dayOfYear ≤ 365 ∧
      (dayOfYear = 365 → isLeapYear (year + 1) = true) ∧
      number + epochOffset = era * 146097 + daysBefore year + dayOfYear ∧
      ofDayNumber number = ofMarch (year + era * 400) dayOfYear := by
  have hday : ((number + epochOffset) % 146097).toNat < 146097 := by omega
  obtain ⟨hbegun, hlast, hleap⟩ := yearOfEra_spec hday
  refine ⟨(number + epochOffset) / 146097,
    yearOfEra ((number + epochOffset) % 146097).toNat,
    ((number + epochOffset) % 146097).toNat -
      daysBefore (yearOfEra ((number + epochOffset) % 146097).toNat),
    yearOfEra_lt hday, by omega, ?_, by omega, rfl⟩
  intro hlong
  exact hleap (by omega)

/-- Eras make no difference to leap years. -/
theorem isLeapYear_add_era (year era : Int) : isLeapYear (year + era * 400) = isLeapYear year := by
  have h4 : (year + era * 400) % 4 = year % 4 := by omega
  have h100 : (year + era * 400) % 100 = year % 100 := by omega
  have h400 : (year + era * 400) % 400 = year % 400 := by omega
  rw [isLeapYear, isLeapYear, h4, h100, h400]

/-- The date with a number exists. -/
theorem isValid_ofDayNumber (number : Int) : (ofDayNumber number).isValid = true := by
  obtain ⟨era, year, dayOfYear, -, hday, hleap, -, hdate⟩ := exists_ofMarch number
  rw [hdate]
  refine isValid_ofMarch hday ?_
  intro hlast
  rw [show (year : Int) + era * 400 + 1 = year + 1 + era * 400 by omega, isLeapYear_add_era]
  exact hleap hlast

/-- The date with a number has that number. -/
theorem dayNumber_ofDayNumber (number : Int) : (ofDayNumber number).dayNumber = number := by
  obtain ⟨era, year, dayOfYear, hyear, hday, -, hnumber, hdate⟩ := exists_ofMarch number
  have hera : ((year : Int) + era * 400) / 400 = era := by omega
  have hrest : ((year : Int) + era * 400) % 400 = year := by omega
  rw [hdate, dayNumber_ofMarch hday, hera, hrest]
  unfold daysBefore at hnumber
  omega

/-- A day does not come before the year it lies in, and comes before the next year. -/
theorem year_ofDayNumber_bounds (number : Int) :
    (mk (ofDayNumber number).year 1 1).dayNumber ≤ number ∧
      number < (mk ((ofDayNumber number).year + 1) 1 1).dayNumber := by
  obtain ⟨era, year, dayOfYear, -, hday, -, -, hdate⟩ := exists_ofMarch number
  have hnumber := dayNumber_ofDayNumber number
  rw [hdate, dayNumber_ofMarch hday] at hnumber
  rw [hdate, year_ofMarch hday]
  generalize (year : Int) + era * 400 = march at hnumber
  simp only [dayNumber]
  split <;> omega

/-- Years come one after the other. -/
theorem dayNumber_newYear_mono {year later : Int} (h : year ≤ later) :
    (mk year 1 1).dayNumber ≤ (mk later 1 1).dayNumber := by
  simp only [dayNumber]
  omega

end Date

end VpnClient
