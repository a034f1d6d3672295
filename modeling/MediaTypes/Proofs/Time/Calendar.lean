import MediaTypes.Time.Calendar
import Mathlib.Tactic.IntervalCases

/-!
# The calendar day by day

The Gregorian calendar is given by its rule for the next day: a month has its days, a year its
months, and February has one day more in a leap year. The dates that are computed from the
numbers of days follow this rule, forwards and backwards from the beginning of 1970.

## Main definitions

- `Time.IsLeapYear`, `Time.monthLength` — the rules of the calendar
- `Time.Date.Valid`, `Time.Date.next` — the dates of the calendar, and the date of the next day
- `Time.Date.IsDay` — the day of a number has the date
- `Time.Date.Before` — the order of the dates

## Main statements

- `dayNumber_next` — the number of the next day
- `dayNumber_lt_of_before` — days are counted in the order of their dates
- `ofDayNumber_add_one` — the date of the next day
- `isDay_iff` — the date of a number is the one that is computed
-/

namespace MediaTypes

namespace Time

/-- Every fourth year has a leap day, but of the full centuries only every fourth. -/
def IsLeapYear (year : Int) : Prop :=
  year % 4 = 0 ∧ (year % 100 ≠ 0 ∨ year % 400 = 0)

instance (year : Int) : Decidable (IsLeapYear year) :=
  inferInstanceAs (Decidable (_ ∧ _))

/-- The days of a month. -/
def monthLength (year : Int) (month : Nat) : Nat :=
  if month = 2 then if IsLeapYear year then 29 else 28
  else if month = 4 ∨ month = 6 ∨ month = 9 ∨ month = 11 then 30
  else 31

namespace Date

/-- A date of the calendar. -/
structure Valid (d : Date) : Prop where
  month_pos : 1 ≤ d.month
  month_le : d.month ≤ 12
  day_pos : 1 ≤ d.day
  day_le : d.day ≤ monthLength d.year d.month

instance (d : Date) : Decidable d.Valid :=
  decidable_of_iff
    (1 ≤ d.month ∧ d.month ≤ 12 ∧ 1 ≤ d.day ∧ d.day ≤ monthLength d.year d.month)
    ⟨fun ⟨hpos, hle, hday, hlength⟩ => ⟨hpos, hle, hday, hlength⟩,
      fun ⟨hpos, hle, hday, hlength⟩ => ⟨hpos, hle, hday, hlength⟩⟩

/-- The date of the next day. -/
def next (d : Date) : Date :=
  if d.day < monthLength d.year d.month then ⟨d.year, d.month, d.day + 1⟩
  else if d.month < 12 then ⟨d.year, d.month + 1, 1⟩
  else ⟨d.year + 1, 1, 1⟩

/-- The day of a number, counted from the first of January 1970, has the date. -/
inductive IsDay : Int → Date → Prop where
  | epoch : IsDay 0 ⟨1970, 1, 1⟩
  | next {n : Int} {d : Date} (h : IsDay n d) : IsDay (n + 1) d.next
  | previous {n : Int} {d : Date} (valid : d.Valid) (h : IsDay (n + 1) d.next) : IsDay n d

/-- A date is before another when its year, its month in the same year, or its day in the same month
is. -/
def Before (d e : Date) : Prop :=
  d.year < e.year ∨ d.year = e.year ∧ (d.month < e.month ∨ d.month = e.month ∧ d.day < e.day)

variable {d e : Date}

/-- A year reckoned from March has a leap day when it ends in a leap year. -/
theorem daysBeforeYear_add_one (year : Int) :
    daysBeforeYear (year + 1) =
      daysBeforeYear year + if IsLeapYear (year + 1) then 366 else 365 := by
  by_cases h : IsLeapYear (year + 1)
  · rw [if_pos h]
    unfold IsLeapYear at h
    unfold daysBeforeYear
    omega
  · rw [if_neg h]
    unfold IsLeapYear at h
    unfold daysBeforeYear
    omega

/-- Only a year that ends in a leap year has a day 365. -/
theorem isLeapYear_of_yearAndDay {n year : Int} (h : yearAndDay n = (year, 365)) :
    IsLeapYear (year + 1) := by
  simp only [yearAndDay, daysPerEra, Prod.mk.injEq] at h
  obtain ⟨rfl, hday⟩ := h
  unfold IsLeapYear
  have hlo : 0 ≤ n % 146097 := by omega
  have hhi : n % 146097 < 146097 := by omega
  generalize n % 146097 = r at *
  generalize n / 146097 = era at *
  have hone : (r - 36524 * min (r / 36524) 3) % 1461 = 1460 ∧
      min ((r - 36524 * min (r / 36524) 3) % 1461 / 365) 3 = 3 := by omega
  obtain ⟨hfour, hone⟩ := hone
  rw [hone]
  have hcentury : (min (r / 36524) 3 = 3 ∨ r - 36524 * min (r / 36524) 3 < 36524) ∧
      0 ≤ min (r / 36524) 3 ∧ min (r / 36524) 3 ≤ 3 ∧
      0 ≤ r - 36524 * min (r / 36524) 3 ∧ r - 36524 * min (r / 36524) 3 ≤ 36524 := by omega
  generalize min (r / 36524) 3 = century at *
  generalize r - 36524 * century = inCentury at *
  omega

theorem valid_ofDayNumber (n : Int) : (ofDayNumber n).Valid := by
  unfold ofDayNumber
  rcases hp : yearAndDay (n + epochOffset) with ⟨year, day⟩
  obtain ⟨-, hlo, hhi⟩ := yearAndDay_eq _ hp
  have hleap : day = 365 → IsLeapYear (year + 1) := by
    rintro rfl
    exact isLeapYear_of_yearAndDay hp
  simp only
  obtain ⟨month, hmonth⟩ : ∃ month, month = (5 * day + 2) / 153 := ⟨_, rfl⟩
  rw [← hmonth]
  have hpos : 0 ≤ month := by omega
  have hlt : month < 12 := by omega
  by_cases hlast : month = 11
  · -- February, whose length is that of the year
    subst hlast
    by_cases hyear : IsLeapYear (year + 1)
    · constructor <;> simp [daysBeforeMonth, monthLength, hyear] <;> omega
    · have hday : day ≠ 365 := fun h => hyear (hleap h)
      constructor <;> simp [daysBeforeMonth, monthLength, hyear] <;> omega
  · interval_cases month <;> constructor <;> simp [monthLength, daysBeforeMonth] <;> omega

/-- The days of a month end where the next month begins. -/
theorem dayNumber_monthLength (year : Int) {month : Nat} (hpos : 1 ≤ month) (hlt : month < 12) :
    dayNumber ⟨year, month + 1, 1⟩ =
      dayNumber ⟨year, month, monthLength year month⟩ + 1 := by
  have hyear := daysBeforeYear_add_one (year - 1)
  rw [Int.sub_add_cancel] at hyear
  by_cases hleap : IsLeapYear year
  · rw [if_pos hleap] at hyear
    interval_cases month <;> simp [dayNumber, daysBeforeMonth, monthLength, hleap] <;> omega
  · rw [if_neg hleap] at hyear
    interval_cases month <;> simp [dayNumber, daysBeforeMonth, monthLength, hleap] <;> omega

theorem dayNumber_next (h : d.Valid) : d.next.dayNumber = d.dayNumber + 1 := by
  obtain ⟨year, month, day⟩ := d
  obtain ⟨hpos, hle, hday, hlength⟩ := h
  simp only at hpos hle hday hlength
  unfold next
  simp only
  split
  · simp only [dayNumber]
    split <;> omega
  next hlast =>
    obtain rfl : day = monthLength year month := by omega
    split
    next hlt => exact dayNumber_monthLength year hpos hlt
    next hnot =>
      obtain rfl : month = 12 := by omega
      simp [dayNumber, daysBeforeMonth, monthLength]
      omega

theorem monthLength_pos (year : Int) (month : Nat) : 1 ≤ monthLength year month := by
  unfold monthLength
  split
  · split <;> omega
  · split <;> omega

theorem monthLength_le (year : Int) (month : Nat) : monthLength year month ≤ 31 := by
  unfold monthLength
  split
  · split <;> omega
  · split <;> omega

theorem valid_next (h : d.Valid) : d.next.Valid := by
  obtain ⟨year, month, day⟩ := d
  obtain ⟨hpos, hle, hday, hlength⟩ := h
  unfold next
  split
  next hlt => exact ⟨hpos, hle, Nat.succ_pos day, hlt⟩
  next hlast =>
    split
    next hlt => exact ⟨Nat.succ_pos month, hlt, Nat.le_refl 1, monthLength_pos _ _⟩
    next hnot => exact ⟨Nat.le_refl 1, Nat.succ_pos 11, Nat.le_refl 1, monthLength_pos _ _⟩

theorem dayNumber_sub_day (year : Int) (month day : Nat) :
    dayNumber ⟨year, month, day⟩ = dayNumber ⟨year, month, 1⟩ + day - 1 := by
  simp only [dayNumber]
  split <;> omega

theorem dayNumber_lt_of_month_lt {year : Int} {month month' day : Nat} (hpos : 1 ≤ month)
    (hday : day ≤ monthLength year month) (hlt : month < month') (hle : month' ≤ 12) :
    dayNumber ⟨year, month, day⟩ < dayNumber ⟨year, month', 1⟩ := by
  induction month', hlt using Nat.le_induction with
  | base =>
    have hnext := dayNumber_monthLength year hpos (show month < 12 by omega)
    rw [Nat.succ_eq_add_one]
    have := dayNumber_sub_day year month day
    have := dayNumber_sub_day year month (monthLength year month)
    omega
  | succ month' hlt ih =>
    have hlast := ih (by omega)
    have hnext := dayNumber_monthLength year (show 1 ≤ month' by omega) (by omega)
    have := dayNumber_sub_day year month' (monthLength year month')
    omega

theorem dayNumber_lt_of_year_lt {year year' : Int} (h : year < year') :
    dayNumber ⟨year, 12, 31⟩ < dayNumber ⟨year', 1, 1⟩ := by
  simp [dayNumber, daysBeforeMonth, daysBeforeYear]
  omega

theorem dayNumber_le_newYearsEve (h : d.Valid) : d.dayNumber ≤ dayNumber ⟨d.year, 12, 31⟩ := by
  obtain ⟨year, month, day⟩ := d
  obtain ⟨hpos, hle, hday, hlength⟩ := h
  simp only at hpos hle hday hlength
  have := dayNumber_sub_day year 12 31
  rcases Nat.lt_or_eq_of_le hle with hlt | rfl
  · have := dayNumber_lt_of_month_lt hpos hlength hlt (Nat.le_refl 12)
    simp only
    omega
  · have hlength' : monthLength year 12 = 31 := rfl
    have := dayNumber_sub_day year 12 day
    simp only
    omega

theorem newYear_le_dayNumber (h : d.Valid) : dayNumber ⟨d.year, 1, 1⟩ ≤ d.dayNumber := by
  obtain ⟨year, month, day⟩ := d
  obtain ⟨hpos, hle, hday, hlength⟩ := h
  simp only at hpos hle hday hlength
  have := dayNumber_sub_day year month day
  rcases Nat.lt_or_eq_of_le hpos with hlt | rfl
  · have := dayNumber_lt_of_month_lt (Nat.le_refl 1) (monthLength_pos year 1) hlt hle
    simp only
    omega
  · simp only
    omega

/-- Days are counted in the order of their dates. -/
theorem dayNumber_lt_of_before (hd : d.Valid) (he : e.Valid) (h : d.Before e) :
    d.dayNumber < e.dayNumber := by
  rcases h with hyear | ⟨hyear, hmonth⟩
  · calc
      d.dayNumber ≤ dayNumber ⟨d.year, 12, 31⟩ := dayNumber_le_newYearsEve hd
      _ < dayNumber ⟨e.year, 1, 1⟩ := dayNumber_lt_of_year_lt hyear
      _ ≤ e.dayNumber := newYear_le_dayNumber he
  · obtain ⟨year, month, day⟩ := d
    obtain ⟨year', month', day'⟩ := e
    obtain rfl : year = year' := hyear
    have hday' : 1 ≤ day' := he.day_pos
    have hfirst := dayNumber_sub_day year month' day'
    rcases hmonth with hmonth | ⟨hmonth, hday⟩
    · have := dayNumber_lt_of_month_lt hd.month_pos hd.day_le hmonth he.month_le
      simp only at this
      omega
    · obtain rfl : month = month' := hmonth
      have := dayNumber_sub_day year month day
      simp only at hday
      omega

theorem eq_or_before_or_before (d e : Date) : d = e ∨ d.Before e ∨ e.Before d := by
  rcases d with ⟨year, month, day⟩
  rcases e with ⟨year', month', day'⟩
  simp only [Before, mk.injEq]
  omega

/-- A number belongs to one date only. -/
theorem eq_of_dayNumber_eq (hd : d.Valid) (he : e.Valid) (h : d.dayNumber = e.dayNumber) :
    d = e := by
  rcases eq_or_before_or_before d e with heq | hbefore | hbefore
  · exact heq
  · have := dayNumber_lt_of_before hd he hbefore
    omega
  · have := dayNumber_lt_of_before he hd hbefore
    omega

/-- Later days have later dates. -/
theorem ofDayNumber_before {m n : Int} (h : m < n) : (ofDayNumber m).Before (ofDayNumber n) := by
  have hm := dayNumber_ofDayNumber m
  have hn := dayNumber_ofDayNumber n
  rcases eq_or_before_or_before (ofDayNumber m) (ofDayNumber n) with heq | hbefore | hbefore
  · rw [heq] at hm
    omega
  · exact hbefore
  · have := dayNumber_lt_of_before (valid_ofDayNumber n) (valid_ofDayNumber m) hbefore
    omega

/-- The date of the next day is the next date. -/
theorem ofDayNumber_add_one (n : Int) : ofDayNumber (n + 1) = (ofDayNumber n).next := by
  apply eq_of_dayNumber_eq (valid_ofDayNumber (n + 1)) (valid_next (valid_ofDayNumber n))
  rw [dayNumber_next (valid_ofDayNumber n), dayNumber_ofDayNumber, dayNumber_ofDayNumber]

/-- The date of a number is the one that is computed. -/
theorem isDay_iff {n : Int} : IsDay n d ↔ d = ofDayNumber n := by
  constructor
  · intro h
    induction h with
    | epoch => decide
    | next h ih => rw [ih, ofDayNumber_add_one]
    | @previous n d valid h ih =>
      -- the date before a date is found by its number
      apply eq_of_dayNumber_eq valid (valid_ofDayNumber n)
      have hnext := dayNumber_next valid
      rw [ih, dayNumber_ofDayNumber] at hnext
      rw [dayNumber_ofDayNumber]
      omega
  · rintro rfl
    induction n using Int.induction_on with
    | zero => exact .epoch
    | succ n ih =>
      rw [ofDayNumber_add_one]
      exact .next ih
    | pred n ih =>
      apply IsDay.previous (valid_ofDayNumber _)
      rw [← ofDayNumber_add_one, Int.sub_add_cancel]
      exact ih

/-- A date is the date of its number. -/
theorem isDay_iff_dayNumber_eq {n : Int} : IsDay n d ↔ d.Valid ∧ d.dayNumber = n := by
  rw [isDay_iff]
  constructor
  · rintro rfl
    exact ⟨valid_ofDayNumber n, dayNumber_ofDayNumber n⟩
  · rintro ⟨hvalid, rfl⟩
    exact eq_of_dayNumber_eq hvalid (valid_ofDayNumber _) (dayNumber_ofDayNumber _).symm

theorem year_mono {m n : Int} (h : m ≤ n) : (ofDayNumber m).year ≤ (ofDayNumber n).year := by
  rcases Int.lt_or_eq_of_le h with hlt | rfl
  · have := ofDayNumber_before hlt
    unfold Before at this
    omega
  · exact Int.le_refl _

end Date

end Time

end MediaTypes
