/-!
# The Gregorian calendar

Days are counted from the first of January 1970, backwards too, and dated by the Gregorian rules
for all years. A year is reckoned from March, so that a leap day is its last day; then four
years, a hundred years and four hundred years each have a fixed count of days but for the last
day of the last part.

## Main definitions

- `Time.Date` — a year, a month and a day of the month
- `Time.Date.ofDayNumber` — the date of a day
- `Time.Date.dayNumber` — the day of a date

## Main statements

- `dayNumber_ofDayNumber` — a day is the day of its date
-/

namespace MediaTypes

namespace Time

structure Date where
  /-- The year; the year before year 1 is year 0. -/
  year : Int
  /-- The month, from 1. -/
  month : Nat
  /-- The day of the month, from 1. -/
  day : Nat
  deriving DecidableEq

namespace Date

def daysPerEra : Int := 146097

/-- The days from the first of March of year 0 to the first of January 1970. -/
def epochOffset : Int := 719468

/-- The days before a month of a year that is reckoned from March, which is month 0. -/
def daysBeforeMonth (month : Int) : Int :=
  (153 * month + 2) / 5

/-- The days before a year that is reckoned from March, counted from the first of March of
year 0. -/
def daysBeforeYear (year : Int) : Int :=
  365 * year + year / 4 - year / 100 + year / 400

/-- The year reckoned from March, and the day in it from 0, of a day counted from the first of
March of year 0. -/
def yearAndDay (n : Int) : Int × Int :=
  let era := n / daysPerEra
  let inEra := n % daysPerEra
  let century := min (inEra / 36524) 3
  let inCentury := inEra - 36524 * century
  let four := inCentury / 1461
  let inFour := inCentury % 1461
  let one := min (inFour / 365) 3
  (400 * era + 100 * century + 4 * four + one, inFour - 365 * one)

/-- The date of a day, counted from the first of January 1970. -/
def ofDayNumber (n : Int) : Date :=
  let (year, day) := yearAndDay (n + epochOffset)
  let month := (5 * day + 2) / 153
  let dayOfMonth := (day - daysBeforeMonth month + 1).toNat
  if month < 10 then ⟨year, (month + 3).toNat, dayOfMonth⟩
  else ⟨year + 1, (month - 9).toNat, dayOfMonth⟩

/-- The day of a date, counted from the first of January 1970. -/
def dayNumber (d : Date) : Int :=
  let (year, month) : Int × Int :=
    if 3 ≤ d.month then (d.year, d.month - 3) else (d.year - 1, d.month + 9)
  daysBeforeYear year + daysBeforeMonth month + d.day - 1 - epochOffset

/-- A day lies in the year it is reckoned to, on a day of that year. -/
theorem yearAndDay_eq (n : Int) {year day : Int} (h : yearAndDay n = (year, day)) :
    n = daysBeforeYear year + day ∧ 0 ≤ day ∧ day ≤ 365 := by
  simp only [yearAndDay, daysPerEra, Prod.mk.injEq] at h
  obtain ⟨rfl, rfl⟩ := h
  unfold daysBeforeYear
  have hn : n = 146097 * (n / 146097) + n % 146097 := by omega
  have hlo : 0 ≤ n % 146097 := by omega
  have hhi : n % 146097 < 146097 := by omega
  generalize n % 146097 = r at *
  generalize n / 146097 = era at *
  have hcentury : 0 ≤ min (r / 36524) 3 ∧ min (r / 36524) 3 ≤ 3 ∧
      0 ≤ r - 36524 * min (r / 36524) 3 ∧ r - 36524 * min (r / 36524) 3 ≤ 36524 := by omega
  generalize min (r / 36524) 3 = century at *
  have hfour : r - 36524 * century =
      1461 * ((r - 36524 * century) / 1461) + (r - 36524 * century) % 1461 := by omega
  have hfour' : 0 ≤ (r - 36524 * century) / 1461 ∧ (r - 36524 * century) / 1461 ≤ 24 := by omega
  generalize (r - 36524 * century) / 1461 = four at *
  have hone : 0 ≤ min ((r - 36524 * century) % 1461 / 365) 3 ∧
      min ((r - 36524 * century) % 1461 / 365) 3 ≤ 3 := by omega
  have hday : 0 ≤ (r - 36524 * century) % 1461 -
        365 * min ((r - 36524 * century) % 1461 / 365) 3 ∧
      (r - 36524 * century) % 1461 -
        365 * min ((r - 36524 * century) % 1461 / 365) 3 ≤ 365 := by omega
  generalize min ((r - 36524 * century) % 1461 / 365) 3 = one at *
  have h4 : (400 * era + 100 * century + 4 * four + one) / 4 =
      100 * era + 25 * century + four := by omega
  have h100 : (400 * era + 100 * century + 4 * four + one) / 100 = 4 * era + century := by omega
  have h400 : (400 * era + 100 * century + 4 * four + one) / 400 = era := by omega
  rw [h4, h100, h400]
  exact ⟨by omega, hday⟩

/-- A day is the day of its date. -/
theorem dayNumber_ofDayNumber (n : Int) : (ofDayNumber n).dayNumber = n := by
  unfold ofDayNumber
  rcases hp : yearAndDay (n + epochOffset) with ⟨year, day⟩
  obtain ⟨hn, hlo, hhi⟩ := yearAndDay_eq _ hp
  simp only [dayNumber, daysBeforeMonth, epochOffset] at *
  split
  · have hmonth : (3 : Nat) ≤ ((5 * day + 2) / 153 + 3).toNat := by omega
    have hcast : (((5 * day + 2) / 153 + 3).toNat : Int) - 3 = (5 * day + 2) / 153 := by omega
    rw [if_pos hmonth]
    simp only [hcast]
    omega
  · have hmonth : ¬(3 : Nat) ≤ ((5 * day + 2) / 153 - 9).toNat := by omega
    have hcast : (((5 * day + 2) / 153 - 9).toNat : Int) + 9 = (5 * day + 2) / 153 := by omega
    rw [if_neg hmonth]
    simp only [hcast, Int.add_sub_cancel]
    omega

end Date

end Time

end MediaTypes
