import MediaTypes.Proofs.Text.Layout
import MediaTypes.Proofs.Time.Calendar
import MediaTypes.Proofs.Time.Clock
import MediaTypes.Time.Timestamp

/-!
# What timestamps denote

A timestamp writes the date and the time of day in numerals of fixed width, from the year down to
the millisecond. It denotes one count of milliseconds since the beginning of 1970, that of the clock
reading from which it was made, and timestamps are ordered as the times are.

## Main definitions

- `Time.Moment.IsAt` — the moment lies so many milliseconds after the beginning of 1970
- `Time.Denotes` — the text is a timestamp of so many milliseconds
- `Time.readStamp?` — the milliseconds that a timestamp denotes
- `Time.Shown` — the clock reading of a time lies in the years 1 to 9999

## Main statements

- `readStamp?_eq_some_iff` — a timestamp is read as what it denotes
- `shown_iff_bounds` — the times that are shown
- `stamp_of_shown`, `exists_stamp_error` — these and no other times have a timestamp
- `denotes_of_stamp` — a timestamp denotes the clock reading, to the millisecond
- `stamp_le` — timestamps are ordered as the times are
-/

namespace MediaTypes

namespace Time

variable {a b ms us : Int} {text : String} {m : Moment}

namespace Moment

/-- The moment lies so many milliseconds after the beginning of 1970. -/
def IsAt (m : Moment) (ms : Int) : Prop :=
  ∃ n, Date.IsDay n m.date ∧ m.hour < 24 ∧ m.minute < 60 ∧ m.second < 60 ∧ m.millisecond < 1000 ∧
    ms = n * millisecondsPerDay + m.hour * 3600000 + m.minute * 60000 + m.second * 1000 +
      m.millisecond

/-- A moment of the calendar. -/
structure Valid (m : Moment) : Prop where
  date : m.date.Valid
  hour_lt : m.hour < 24
  minute_lt : m.minute < 60
  second_lt : m.second < 60
  millisecond_lt : m.millisecond < 1000

instance (m : Moment) : Decidable m.Valid :=
  decidable_of_iff
    (m.date.Valid ∧ m.hour < 24 ∧ m.minute < 60 ∧ m.second < 60 ∧ m.millisecond < 1000)
    ⟨fun ⟨hdate, hhour, hminute, hsecond, hmillisecond⟩ =>
      ⟨hdate, hhour, hminute, hsecond, hmillisecond⟩,
      fun ⟨hdate, hhour, hminute, hsecond, hmillisecond⟩ =>
      ⟨hdate, hhour, hminute, hsecond, hmillisecond⟩⟩

/-- The milliseconds from the beginning of 1970 to a moment. -/
def milliseconds (m : Moment) : Int :=
  m.date.dayNumber * millisecondsPerDay + m.hour * 3600000 + m.minute * 60000 + m.second * 1000 +
    m.millisecond

theorem isAt_iff_milliseconds_eq : m.IsAt ms ↔ m.Valid ∧ m.milliseconds = ms := by
  unfold IsAt milliseconds
  simp only [Date.isDay_iff_dayNumber_eq]
  constructor
  · rintro ⟨n, ⟨hdate, rfl⟩, hhour, hminute, hsecond, hmillisecond, rfl⟩
    exact ⟨⟨hdate, hhour, hminute, hsecond, hmillisecond⟩, rfl⟩
  · rintro ⟨⟨hdate, hhour, hminute, hsecond, hmillisecond⟩, rfl⟩
    exact ⟨_, ⟨hdate, rfl⟩, hhour, hminute, hsecond, hmillisecond, rfl⟩

/-- The numbers that show a moment, the year first. -/
def values (m : Moment) : List Nat :=
  [m.date.year.toNat, m.date.month, m.date.day, m.hour, m.minute, m.second, m.millisecond]

theorem isAt_ofMilliseconds (ms : Int) : (ofMilliseconds ms).IsAt ms := by
  refine ⟨ms / millisecondsPerDay, Date.isDay_iff.2 rfl, ?_⟩
  simp only [ofMilliseconds, millisecondsPerDay]
  omega

end Moment

/-- The widths of the numerals of a timestamp, each with what follows it. -/
def stampLayout : List (Nat × Char) :=
  [(4, '-'), (2, '-'), (2, 'T'), (2, ':'), (2, ':'), (2, '.'), (3, 'Z')]

/-- The text is the timestamp of a moment that lies so many milliseconds after the beginning of
1970. -/
def Denotes (text : String) (ms : Int) : Prop :=
  ∃ m : Moment, m.IsAt ms ∧ 0 ≤ m.date.year ∧ Text.Fills stampLayout m.values text.toList

/-- The moment that a row of numbers shows, if there is one. -/
def momentOf? : List Nat → Option Moment
  | [year, month, day, hour, minute, second, millisecond] =>
    let m : Moment := ⟨⟨year, month, day⟩, hour, minute, second, millisecond⟩
    if m.Valid then some m else none
  | _ => none

/-- The milliseconds that a timestamp denotes. -/
def readStamp? (text : String) : Option Int :=
  ((Text.readLayout? stampLayout text.toList).bind momentOf?).map Moment.milliseconds

theorem momentOf?_eq_some_iff {values : List Nat} :
    momentOf? values = some m ↔ m.Valid ∧ 0 ≤ m.date.year ∧ values = m.values := by
  constructor
  · intro h
    unfold momentOf? at h
    split at h
    next year month day hour minute second millisecond =>
      simp only [Option.ite_none_right_eq_some, Option.some.injEq] at h
      obtain ⟨hvalid, rfl⟩ := h
      exact ⟨hvalid, Int.natCast_nonneg year, rfl⟩
    next => cases h
  · rintro ⟨hvalid, hyear, rfl⟩
    obtain ⟨⟨year, month, day⟩, hour, minute, second, millisecond⟩ := m
    obtain ⟨year, rfl⟩ := Int.eq_ofNat_of_zero_le hyear
    exact if_pos hvalid

/-- A timestamp is read as what it denotes. -/
theorem readStamp?_eq_some_iff : readStamp? text = some ms ↔ Denotes text ms := by
  simp only [readStamp?, Denotes, Option.map_eq_some_iff, Option.bind_eq_some_iff,
    Text.readLayout?_eq_some_iff, momentOf?_eq_some_iff, Moment.isAt_iff_milliseconds_eq]
  constructor
  · rintro ⟨m, ⟨values, hfills, hvalid, hyear, rfl⟩, rfl⟩
    exact ⟨m, ⟨hvalid, rfl⟩, hyear, hfills⟩
  · rintro ⟨m, ⟨hvalid, rfl⟩, hyear, hfills⟩
    exact ⟨m, ⟨m.values, hfills, hvalid, hyear, rfl⟩, rfl⟩

theorem Moment.chars_eq (m : Moment) :
    m.chars = Text.fixedDigits 10 4 m.date.year.toNat ++ '-' ::
      (Text.fixedDigits 10 2 m.date.month ++ '-' ::
        (Text.fixedDigits 10 2 m.date.day ++ 'T' ::
          (Text.fixedDigits 10 2 m.hour ++ ':' ::
            (Text.fixedDigits 10 2 m.minute ++ ':' ::
              (Text.fixedDigits 10 2 m.second ++ '.' ::
                (Text.fixedDigits 10 3 m.millisecond ++ ['Z'])))))) := by
  simp only [chars, List.append_assoc, List.cons_append]

/-- A moment up to the year 9999 is shown by its numbers. -/
theorem Moment.Valid.fills (h : m.Valid) (hyear : m.date.year ≤ 9999) :
    Text.Fills stampLayout m.values m.chars := by
  have hmonth := h.date.month_le
  have hday := Nat.le_trans h.date.day_le (Date.monthLength_le _ _)
  have hhour := h.hour_lt
  have hminute := h.minute_lt
  have hsecond := h.second_lt
  have hmillisecond := h.millisecond_lt
  rw [Moment.chars_eq]
  refine .fixedDigits _ ?_ <| .fixedDigits _ ?_ <| .fixedDigits _ ?_ <| .fixedDigits _ ?_ <|
    .fixedDigits _ ?_ <| .fixedDigits _ ?_ <| .fixedDigits _ ?_ .nil
  all_goals omega

theorem valid_ofMilliseconds (ms : Int) : (Moment.ofMilliseconds ms).Valid :=
  (Moment.isAt_iff_milliseconds_eq.1 (Moment.isAt_ofMilliseconds ms)).1

/-- The time of day is compared by hours, then minutes, seconds and milliseconds. -/
theorem timeOfDay_lt {m n : Nat} (h : m < n) :
    m / 3600000 < n / 3600000 ∨ m / 3600000 = n / 3600000 ∧
      (m / 60000 % 60 < n / 60000 % 60 ∨ m / 60000 % 60 = n / 60000 % 60 ∧
        (m / 1000 % 60 < n / 1000 % 60 ∨ m / 1000 % 60 = n / 1000 % 60 ∧
          m % 1000 < n % 1000)) := by
  by_cases hhour : m / 3600000 = n / 3600000
  · by_cases hminute : m / 60000 % 60 = n / 60000 % 60
    · by_cases hsecond : m / 1000 % 60 = n / 1000 % 60
      · exact .inr ⟨hhour, .inr ⟨hminute, .inr ⟨hsecond, by omega⟩⟩⟩
      · exact .inr ⟨hhour, .inr ⟨hminute, .inl (by omega)⟩⟩
    · exact .inr ⟨hhour, .inl (by omega)⟩
  · exact .inl (by omega)

/-- Moments of the years from 0 on are ordered as their numbers are. -/
theorem values_lt (h : a < b) (hyear : 0 ≤ (Moment.ofMilliseconds a).date.year) :
    (Moment.ofMilliseconds a).values < (Moment.ofMilliseconds b).values := by
  have hday : a / millisecondsPerDay ≤ b / millisecondsPerDay :=
    Int.ediv_le_ediv (by decide) (Int.le_of_lt h)
  rcases Int.lt_or_eq_of_le hday with hlt | heq
  · have hbefore := Date.ofDayNumber_before hlt
    simp only [Moment.values, Moment.ofMilliseconds, List.cons_lt_cons_iff] at hyear ⊢
    rcases hbefore with hlater | ⟨hsame, hlater | ⟨hmonth, hlater⟩⟩
    · exact .inl (by omega)
    · exact .inr ⟨by rw [hsame], .inl hlater⟩
    · exact .inr ⟨by rw [hsame], .inr ⟨hmonth, .inl hlater⟩⟩
  · have hinDay : (a % millisecondsPerDay).toNat < (b % millisecondsPerDay).toNat := by
      unfold millisecondsPerDay at heq ⊢
      omega
    simpa [Moment.values, Moment.ofMilliseconds, List.cons_lt_cons_iff, heq] using
      timeOfDay_lt hinDay

/-- The years 1 to 9999 in days. -/
theorem year_mem_iff {n : Int} :
    1 ≤ (Date.ofDayNumber n).year ∧ (Date.ofDayNumber n).year ≤ 9999 ↔
      -719162 ≤ n ∧ n < 2932897 := by
  have hyearZero : (Date.ofDayNumber (-719163)).year = 0 := by decide +kernel
  have hfirst : (Date.ofDayNumber (-719162)).year = 1 := by decide +kernel
  have hlast : (Date.ofDayNumber 2932896).year = 9999 := by decide +kernel
  have hnext : (Date.ofDayNumber 2932897).year = 10000 := by decide +kernel
  constructor
  · rintro ⟨hlower, hupper⟩
    constructor
    · by_contra hbefore
      have := Date.year_mono (m := n) (n := -719163) (by omega)
      omega
    · by_contra hafter
      have := Date.year_mono (m := 2932897) (n := n) (by omega)
      omega
  · rintro ⟨hlower, hupper⟩
    have := Date.year_mono hlower
    have := Date.year_mono (m := n) (n := 2932896) (by omega)
    omega

/-- The clock reading of the time lies in the years 1 to 9999. -/
def Shown (us : Int) : Prop :=
  ∃ d, Date.IsDay (reading us / 86400000000) d ∧ 1 ≤ d.year ∧ d.year ≤ 9999

theorem shown_iff : Shown us ↔
    -62135596800000000 ≤ reading us ∧ reading us < 253402300800000000 := by
  simp only [Shown, Date.isDay_iff, exists_eq_left, year_mem_iff]
  omega

/-- The times whose clock reading lies in the years 1 to 9999: readings close to the ends of these
years are moved to multiples of the clock's step. -/
theorem shown_iff_bounds :
    Shown us ↔ -62135596800000003 ≤ us ∧ us ≤ 253402300799999984 := by
  have hbefore : reading (-62135596800000004) < -62135596800000000 := by decide +kernel
  have hfirst : -62135596800000000 ≤ reading (-62135596800000003) := by decide +kernel
  have hlast : reading 253402300799999984 < 253402300800000000 := by decide +kernel
  have hafter : 253402300800000000 ≤ reading 253402300799999985 := by decide +kernel
  rw [shown_iff]
  constructor
  · rintro ⟨hlower, hupper⟩
    constructor
    · by_contra hus
      have := reading_mono (show us ≤ -62135596800000004 by omega)
      omega
    · by_contra hus
      have := reading_mono (show 253402300799999985 ≤ us by omega)
      omega
  · rintro ⟨hlower, hupper⟩
    have := reading_mono hlower
    have := reading_mono hupper
    omega

/-- The clock reading of a time that is shown is no more than 15 microseconds off. -/
theorem Shown.natAbs_reading_sub_le (h : Shown us) : (reading us - us).natAbs ≤ 15 := by
  rw [shown_iff_bounds] at h
  exact Time.natAbs_reading_sub_le (by omega)

theorem shown_iff_year : Shown us ↔
    1 ≤ (Moment.ofMilliseconds (reading us / 1000)).date.year ∧
      (Moment.ofMilliseconds (reading us / 1000)).date.year ≤ 9999 := by
  have hday : reading us / 1000 / millisecondsPerDay = reading us / 86400000000 := by
    unfold millisecondsPerDay
    omega
  simp only [Shown, Date.isDay_iff, exists_eq_left, Moment.ofMilliseconds, hday]

theorem stamp_of_shown (h : Shown us) :
    stamp us = .ok (String.ofList (Moment.ofMilliseconds (reading us / 1000)).chars) := by
  have hyear := shown_iff_year.1 h
  rw [shown_iff] at h
  have hseconds : Int.pow 2 63 = 9223372036854775808 := rfl
  have hyears : Int.pow 2 31 = 2147483648 := rfl
  simp only [stamp, stampReading, hseconds, hyears]
  rw [if_neg (by omega), if_neg (by omega), if_neg (by omega)]

theorem exists_stamp_error (h : ¬ Shown us) : ∃ e, stamp us = .error e := by
  rw [shown_iff_year] at h
  unfold stamp stampReading
  simp only
  split
  · exact ⟨_, rfl⟩
  · split
    · exact ⟨_, rfl⟩
    · rw [if_pos (by omega)]
      exact ⟨_, rfl⟩

theorem shown_of_stamp (h : stamp us = .ok text) : Shown us := by
  by_contra hnot
  obtain ⟨e, he⟩ := exists_stamp_error hnot
  rw [he] at h
  cases h

/-- The timestamp of a time shows the moment of its clock reading. -/
theorem fills_of_stamp (h : stamp us = .ok text) :
    Text.Fills stampLayout (Moment.ofMilliseconds (reading us / 1000)).values text.toList := by
  have hshown := shown_of_stamp h
  rw [stamp_of_shown hshown, Except.ok.injEq] at h
  rw [← h, String.toList_ofList]
  exact (valid_ofMilliseconds _).fills (shown_iff_year.1 hshown).2

/-- A timestamp denotes the clock reading of its time, without the part of a millisecond. -/
theorem denotes_of_stamp (h : stamp us = .ok text) : Denotes text (reading us / 1000) := by
  have hyear := shown_iff_year.1 (shown_of_stamp h)
  exact ⟨_, Moment.isAt_ofMilliseconds _, by omega, fills_of_stamp h⟩

theorem length_of_stamp (h : stamp us = .ok text) : text.length = 24 := by
  rw [← String.length_toList, (fills_of_stamp h).length_eq]
  rfl

/-- Timestamps are ordered as the times are. -/
theorem stamp_le {us' : Int} {text' : String} (hle : us ≤ us') (h : stamp us = .ok text)
    (h' : stamp us' = .ok text') : text ≤ text' := by
  have hms : reading us / 1000 ≤ reading us' / 1000 :=
    Int.ediv_le_ediv (by decide) (reading_mono hle)
  have hyear := shown_iff_year.1 (shown_of_stamp h)
  rcases Int.lt_or_eq_of_le hms with hlt | heq
  · have hvalues := values_lt hlt (by omega)
    have htext : text < text' := String.lt_iff.2 ((fills_of_stamp h).lt (fills_of_stamp h') hvalues)
    exact Std.le_of_lt htext
  · rw [stamp_of_shown (shown_of_stamp h), heq, Except.ok.injEq] at h
    rw [stamp_of_shown (shown_of_stamp h'), Except.ok.injEq] at h'
    obtain rfl : text = text' := h.symm.trans h'
    exact String.le_refl _

end Time

end MediaTypes
