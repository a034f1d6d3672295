import MediaTypes.Text.Numeral
import MediaTypes.Time.Calendar
import MediaTypes.Time.Clock

/-!
# Timestamps

The time of a record is given in microseconds since the beginning of 1970 in universal time, and
a record carries the clock reading of it. The reading is shown by its date and its time of day to
the millisecond, later fractions being dropped. Only the years 1 to 9999 can be shown; seconds
that do not fit into 64 bits, and years that do not fit into 32, cannot even be counted.

## Main definitions

- `Time.Moment` — a date with a time of day
- `Time.Moment.ofMilliseconds` — the moment of a count of milliseconds
- `Time.stampReading`, `Time.stamp` — the text of a reading or of a time, or the reason why it has
  none
-/

namespace MediaTypes

namespace Time

/-- A date with a time of day, to the millisecond. -/
structure Moment where
  date : Date
  hour : Nat
  minute : Nat
  second : Nat
  millisecond : Nat

inductive TimeError where
  /-- The seconds do not fit into 64 bits. -/
  | uncountable
  /-- The year, counted from 1900, does not fit into 32 bits. -/
  | yearUncountable
  /-- The year lies outside 1 to 9999. -/
  | yearOutOfRange (year : Int)
  deriving DecidableEq

def TimeError.message : TimeError → String
  | .uncountable => "timestamp out of range for platform time_t"
  | .yearUncountable => "[Errno 75] Value too large for defined data type"
  | .yearOutOfRange year => "year " ++ toString year ++ " is out of range"

def millisecondsPerDay : Int := 86400000

/-- The moment that lies so many milliseconds after the beginning of 1970. -/
def Moment.ofMilliseconds (ms : Int) : Moment :=
  let inDay := (ms % millisecondsPerDay).toNat
  { date := Date.ofDayNumber (ms / millisecondsPerDay)
    hour := inDay / 3600000
    minute := inDay / 60000 % 60
    second := inDay / 1000 % 60
    millisecond := inDay % 1000 }

/-- The characters that show a moment of the years 0 to 9999. -/
def Moment.chars (m : Moment) : List Char :=
  Text.fixedDigits 10 4 m.date.year.toNat ++ '-' :: Text.fixedDigits 10 2 m.date.month ++
    '-' :: Text.fixedDigits 10 2 m.date.day ++ 'T' :: Text.fixedDigits 10 2 m.hour ++
    ':' :: Text.fixedDigits 10 2 m.minute ++ ':' :: Text.fixedDigits 10 2 m.second ++
    '.' :: Text.fixedDigits 10 3 m.millisecond ++ ['Z']

/-- The text of a reading in microseconds since the beginning of 1970. -/
def stampReading (microseconds : Int) : Except TimeError String :=
  let seconds := microseconds / 1000000
  if seconds < -Int.pow 2 63 ∨ Int.pow 2 63 ≤ seconds then .error .uncountable
  else
    let m := Moment.ofMilliseconds (microseconds / 1000)
    let year := m.date.year
    if year - 1900 < -Int.pow 2 31 ∨ Int.pow 2 31 ≤ year - 1900 then .error .yearUncountable
    else if year < 1 ∨ 9999 < year then .error (.yearOutOfRange year)
    else .ok (String.ofList m.chars)

/-- The text of a time in microseconds since the beginning of 1970. -/
def stamp (microseconds : Int) : Except TimeError String :=
  stampReading (reading microseconds)

end Time

end MediaTypes
