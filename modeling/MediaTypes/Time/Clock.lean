import MediaTypes.Number.Double

/-!
# Clock readings

A clock gives the time as seconds since the beginning of 1970, as the nearest binary number of 53
significant digits. The more digits the whole seconds take, the fewer are left for the fraction: up
to 2 ^ 33 seconds away from 1970 a reading still tells every microsecond from the next, while times
farther off move to the nearest number that the clock can give.

## Main definitions

- `Time.reading` — what a clock reading keeps of a time
-/

namespace MediaTypes

namespace Time

open Number (nearest rounded)

def microsecondsPerSecond : Nat := 1000000

/-- The microseconds, to the nearest one, of the binary number of seconds that is nearest to so many
microseconds. -/
def readingOfCount (microseconds : Nat) : Nat :=
  let units := rounded (microseconds * Double.unitsPerOne) microsecondsPerSecond
  nearest (units * microsecondsPerSecond) Double.unitsPerOne

/-- The microseconds, to the nearest one, of the clock's reading of a time given in microseconds
since the beginning of 1970. A time before 1970 is read as far before it as the time as long after
it is read after it. -/
def reading (microseconds : Int) : Int :=
  if microseconds < 0 then -(readingOfCount microseconds.natAbs : Int)
  else readingOfCount microseconds.natAbs

end Time

end MediaTypes
