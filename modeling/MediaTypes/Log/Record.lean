import MediaTypes.Log.Event
import MediaTypes.Time.Timestamp

/-!
# Records

A record goes to a logger with a level and a message, and may carry named values. It is shown as
a plain line or as a line in the JSON data format. The latter has fixed fields, and the named
values follow as one more field if there are any. There may be a limit to the digits of the integers
that are shown: beyond it there is no record of a level without a name, and no JSON form of named
values.

## Main definitions

- `Log.Record` — a record
- `Log.Record.plainLine`, `Log.Record.jsonLine` — the two forms
- `Log.Record.jsonLineAt` — the JSON form of a record made at a given time
-/

namespace MediaTypes

namespace Log

/-- The version that JSON lines carry. -/
def version : String := "1.0.0"

/-- What is told to a logger. -/
structure Record where
  logger : String
  level : Int
  message : String
  /-- The named values, as an object; any other value counts as none. -/
  context : Json := .null

namespace Record

/-- The field of the named values, if there are any. -/
def contextFields : Json → List (String × Json)
  | .object (field :: fields) => [("ctx", .object (field :: fields))]
  | _ => []

/-- The fields of the JSON form, for a record whose time is shown as `time`. -/
def fields (r : Record) (time : String) : List (String × Json) :=
  [("ts", .string time), ("level", .string (levelName r.level)), ("module", .string r.logger),
    ("msg", .string r.message), ("version", .string version)] ++ contextFields r.context

/-- The JSON form, for a record whose time is shown as `time`. -/
def jsonLine (limit : Option Nat) (r : Record) (time : String) : Except Text.TooLong String :=
  Json.dump limit (.object (r.fields time))

/-- The level has a name, or a number of at most so many digits. -/
def ShortLevel (max : Nat) (level : Int) : Prop :=
  (namedLevels.lookup level).isSome ∨ Text.digitCount level ≤ max

instance (max : Nat) (level : Int) : Decidable (ShortLevel max level) :=
  inferInstanceAs (Decidable (_ ∨ _))

/-- Why there is no JSON form of a record. -/
inductive LineError where
  | time (error : Time.TimeError)
  | tooLong (error : Text.TooLong)
  deriving DecidableEq

def LineError.message : LineError → String
  | .time error => error.message
  | .tooLong error => error.message

/-- The level is shown when the record is made, before anything else of it. -/
def levelError? (limit : Option Nat) (level : Int) : Option Text.TooLong :=
  limit.bind fun max => if ShortLevel max level then none else some ⟨max⟩

/-- The JSON form of a record made so many microseconds after the beginning of 1970. -/
def jsonLineAt (limit : Option Nat) (r : Record) (microseconds : Int) : Except LineError String :=
  match levelError? limit r.level, Time.stamp microseconds with
  | some error, _ => .error (.tooLong error)
  | none, .error error => .error (.time error)
  | none, .ok time => (r.jsonLine limit time).mapError .tooLong

def plainLine (r : Record) : String :=
  levelName r.level ++ ": " ++ r.message

def ofEvent (logger : String) (e : Event) : Record where
  logger := logger
  level := e.level
  message := e.message
  context := e.context

def ofTrace (logger : String) (t : Trace) : Record where
  logger := logger
  level := debug
  message := t.text
  context := t.contextValue

end Record

end Log

end MediaTypes
