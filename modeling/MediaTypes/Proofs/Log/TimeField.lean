import MediaTypes.Proofs.Log.JsonLine
import MediaTypes.Proofs.Time.Timestamp

/-!
# The time field of JSON lines

The first field of the JSON form of a record is the timestamp of the clock reading that the record
carries. The reading is a binary number with 53 digits: up to 2 ^ 33 seconds from 1970 it keeps
every microsecond, and farther off it is close to the time, but may lie in the millisecond before
or after.

## Main definitions

- `Log.Record.TimeField` — the time field of the line of a record made at a given time

## Main statements

- `timeField_iff` — the time field is the timestamp of the time
- `timeField_faithful` — what time fields denote, how far off they are, and how they are ordered
-/

namespace MediaTypes

namespace Log

namespace Record

/-- The line of the record made at the time is read with the text as its first field, the time. -/
def TimeField (limit : Option Nat) (r : Record) (us : Int) (text : String) : Prop :=
  ∃ line rest, r.jsonLineAt limit us = .ok line ∧
    Json.read? line = some (.object (("ts", .string text) :: rest))

variable {limit : Option Nat} {r : Record} {us : Int} {text : String}

/-- The time field of a record that can be written is the timestamp of the time. -/
theorem timeField_iff :
    r.TimeField limit us text ↔ r.Writable limit ∧ Time.stamp us = .ok text := by
  constructor
  · rintro ⟨line, rest, hline, hread⟩
    cases hstamp : Time.stamp us with
    | error e =>
      have hfails : ∃ fault, r.jsonLineAt limit us = .error fault :=
        exists_jsonLineAt_error hstamp
      obtain ⟨fault, hfault⟩ := hfails
      rw [hfault] at hline
      cases hline
    | ok time =>
      by_cases hwritable : r.Writable limit
      · rw [jsonLineAt_of_writable hwritable hstamp] at hline
        cases hline
        have hfields := hread.symm.trans (Json.read?_write (.object (r.fields time)))
        simp only [fields, List.cons_append, Option.some.injEq, Json.object.injEq, List.cons.injEq,
          Prod.mk.injEq, Json.string.injEq, true_and] at hfields
        exact ⟨hwritable, by rw [hfields.1]⟩
      · obtain ⟨_, -, hfault⟩ := jsonLineAt_of_not_writable hwritable hstamp
        rw [hfault] at hline
        cases hline
  · rintro ⟨hwritable, hstamp⟩
    exact ⟨_, (r.fields text).tail, jsonLineAt_of_writable hwritable hstamp, Json.read?_write _⟩

/-- **Time fields are faithful to the clock.** The times that are shown are those whose clock
reading lies in the years 1 to 9999. The time field of a record made at such a time, if it can be
written, has 24 characters, denotes the milliseconds of the reading and no other count, and is read
as them. The reading is no more than 15 microseconds off, and within 2 ^ 33 seconds from 1970 it is
the time itself. Time fields are ordered as the times are, and a time that is not shown gives no
line but an error. -/
theorem timeField_faithful :
    (∀ us, Time.Shown us ↔ -62135596800000003 ≤ us ∧ us ≤ 253402300799999984) ∧
    (∀ (limit : Option Nat) (r : Record) (us : Int), r.Writable limit → Time.Shown us →
      ∃ text, r.TimeField limit us text ∧ text.length = 24 ∧
        (∀ ms, Time.Denotes text ms ↔ ms = Time.reading us / 1000) ∧
        Time.readStamp? text = some (Time.reading us / 1000)) ∧
    (∀ us, Time.Shown us → (Time.reading us - us).natAbs ≤ 15) ∧
    (∀ us : Int, us.natAbs < 2 ^ 33 * 1000000 → Time.reading us = us) ∧
    (∀ (limit limit' : Option Nat) (r r' : Record) (us us' : Int) (text text' : String), us ≤ us' →
      r.TimeField limit us text → r'.TimeField limit' us' text' → text ≤ text') ∧
    (∀ (limit : Option Nat) (r : Record) (us : Int), ¬ Time.Shown us →
      ∃ e, r.jsonLineAt limit us = .error e) := by
  refine ⟨fun us => Time.shown_iff_bounds, fun limit r us hwritable hshown => ?_,
    fun us hshown => hshown.natAbs_reading_sub_le, fun us hnear => Time.reading_eq_self hnear,
    fun limit limit' r r' us us' text text' hle h h' => ?_, fun limit r us hnot => ?_⟩
  · have hstamp := Time.stamp_of_shown hshown
    have hread := Time.readStamp?_eq_some_iff.2 (Time.denotes_of_stamp hstamp)
    refine ⟨_, timeField_iff.2 ⟨hwritable, hstamp⟩, Time.length_of_stamp hstamp, fun ms => ?_,
      hread⟩
    rw [← Time.readStamp?_eq_some_iff, hread, Option.some.injEq, eq_comm]
  · exact Time.stamp_le hle (timeField_iff.1 h).2 (timeField_iff.1 h').2
  · obtain ⟨e, he⟩ := Time.exists_stamp_error hnot
    exact exists_jsonLineAt_error he

/-- A record without named values. -/
def plainRecord : Record where
  logger := "netmime"
  level := 20
  message := "m"

/-- The last microsecond before 1970, a leap day, and a time that is already read as the year
10000. -/
theorem timeField_faithful_leapDay :
    Time.Shown (-1) ∧ Time.Shown 951782400123456 ∧ ¬ Time.Shown 253402300799999985 ∧
    (∃ text text', plainRecord.TimeField (some Text.maxDigits) (-1) text ∧ text.length = 24 ∧
      Time.readStamp? text = some (-1) ∧
      plainRecord.TimeField (some Text.maxDigits) 951782400123456 text' ∧
      Time.Denotes text' 951782400123 ∧ text ≤ text') ∧
    ∃ e, plainRecord.jsonLineAt (some Text.maxDigits) 253402300799999985 = .error e := by
  obtain ⟨hbounds, hfaithful, -, hnear, hordered, herror⟩ := timeField_faithful
  have hlast : Time.Shown (-1) := (hbounds _).2 (by decide)
  have hleap : Time.Shown 951782400123456 := (hbounds _).2 (by decide)
  have hlate : ¬ Time.Shown 253402300799999985 := fun h => absurd ((hbounds _).1 h) (by decide)
  have hwritable : plainRecord.Writable (some Text.maxDigits) := by
    rintro _ ⟨⟩
    exact ⟨by decide, fun _ => by decide⟩
  obtain ⟨text, htext, hlength, -, hread⟩ := hfaithful _ plainRecord (-1) hwritable hlast
  obtain ⟨text', htext', -, hdenotes, -⟩ :=
    hfaithful _ plainRecord 951782400123456 hwritable hleap
  rw [hnear (-1) (by decide)] at hread
  rw [hnear 951782400123456 (by decide)] at hdenotes
  exact ⟨hlast, hleap, hlate,
    ⟨text, text', htext, hlength, hread, htext', (hdenotes _).2 (by decide),
      hordered _ _ _ _ _ _ _ _ (by decide) htext htext'⟩,
    herror _ plainRecord _ hlate⟩

/-- A time of the year 2243 has no reading in its own millisecond. -/
theorem timeField_not_exact :
    ¬ ∀ (r : Record) (us : Int) (d : Time.Date), Time.Date.IsDay (us / 86400000000) d →
      1 ≤ d.year → d.year ≤ 9999 →
      ∃ text, r.TimeField none us text ∧ Time.Denotes text (us / 1000) := by
  intro h
  have hday : Time.Date.IsDay (8615030400178000 / 86400000000) ⟨2243, 1, 1⟩ :=
    Time.Date.isDay_iff.2 (by decide +kernel)
  obtain ⟨text, hfield, hexact⟩ := h plainRecord _ _ hday (by decide) (by decide)
  have hreading := Time.denotes_of_stamp (timeField_iff.1 hfield).2
  rw [← Time.readStamp?_eq_some_iff] at hexact hreading
  have hsame := Option.some.inj (hexact.symm.trans hreading)
  have hmoved : (8615030400178000 : Int) / 1000 ≠ Time.reading 8615030400178000 / 1000 := by
    decide +kernel
  exact hmoved hsame

end Record

end Log

end MediaTypes
