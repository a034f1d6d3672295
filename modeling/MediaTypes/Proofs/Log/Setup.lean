import MediaTypes.Log.Factory

/-!
# What setups leave

However often the base logger is set up, the first setup alone gives it a handler, and the last one
its level. So a record is written at most once, whichever logger it is given to. A factory sets the
base logger up at most once, and the full name of a logger names that logger again.

## Main definitions

- `Log.Setup` — what a setup asks for
- `Log.LeftBy` — the base logger that a row of setups leaves
- `Log.UnderBase` — the base logger's name and the names that begin with it and a dot

## Main statements

- `LeftBy.setup` — one more setup
- `getLogger_again` — a factory does not set up the base logger a second time
- `loggerName_of_underBase` — a full name stands for itself
- `length_write_le` — with one handler at most, a record is written once at most
-/

namespace MediaTypes

namespace Log

/-- What a setup asks for. -/
structure Setup where
  format : Format
  level : Int
  stream : String
  deriving DecidableEq

/-- The base logger that a row of setups leaves: without any it is as at the start, and otherwise
it has the handler of the first one and the level of the last one. -/
inductive LeftBy : List Setup → BaseLogger → Prop where
  | nothing : LeftBy [] {}
  | setups {calls : List Setup} {first last : Setup} (head : calls.head? = some first)
      (getLast : calls.getLast? = some last) :
      LeftBy calls ⟨last.level, [⟨first.stream, first.format⟩], false⟩

namespace LeftBy

variable {calls : List Setup} {l : BaseLogger}

/-- A setup adds a handler if it is the first one, and sets the level. -/
theorem setup (h : LeftBy calls l) (c : Setup) :
    LeftBy (calls ++ [c]) (l.setup c.format c.level c.stream) := by
  cases h with
  | nothing => exact .setups rfl rfl
  | setups head getLast =>
    exact .setups (by rw [List.head?_append, head, Option.some_or]) List.getLast?_concat

theorem eq_of_nil (h : LeftBy [] l) : l = {} := by
  cases h with
  | nothing => rfl
  | setups head => cases head

theorem length_handlers_le (h : LeftBy calls l) : l.handlers.length ≤ 1 := by
  cases h with
  | nothing => exact Nat.zero_le 1
  | setups => exact Nat.le_refl 1

theorem of_head {first : Setup} (h : LeftBy calls l) (head : calls.head? = some first) :
    l.handlers = [⟨first.stream, first.format⟩] ∧ l.propagate = false := by
  cases h with
  | nothing => cases head
  | setups head' =>
    obtain rfl := Option.some.inj (head.symm.trans head')
    exact ⟨rfl, rfl⟩

theorem of_getLast {last : Setup} (h : LeftBy calls l) (getLast : calls.getLast? = some last) :
    l.level = last.level := by
  cases h with
  | nothing => cases getLast
  | setups _ getLast' =>
    obtain rfl := Option.some.inj (getLast.symm.trans getLast')
    rfl

end LeftBy

namespace Factory

/-- A factory that has handed out a logger is not one that is still to set up the base logger. -/
theorem factory_getLogger_ne (f : Factory) (base : BaseLogger) (name : Option String) (c : Setup) :
    (f.getLogger base name).factory ≠ .configuring c.format c.level c.stream false := by
  rcases f with _ | ⟨format, level, stream, _ | _⟩ <;> simp [getLogger]

/-- A factory that is not to set up the base logger, or has done so, leaves it alone. -/
theorem base_getLogger_of_ne {f : Factory}
    (h : ∀ c : Setup, f ≠ .configuring c.format c.level c.stream false) (base : BaseLogger)
    (name : Option String) : (f.getLogger base name).base = base := by
  rcases f with _ | ⟨format, level, stream, _ | _⟩
  · rfl
  · exact absurd rfl (h ⟨format, level, stream⟩)
  · rfl

theorem getLogger_again (f : Factory) (base base' : BaseLogger) (name name' : Option String) :
    ((f.getLogger base name).factory.getLogger base' name').base = base' :=
  base_getLogger_of_ne (f.factory_getLogger_ne base name) base' name'

theorem name_getLogger (f : Factory) (base : BaseLogger) (name : Option String) :
    (f.getLogger base name).name = loggerName name := by
  rcases f with _ | ⟨format, level, stream, _ | _⟩ <;> rfl

end Factory

/-- The base logger's name, or a name that begins with it and a dot. -/
def UnderBase (name : String) : Prop :=
  name = baseName ∨ (baseName ++ ".").toList <+: name.toList

theorem underBase_loggerName (name : Option String) : UnderBase (loggerName name) := by
  cases name with
  | none => exact .inl rfl
  | some name =>
    rw [loggerName]
    split
    · exact .inl rfl
    · split
      · rename_i h
        exact .inr (List.isPrefixOf_iff_prefix.1 h)
      · exact .inr (by simp)

/-- The full name of a logger stands for itself. -/
theorem loggerName_of_underBase {name : String} (h : UnderBase name) :
    loggerName (some name) = name := by
  by_cases hbase : name = baseName
  · rw [loggerName, if_pos (.inr hbase), hbase]
  have hprefix := h.resolve_left hbase
  have hne : name ≠ "" := by
    rintro rfl
    exact absurd hprefix (by decide)
  rw [loggerName, if_neg (not_or.2 ⟨hne, hbase⟩), if_pos (List.isPrefixOf_iff_prefix.2 hprefix)]

namespace BaseLogger

variable {l : BaseLogger}

/-- With one handler at most, a record is written once at most. Without any it is shown bare, if at
all. -/
theorem length_write_le (h : l.handlers.length ≤ 1) (time : String) (r : Record) :
    (l.write time r).length ≤ 1 := by
  rw [write]
  split
  · split
    · split
      · exact Nat.le_refl 1
      · exact Nat.zero_le 1
    · rwa [List.length_map]
  · exact Nat.zero_le 1

/-- A logger that does not stand under the base logger has no handler. -/
theorem length_handlers_actingFor_le (h : l.handlers.length ≤ 1) (known : List String)
    (name : String) : (l.actingFor known name).handlers.length ≤ 1 := by
  rw [actingFor]
  split
  · exact h
  · exact Nat.zero_le 1

end BaseLogger

end Log

end MediaTypes
