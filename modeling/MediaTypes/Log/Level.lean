import MediaTypes.Text.Ascii

/-!
# Levels

The weight of a log record is an integer. Six of them have names, and two of the names have a
second spelling. A name is read without regard to case; besides the small ASCII letters, the
dotless `ı` and the long `ſ` have a capital that is an ASCII letter and are read as that letter.

## Main definitions

- `Log.levelName` — how a level is shown
- `Log.levelOfName?` — the level that a name means
-/

namespace MediaTypes

namespace Log

/-- The levels that have names, by the name they are shown with. -/
def namedLevels : List (Int × String) :=
  [(0, "NOTSET"), (10, "DEBUG"), (20, "INFO"), (30, "WARNING"), (40, "ERROR"), (50, "CRITICAL")]

/-- The level of events that help to follow a run. -/
def debug : Int := 10

def info : Int := 20

/-- The level of events that need attention. -/
def warning : Int := 30

/-- How a level is shown: by its name, or by its number. -/
def levelName (level : Int) : String :=
  (namedLevels.lookup level).getD ("Level " ++ toString level)

/-- The names that are read as levels. -/
def readableLevels : List (String × Int) :=
  [("CRITICAL", 50), ("FATAL", 50), ("ERROR", 40), ("WARN", 30), ("WARNING", 30), ("INFO", 20),
   ("DEBUG", 10), ("NOTSET", 0)]

/-- The capital of a character, as far as it is an ASCII letter. No level name holds two letters
that are together the capital of one character, so such characters need no place here. -/
def capital (c : Char) : Char :=
  if 'a' ≤ c ∧ c ≤ 'z' then Char.ofNat (c.toNat - 32)
  else if c.toNat = 0x131 then 'I'
  else if c.toNat = 0x17F then 'S'
  else c

/-- The level that a name means, in any case. -/
def levelOfName? (name : String) : Option Int :=
  readableLevels.lookup (String.ofList (name.toList.map capital))

end Log

end MediaTypes
