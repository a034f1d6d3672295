import MediaTypes.Dictionary
import MediaTypes.Log.Level
import MediaTypes.Text.Blank
import MediaTypes.Text.Digit
import MediaTypes.Text.Quoted

/-!
# Settings

The settings are read from environment variables: which platform to use, at which level to log,
if at all, and whether log lines are in the JSON form. The first two are trimmed. A level is a
numeral in the decimal digits of any script, or a name.

## Main definitions

- `Environment` — the environment variables
- `Settings` — what they set
- `Settings.load` — the settings of an environment, or the fault in them
-/

namespace MediaTypes

abbrev Environment := Dictionary String String

/-- What the environment sets. -/
structure Settings where
  /-- The platform: `system`, `none`, or a reference to a plugin. -/
  platform : String
  /-- The level to log at, if logging is to be set up. -/
  logLevel : Option Int
  /-- Log lines are in the JSON form. -/
  jsonLogs : Bool
  deriving DecidableEq

inductive SettingsError where
  /-- The level is neither a numeral nor a name. -/
  | unknownLevel (text : String)
  /-- The numeral starts with more decimal digits than are read. -/
  | tooManyDigits (count : Nat)
  /-- The numeral holds a digit that is not a decimal digit. -/
  | notANumeral (text : String)
  deriving DecidableEq

namespace Settings

def platformVariable : String := "NETMIME_PLATFORM"

/-- The variable that gives the level to log at. -/
def levelVariable : String := "NETMIME_LOG_LEVEL"

/-- The variable that chooses the JSON form of log lines. -/
def jsonVariable : String := "NETMIME_JSON_LOGS"

/-- The variable that switches traces on. -/
def traceVariable : String := "NETMIME_TRACE"

def systemPlatform : String := "system"

/-- The name of the platform without entries. -/
def noPlatform : String := "none"

/-- An error message quotes no more characters of a numeral than this. -/
def maxQuoted : Nat := 200

end Settings

def SettingsError.message : SettingsError → String
  | .unknownLevel text => "unknown log level '" ++ text ++ "'"
  | .tooManyDigits count =>
    "Exceeds the limit (" ++ toString Text.maxDigits ++
      " digits) for integer string conversion: value has " ++ toString count ++
      " digits; use sys.set_int_max_str_digits() to increase the limit"
  | .notANumeral text =>
    "invalid literal for int() with base 10: " ++
      String.ofList ((Text.quoteChars text.toList).take Settings.maxQuoted)

namespace Settings

/-- The platform that a variable names. An unset or empty variable means the system's platform;
the names of the two built-in platforms are read in any case. No character outside ASCII is a
capital of one of their letters. -/
def readPlatform (setting : Option String) : String :=
  let given := match setting with
    | none | some "" => systemPlatform
    | some text => text
  let name := Text.trim given
  let folded := Text.lowerAscii name
  if folded = systemPlatform ∨ folded = noPlatform then folded else name

/-- The number that a row of digits writes. The limit holds for the decimal digits that come
before any other digit. -/
def readNumeral (digits : List Char) : Except SettingsError Int :=
  let leading := digits.takeWhile Text.isDecimalDigit
  if Text.maxDigits < leading.length then .error (.tooManyDigits leading.length)
  else if leading.length < digits.length then .error (.notANumeral (String.ofList digits))
  else .ok (Text.decimalNumeral digits)

/-- The level that a variable gives; an unset or blank variable gives none. -/
def readLevel (setting : Option String) : Except SettingsError (Option Int) :=
  let text := setting.getD ""
  let value := Text.trimChars text.toList
  if value.isEmpty then .ok none
  else if value.all Text.isDigit then (readNumeral value).map some
  else
    match Log.levelOfName? (String.ofList value) with
    | some level => .ok (some level)
    | none => .error (.unknownLevel text)

def load (env : Environment) : Except SettingsError Settings :=
  (readLevel (env.get? levelVariable)).map fun level =>
    { platform := readPlatform (env.get? platformVariable)
      logLevel := level
      jsonLogs := env.get? jsonVariable == some "1" }

/-- Traces are on when their variable is exactly `1`. -/
def tracing (env : Environment) : Bool :=
  env.get? traceVariable == some "1"

end Settings

end MediaTypes
