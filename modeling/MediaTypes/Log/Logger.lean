import MediaTypes.Log.Name
import MediaTypes.Log.Record

/-!
# Loggers

The loggers under the base logger share its handlers and its level; they have none of their own.
As long as nothing is configured the base logger has no handler, and records of some weight are
shown bare on the standard error stream. The first setup gives the base logger its handler; a
later one changes the level alone. A logger that does not stand under the base logger stays as if
nothing were configured.

## Main definitions

- `Log.BaseLogger`, `Log.BaseLogger.setup` — the shared state and its configuration
- `Log.BaseLogger.admits` — the records that are heavy enough
- `Log.BaseLogger.write` — what a record writes to which stream
- `Log.BaseLogger.actingFor` — the state that counts for the logger of a name
-/

namespace MediaTypes

namespace Log

/-- The form of a handler's lines. -/
inductive Format where
  | plain
  | json
  deriving DecidableEq

/-- Where records are written, and in which form. -/
structure Handler where
  stream : String
  format : Format
  deriving DecidableEq

def standardError : String := "stderr"

/-- The state of the base logger. -/
structure BaseLogger where
  /-- The level; 0 means that none is set. -/
  level : Int := 0
  /-- The handlers, in the order in which they were added. -/
  handlers : List Handler := []
  /-- Records are passed on to the root logger, which has no handler. -/
  propagate : Bool := true
  deriving DecidableEq

structure Output where
  stream : String
  text : String
  deriving DecidableEq

namespace BaseLogger

/-- Sets the level and, the first time, the handler. -/
def setup (l : BaseLogger) (format : Format) (level : Int) (stream : String) : BaseLogger :=
  match l.handlers with
  | [] => { level, handlers := [⟨stream, format⟩], propagate := false }
  | _ :: _ => { l with level }

/-- The level that counts: the base logger's, or the root logger's if none is set. -/
def effectiveLevel (l : BaseLogger) : Int :=
  if l.level = 0 then warning else l.level

/-- The record is heavy enough. A record without weight never is. -/
def admits (l : BaseLogger) (r : Record) : Bool :=
  0 < r.level && l.effectiveLevel ≤ r.level

/-- The line of a record in a handler's form, or the failure to write one of its integers. -/
def line (format : Format) (time : String) (r : Record) : Except Text.TooLong String :=
  match format with
  | .plain => .ok (r.plainLine ++ "\n")
  | .json => (r.jsonLine (some Text.maxDigits) time).map (· ++ "\n")

/-- The line that a handler writes. Instead of a line that cannot be written, the beginning of a
report about the failure appears on the standard error stream. -/
def handle (time : String) (r : Record) (h : Handler) : Output :=
  match line h.format time r with
  | .ok text => ⟨h.stream, text⟩
  | .error _ => ⟨standardError, "--- Logging error ---\n"⟩

/-- What a record writes. Without any handler a record of at least warning level is shown bare
on the standard error stream. -/
def write (l : BaseLogger) (time : String) (r : Record) : List Output :=
  if l.admits r then
    match l.handlers with
    | [] => if warning ≤ r.level then [⟨standardError, r.message ++ "\n"⟩] else []
    | handlers => handlers.map (handle time r)
  else []

/-- The state that counts for the logger of a full name, where `known` are the names of the loggers
handed out. -/
def actingFor (l : BaseLogger) (known : List String) (name : String) : BaseLogger :=
  if isUnderBase known name then l else {}

end BaseLogger

end Log

end MediaTypes
