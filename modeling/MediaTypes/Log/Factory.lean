import MediaTypes.Log.Logger

/-!
# Logger factories

A factory hands out loggers by name. A passive one does nothing else; a configuring one sets up
the base logger before it hands out its first logger, and never again.

## Main definitions

- `Log.Factory` — the two kinds
- `Log.Factory.getLogger` — the logger of a name, with what handing it out changes
-/

namespace MediaTypes

namespace Log

/-- A source of loggers. -/
inductive Factory where
  /-- Leaves the configuration alone. -/
  | passive
  /-- Sets up the base logger, unless it has done so already. -/
  | configuring (format : Format) (level : Int) (stream : String) (configured : Bool)
  deriving DecidableEq

/-- A logger that was handed out, with the state that is left behind. -/
structure Issued where
  factory : Factory
  base : BaseLogger
  name : String

namespace Factory

def getLogger (f : Factory) (base : BaseLogger) (name : Option String) : Issued :=
  match f with
  | .configuring format level stream false =>
    ⟨.configuring format level stream true, base.setup format level stream, loggerName name⟩
  | f => ⟨f, base, loggerName name⟩

end Factory

end Log

end MediaTypes
