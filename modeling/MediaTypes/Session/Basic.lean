import MediaTypes.Log.Factory
import MediaTypes.MediaType.Basic
import MediaTypes.Platform.Source
import MediaTypes.Resolver
import MediaTypes.Tables.Standard

/-!
# Sessions

A session is a run of the library with its environment variables, its base logger, the resolvers
that were made in it, and the default one among them. The default resolver is built from the
environment when it is first needed and is kept until it is reset or replaced. The logger is
configured before the platform is built, so a build that fails at the platform leaves the
configuration behind; one that fails at the settings leaves nothing.

## Main definitions

- `Session` — the state of a run
- `Session.Instance` — a resolver with its number
- `Session.demand` — the default resolver, built if there is none
-/

namespace MediaTypes

namespace Session

/-- A resolver with the number that tells it from every other one of the session. -/
structure Instance where
  /-- The number, counted over all resolvers of the session. -/
  serial : Nat
  resolver : Resolver
  /-- The resolver uses the standard tables, rather than tables given to it. -/
  standardTables : Bool

/-- A failure that a step hands to its caller. -/
inductive Failure where
  /-- The environment has a fault. -/
  | settings (error : SettingsError)
  | platform (failure : Platform.Failure)
  | query (failure : QueryFailure)
  /-- A text is no media type. -/
  | notTokenPair (error : MediaType.NotTokenPair)

end Session

/-- The state of a run. -/
structure Session where
  /-- The environment variables that are set. -/
  environment : Environment
  logger : Log.BaseLogger := {}
  factories : Dictionary String Log.Factory := Dictionary.empty
  /-- The full names of the loggers that steps have asked for. -/
  loggers : List String := []
  /-- The resolvers made so far, in order. -/
  instances : List Session.Instance := []
  current : Option Session.Instance := none
  /-- The numbers of the resolvers that have been shown, in order. -/
  shown : List Nat := []
  /-- The process has prepared its own table of types in this run. -/
  prepared : Bool := false

namespace Session

/-- The state at the start, with the given variables. -/
def start (environment : Environment) : Session :=
  { environment }

def tracing (s : Session) : Bool :=
  Settings.tracing s.environment

/-- The host as the session has left it. -/
def onHost (s : Session) (host : Host) : Host :=
  { host with prepared := host.prepared || s.prepared }

/-- Notes whether the choice of a platform has prepared the process's own table. -/
def prepare (s : Session) (choice : Platform.Choice) : Session :=
  { s with prepared := s.prepared || choice.prepares }

/-- A new resolver, with its number. -/
def newInstance (s : Session) (resolver : Resolver) (standardTables : Bool) : Instance :=
  ⟨s.instances.length, resolver, standardTables⟩

/-- Keeps a new resolver. -/
def keep (s : Session) (i : Instance) : Session :=
  { s with instances := s.instances ++ [i] }

def reset (s : Session) : Session :=
  { s with current := none }

/-- The logger factory that settings ask for. -/
def factoryFor (settings : Settings) : Log.Factory :=
  match settings.logLevel with
  | none => .passive
  | some level =>
    .configuring (if settings.jsonLogs then .json else .plain) level Log.standardError false

/-- Notes that a logger is asked for. -/
def know (s : Session) (logger : String) : Session :=
  { s with loggers := logger :: s.loggers }

def writeRecord (s : Session) (time : String) (r : Log.Record) : List Log.Output :=
  (s.logger.actingFor s.loggers r.logger).write time r

/-- What the events of one part of the library write, a record each. The time of a record is
shown as `time`; the part's logger stands under the base logger. -/
def writeEvents (logger : Log.BaseLogger) (time part : String) (events : List Log.Event) :
    List Log.Output :=
  events.flatMap fun e => logger.write time (.ofEvent (Log.loggerName (some part)) e)

/-- A value or a failure, with the state afterwards and what was written. -/
structure Outcome (α : Type) where
  session : Session
  /-- What was written, in order. -/
  output : List Log.Output
  result : Except Failure α

/-- Builds a resolver from the environment and makes it the default one. -/
def build (host : Host) (time : String) (s : Session) : Outcome Instance :=
  match Settings.load s.environment with
  | .error e => ⟨s, [], .error (.settings e)⟩
  | .ok settings =>
    let forResolver := (factoryFor settings).getLogger s.logger (some "resolver")
    let forPlatform := forResolver.factory.getLogger forResolver.base (some "platform")
    let choice := Platform.choose (s.onHost host) settings.platform
    let s := { s.prepare choice with logger := forPlatform.base }
    let output := writeEvents s.logger time "platform" choice.events
    match choice.outcome with
    | .error failure => ⟨s, output, .error (.platform failure)⟩
    | .ok platform =>
      let i := s.newInstance ⟨Tables.standard, platform⟩ true
      ⟨{ s.keep i with current := some i }, output, .ok i⟩

/-- The default resolver, built from the environment if there is none. -/
def demand (host : Host) (time : String) (s : Session) : Outcome Instance :=
  match s.current with
  | some i => ⟨s, [], .ok i⟩
  | none => s.build host time

end Session

end MediaTypes
