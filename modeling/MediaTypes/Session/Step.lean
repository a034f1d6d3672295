import MediaTypes.Session.Basic

/-!
# Steps of a session

A session goes step by step. A step changes the environment or the logging, handles the default
resolver, or puts a question to it. Each step is answered by a reply: its result or a failure,
what it wrote, and the queries it put to the platform's registry.

## Main definitions

- `Session.Step`, `Session.Reply`
- `Session.step` — one step
- `Session.run` — a row of steps
-/

namespace MediaTypes

namespace Session

inductive Question where
  | typeOf (extension : String)
  /-- The type of an extension from the tables alone. -/
  | wellKnown (extension : String)
  | file (path : String)
  /-- The extensions of a type or a pattern. -/
  | extensions (pattern : String)
  | preferred (mediaType : Option String)

/-- What a step may do. -/
inductive Step where
  /-- Sets variables, or removes them. -/
  | variables (changes : List (String × Option String))
  | settings
  | showDefault
  | reset
  /-- Makes a new resolver; without tables it uses the standard ones. -/
  | make (source : Platform.Source) (tables : Option Tables)
  /-- Makes the resolver of that number the default one. -/
  | install (serial : Nat)
  /-- Chooses a platform by name, without using it. -/
  | choosePlatform (name : String)
  | ask (question : Question)
  | matchPattern (pattern : String) (candidate : Option String)
  | parse (text : Option String)
  | isTopLevel (text : String)
  | setupLogging (format : Log.Format) (level : Int) (stream : String)
  | makeFactory (id : String) (factory : Log.Factory)
  | issueLogger (id : String) (name : Option String)
  | log (name : Option String) (level : Int) (message : String) (context : Json)
  | trace (name : Option String) (trace : Log.Trace)
  | isTracing
  | nameLogger (name : Option String)
  | showLogging

/-- What a step may result in. -/
inductive Result where
  | done
  | flag (value : Bool)
  | text (value : Option String)
  | texts (values : List String)
  | settings (settings : Settings)
  | mediaType (value : MediaType)
  /-- The default resolver: its place among those shown, its platform, its tables. -/
  | resolver (place : Nat) (platform : String) (standardTables : Bool)
  /-- The number of a resolver that was made. -/
  | made (serial : Nat)
  /-- A platform that was chosen, and the events on the way. -/
  | platform (platform : String) (events : List Log.Event)
  | logging (logger : Log.BaseLogger)
  /-- A logger that was handed out, and the base logger. -/
  | issued (name : String) (logger : Log.BaseLogger)

structure Reply where
  result : Except Failure Result
  /-- What was written, in order. -/
  output : List Log.Output := []
  /-- The queries put to the platform's registry, in order. -/
  queries : List Query := []

def change (env : Environment) (c : String × Option String) : Environment :=
  match c.2 with
  | some value => env.insert c.1 value
  | none => env.erase c.1

def Question.lookup (r : Resolver) (tracing : Bool) : Question → Lookup Result
  | .typeOf extension => do return .text (← r.typeOfExtension tracing extension)
  | .wellKnown extension => do return .text (← r.wellKnownType tracing extension)
  | .file path => do return .text (← r.typeOfFile tracing path)
  | .extensions pattern => do return .texts (← r.extensionsOfType tracing pattern)
  | .preferred mediaType => do return .text (← r.preferredExtension mediaType)

/-- The reply to a lookup of the resolver whose events the logger has written. -/
def replyOf (s : Session) (time : String) (before : List Log.Output) (l : Lookup Result) :
    Reply where
  result := l.answer.mapError .query
  output := before ++ writeEvents s.logger time "resolver" l.events
  queries := l.queries

/-- The place of a resolver among those shown so far, and all those shown with it. -/
def place (shown : List Nat) (serial : Nat) : Nat × List Nat :=
  if serial ∈ shown then (shown.idxOf serial, shown) else (shown.length, shown ++ [serial])

def showDefault (host : Host) (time : String) (s : Session) : Session × Reply :=
  let made := s.demand host time
  match made.result with
  | .error e => (made.session, { result := .error e, output := made.output })
  | .ok i =>
    let (index, shown) := place made.session.shown i.serial
    ({ made.session with shown },
      { result := .ok (.resolver index i.resolver.platform.kind i.standardTables)
        output := made.output })

def answer (host : Host) (time : String) (q : Question) (s : Session) : Session × Reply :=
  let made := s.demand host time
  match made.result with
  | .error e => (made.session, { result := .error e, output := made.output })
  | .ok i =>
    (made.session,
      replyOf made.session time made.output (q.lookup i.resolver made.session.tracing))

/-- Makes a new resolver, unless its platform cannot be built. The default one stays as it is. -/
def make (host : Host) (time : String) (source : Platform.Source) (tables : Option Tables)
    (s : Session) : Session × Reply :=
  let choice := source.build (s.onHost host)
  let s := s.prepare choice
  let output := writeEvents s.logger time "platform" choice.events
  match choice.outcome with
  | .error failure => (s, { result := .error (.platform failure), output })
  | .ok platform =>
    let i := s.newInstance ⟨tables.getD Tables.standard, platform⟩ tables.isNone
    (s.keep i, { result := .ok (.made i.serial), output })

/-- Makes the resolver of that number the default one. A number that no resolver has leaves none. -/
def install (s : Session) (serial : Nat) : Session :=
  { s with current := s.instances[serial]? }

/-- Goes one step. The time of a record is shown as `time`. -/
def step (host : Host) (time : String) (s : Session) : Step → Session × Reply
  | .variables changes =>
    ({ s with environment := changes.foldl change s.environment }, { result := .ok .done })
  | .settings =>
    (s, { result := ((Settings.load s.environment).map .settings).mapError .settings })
  | .showDefault => s.showDefault host time
  | .reset => (s.reset, { result := .ok .done })
  | .make source tables => s.make host time source tables
  | .install serial => (s.install serial, { result := .ok .done })
  | .choosePlatform name =>
    let choice := Platform.choose (s.onHost host) name
    (s.prepare choice, { result :=
      (choice.outcome.map fun p => .platform p.kind choice.events).mapError .platform })
  | .ask question => s.answer host time question
  | .matchPattern pattern candidate =>
    (s, { result := .ok (.flag (MediaType.matchesPattern pattern candidate)) })
  | .parse text =>
    (s, { result := ((MediaType.parse text).map .mediaType).mapError .notTokenPair })
  | .isTopLevel text => (s, { result := .ok (.flag (MediaType.isTopLevel text)) })
  | .setupLogging format level stream =>
    let logger := s.logger.setup format level stream
    ({ s with logger }, { result := .ok (.logging logger) })
  | .makeFactory id factory =>
    ({ s with factories := s.factories.insert id factory },
      { result := .ok (.logging s.logger) })
  | .issueLogger id name =>
    let issued := ((s.factories.get? id).getD .passive).getLogger s.logger name
    let s := { s with logger := issued.base, factories := s.factories.insert id issued.factory }
    (s.know issued.name, { result := .ok (.issued issued.name issued.base) })
  | .log name level message context =>
    let r : Log.Record := ⟨Log.loggerName name, level, message, context⟩
    (s.know r.logger, { result := .ok .done, output := s.writeRecord time r })
  | .trace name trace =>
    let r := Log.Record.ofTrace (Log.loggerName name) trace
    (s.know r.logger,
      { result := .ok .done, output := if s.tracing then s.writeRecord time r else [] })
  | .isTracing => (s, { result := .ok (.flag s.tracing) })
  | .nameLogger name =>
    let logger := Log.loggerName name
    (s.know logger, { result := .ok (.text (some logger)) })
  | .showLogging => (s, { result := .ok (.logging s.logger) })

/-- Goes a row of steps, and collects the replies. -/
def run (host : Host) (time : String) (s : Session) : List Step → Session × List Reply
  | [] => (s, [])
  | first :: rest =>
    let next := s.step host time first
    let further := run host time next.1 rest
    (further.1, next.2 :: further.2)

end Session

end MediaTypes
