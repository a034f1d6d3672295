import MediaTypes.Platform.Basic
import MediaTypes.Platform.MimeFile
import MediaTypes.Platform.Plugin
import MediaTypes.Settings

/-!
# Choosing the platform

The platform is chosen by its name in the settings: no registry, the system's database, or a
plugin. A plugin that cannot be loaded, that fails when it is called, or that gives something
other than a registry is reported, and the system's database takes its place. The choice fails if
the database cannot be made. It also fails, with what the plugin raised, if this asks the process to
end or comes from the check whether the plugin is a registry.

## Main definitions

- `Host` — what surrounds a run: files, known mime files, plugins
- `Platform.Choice` — what was reported, and the platform or the failure
- `Platform.ofPlugin` — what using a plugin comes to
- `Platform.choose` — the choice by name
-/

namespace MediaTypes

/-- What surrounds a run and stays the same in it. -/
structure Host where
  files : FileSystem := []
  /-- The mime files that the system's database reads, in order. -/
  knownFiles : List String := []
  modules : Plugin.Modules := []
  /-- The process has prepared its own table of types before the run. -/
  prepared : Bool := false

namespace Platform

/-- Why there is no platform. -/
inductive Failure where
  | database (failure : Database.Failure)
  /-- What a plugin raised, handed on as it is. -/
  | raised (raised : Plugin.Raised)
  deriving DecidableEq

/-- A platform, or the failure to make one, after the events reported on the way. -/
structure Choice where
  events : List Log.Event
  outcome : Except Failure Platform
  /-- The system's database was asked for, so that the process has prepared its own table. -/
  prepares : Bool := false

def ofFiles (host : Host) (names : List String) : Choice :=
  let made := Database.construct host.prepared host.files host.knownFiles names
  ⟨made.1, (made.2.map .system).mapError .database, true⟩

def ofHost (host : Host) : Choice :=
  ofFiles host host.knownFiles

/-- The choice with an event reported before all others. -/
def Choice.after (event : Log.Event) (c : Choice) : Choice :=
  { c with events := event :: c.events }

/-- What using a plugin comes to. -/
inductive Use where
  | registry (registry : Registry)
  /-- The plugin gives way, for the reason that the event reports. -/
  | reported (event : Log.Event)
  | escaped (raised : Plugin.Raised)

/-- A plugin gives way for what its code raises, unless this asks the process to end. -/
def useOfRaised (reference : String) (raised : Plugin.Raised) : Use :=
  if raised.exits then .escaped raised
  else .reported (.registryNotLoaded reference raised.message)

/-- What using the plugin that a reference names comes to. -/
def ofPlugin (modules : Plugin.Modules) (reference : String) : Use :=
  match Plugin.find modules (some reference) with
  | .error (.reference e) => .reported (.registryNotLoaded reference e.message)
  | .error (.escaped raised) => useOfRaised reference raised
  | .ok found =>
    match found.provide with
    | .error raised => useOfRaised reference raised
    | .ok (.registry registry) => .registry registry
    | .ok .other => .reported (.notARegistry reference)
    | .ok (.guarded raised) => .escaped raised

/-- The choice that the use of a plugin comes to. The system's database takes the place of a plugin
that gives way. -/
def ofUse (host : Host) : Use → Choice
  | .registry registry => { events := [], outcome := .ok (.custom registry) }
  | .reported event => (ofHost host).after event
  | .escaped raised => { events := [], outcome := .error (.raised raised) }

/-- The platform of that name. -/
def choose (host : Host) (name : String) : Choice :=
  if name = Settings.noPlatform then { events := [], outcome := .ok .silent }
  else if name = Settings.systemPlatform then ofHost host
  else ofUse host (ofPlugin host.modules name)

end Platform

end MediaTypes
