import MediaTypes.Platform.Choice

/-!
# Platforms to be built

A platform can be described before it is built: it is ready already, or it is the system's database
over mime files that are named.

## Main definitions

- `Platform.Source` — the description
- `Platform.Source.build` — the platform described, on a host
-/

namespace MediaTypes

namespace Platform

inductive Source where
  /-- A platform that needs no building. -/
  | ready (platform : Platform)
  /-- The system's database over the named files, or else over the host's known ones. -/
  | system (files : Option (List String))

def Source.build (host : Host) : Source → Choice
  | .ready platform => { events := [], outcome := .ok platform }
  | .system files => ofFiles host (files.getD host.knownFiles)

end Platform

end MediaTypes
