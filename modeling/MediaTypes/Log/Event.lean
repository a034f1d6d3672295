import MediaTypes.Log.Level
import MediaTypes.Log.Trace

/-!
# Events

What lookups and the choice of a registry have to report. Events are causes; their level, their
wording and their named values follow from the cause.

## Main definitions

- `Log.Event` — the causes
- `Log.Event.level`, `Log.Event.message`, `Log.Event.context`
-/

namespace MediaTypes

namespace Log

/-- Where the type of an extension was found. -/
inductive Source where
  /-- The table consulted before the platform. -/
  | primary
  | platform
  /-- The table consulted after the platform. -/
  | secondary
  deriving DecidableEq

def Source.label : Source → String
  | .primary => "primary table hit"
  | .platform => "platform hit"
  | .secondary => "secondary table hit"

def hitTrace (source : Source) (extension mediaType : String) : Trace :=
  ⟨source.label, [("ext", .string extension), ("mime", .string mediaType)]⟩

def reverseTrace (pattern : String) (count : Nat) : Trace :=
  ⟨"reverse lookup", [("pattern", .string pattern), ("count", .int count)]⟩

/-- What there is to report. -/
inductive Event where
  /-- An extension of that many characters is over the limit and was not looked up. -/
  | extensionTooLong (length limit : Nat)
  /-- The extension was found to have the type. -/
  | hit (source : Source) (extension mediaType : String)
  /-- That many extensions were found for the pattern. -/
  | reverseLookup (pattern : String) (count : Nat)
  /-- The mime file exists but cannot be opened. -/
  | unreadableFile (name reason : String)
  /-- The plugin could not be loaded or called. -/
  | registryNotLoaded (reference reason : String)
  /-- The plugin gave something that is no registry. -/
  | notARegistry (reference : String)
  deriving DecidableEq

namespace Event

/-- Hits and reverse lookups are reported as traces. -/
def trace? : Event → Option Trace
  | .hit source extension mediaType => some (hitTrace source extension mediaType)
  | .reverseLookup pattern count => some (reverseTrace pattern count)
  | _ => none

/-- The level of the record that reports an event. -/
def level : Event → Int
  | .extensionTooLong .. | .hit .. | .reverseLookup .. => debug
  | .unreadableFile .. | .registryNotLoaded .. | .notARegistry .. => warning

def message : Event → String
  | .extensionTooLong length limit =>
    "extension of " ++ toString length ++ " chars exceeds the " ++ toString limit ++
      " limit; not resolved"
  | .hit source extension mediaType => (hitTrace source extension mediaType).text
  | .reverseLookup pattern count => (reverseTrace pattern count).text
  | .unreadableFile name reason =>
    "⚠  could not read mime database " ++ name ++ " (" ++ reason ++ ")"
  | .registryNotLoaded reference reason =>
    "⚠  failed to load platform registry " ++ Text.quote reference ++ ": " ++ reason ++
      "; using system registry"
  | .notARegistry reference =>
    "⚠  " ++ Text.quote reference ++ " does not provide a platform registry; using system registry"

/-- The named values of an event, or the missing value. -/
def context (e : Event) : Json :=
  match e.trace? with
  | some t => t.contextValue
  | none => .null

end Event

end Log

end MediaTypes
