import MediaTypes.Text.Ascii
import MediaTypes.Text.Split

/-!
# Fixed tables

A mapping gives a media type a comma-separated list of extensions. The primary mappings are
consulted before the platform and the secondary ones after it; within a table the first mapping
that lists an extension counts. A group names the types that stand for a pattern `type/*`.

## Main definitions

- `Mapping`, `Group`, `Tables`
- `Mapping.Lists` — an entry of the mapping's list equals the extension up to ASCII case
- `Tables.typeOf?` — the type of the first mapping that lists an extension
- `Tables.extensionsUnder` — the extensions of all types with a given beginning
- `Tables.groupFor` — the group of a leading type
-/

namespace MediaTypes

/-- A media type and its extensions, as one comma-separated list. -/
structure Mapping where
  mediaType : String
  /-- The extensions, separated by commas. -/
  extensions : String
  deriving DecidableEq

namespace Mapping

/-- The entries between the commas, in order. -/
def extensionList (m : Mapping) : List String :=
  Text.splitOn ',' m.extensions

/-- Some entry of the list equals the extension up to ASCII case. -/
def lists (m : Mapping) (extension : String) : Bool :=
  m.extensionList.any fun entry => Text.eqFold entry extension

/-- Some entry of the list equals the extension up to ASCII case. -/
def Lists (m : Mapping) (extension : String) : Prop :=
  ∃ entry ∈ m.extensionList, Text.EqFold entry extension

theorem lists_iff (m : Mapping) (extension : String) :
    m.lists extension = true ↔ m.Lists extension := by
  simp [lists, Lists, Text.eqFold_iff]

/-- The first entry of the list; a list of no commas is its own only entry. -/
def firstExtension (m : Mapping) : String :=
  (m.extensionList.head?).getD ""

end Mapping

/-- The types that stand for `leading*`, or for any other beginning if there is no leading
type. -/
structure Group where
  /-- The beginning that the members share, with its slash. -/
  leading : Option String
  members : List String
  deriving DecidableEq

structure Tables where
  /-- Consulted before the platform. -/
  primary : List Mapping
  /-- Consulted after the platform. -/
  secondary : List Mapping
  groups : List Group
  /-- The group of every other leading type. -/
  fallback : Group

namespace Tables

/-- The type of the first mapping that lists the extension. -/
def typeOf? (mappings : List Mapping) (extension : String) : Option String :=
  (mappings.find? (·.lists extension)).map (·.mediaType)

/-- The mapping's type begins with the given text, up to ASCII case. -/
def hasLeading (leading : String) (m : Mapping) : Bool :=
  (Text.lowerAscii leading).toList.isPrefixOf (Text.lowerAscii m.mediaType).toList

/-- The extensions, without repetition, of all mappings whose type begins with the given text. -/
def extensionsUnder (mappings : List Mapping) (leading : String) : List String :=
  ((mappings.filter (hasLeading leading)).flatMap (·.extensionList)).eraseDups

def groupFor (t : Tables) (leading : String) : Group :=
  (t.groups.find? fun g => g.leading == some leading).getD t.fallback

end Tables

end MediaTypes
