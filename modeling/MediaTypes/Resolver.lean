import MediaTypes.FileName
import MediaTypes.Lookup
import MediaTypes.MediaType.Pattern
import MediaTypes.Platform.Basic
import MediaTypes.Tables.Basic

/-!
# Resolution between extensions and types

From an extension to its type: the primary table is consulted first and is never overridden, then
the platform, if it may be asked, and then the secondary table. An empty type in the primary
table or from the platform counts as no answer.

From a type, or a pattern `type/*`, to its extensions: the answers of the platform are united
with the extensions of all mappings whose type has the same beginning.

## Main definitions

- `Resolver` — the tables and the platform
- `Resolver.typeOfExtension`, `Resolver.wellKnownType`, `Resolver.typeOfFile`
- `Resolver.extensionsOfType`, `Resolver.preferredExtension`
-/

namespace MediaTypes

/-- The fixed tables and the platform between them. -/
structure Resolver where
  tables : Tables
  platform : Platform

namespace Resolver

/-- Extensions of more characters than this are not looked up. -/
def maxExtensionLength : Nat := 65536

/-- An answer that is there and not empty. -/
def nonEmpty? : Option String → Option String
  | some s => if s = "" then none else some s
  | none => none

/-- Looks up the type of an extension; the platform is asked only if `consult` is true. -/
def findType (r : Resolver) (tracing consult : Bool) (extension : String) :
    Lookup (Option String) :=
  if maxExtensionLength < extension.length then do
    Lookup.report (.extensionTooLong extension.length maxExtensionLength)
    return none
  else
    match nonEmpty? (Tables.typeOf? r.tables.primary extension) with
    | some found => do
      Lookup.trace tracing (.hit .primary extension found)
      return some found
    | none => do
      let answer ←
        if consult then r.platform.registry.askType (some extension) else Lookup.done none
      match nonEmpty? answer with
      | some found => do
        Lookup.trace tracing (.hit .platform extension found)
        return some found
      | none =>
        match Tables.typeOf? r.tables.secondary extension with
        | none => return none
        | some found => do
          if found ≠ "" then Lookup.trace tracing (.hit .secondary extension found)
          return some found

/-- The type of an extension, from the tables and the platform. -/
def typeOfExtension (r : Resolver) (tracing : Bool) (extension : String) :
    Lookup (Option String) :=
  r.findType tracing true extension

def wellKnownType (r : Resolver) (tracing : Bool) (extension : String) :
    Lookup (Option String) :=
  r.findType tracing false extension

/-- The type of a file by the extension of its name; a name without one has no type. -/
def typeOfFile (r : Resolver) (tracing : Bool) (path : String) : Lookup (Option String) :=
  let extension := FileName.extensionOfPath path
  if extension = "" then return none else r.typeOfExtension tracing extension

/-- What a type in lower case, or a pattern `type/*`, stands for: the beginning that selects
mappings, and the types the platform is asked about. -/
def selection (t : Tables) (mediaType : String) : String × List String :=
  if ['/', '*'].isSuffixOf mediaType.toList then
    let leading := String.ofList mediaType.toList.dropLast
    (leading, (t.groupFor leading).members)
  else (mediaType, [mediaType])

/-- The extensions of a type or of a pattern `type/*`, without repetition. The patterns that
every type matches are too broad and have none. -/
def extensionsOfType (r : Resolver) (tracing : Bool) (pattern : String) : Lookup (List String) :=
  if MediaType.isFullWildcard pattern then return []
  else do
    let (leading, asked) := selection r.tables (Text.lowerAscii pattern)
    let answers ← r.platform.registry.askAllExtensions asked
    let found := (answers ++ Tables.extensionsUnder r.tables.primary leading ++
      Tables.extensionsUnder r.tables.secondary leading).eraseDups
    Lookup.trace tracing (.reverseLookup pattern found.length)
    return found

/-- The extension that the tables prefer for a type: the first one of the first mapping whose
type is the given one with its ASCII letters lowered. -/
def tablePreferred (t : Tables) (mediaType : String) : Option String :=
  ((t.primary ++ t.secondary).find? fun m => m.mediaType == Text.lowerAscii mediaType).map
    (·.firstExtension)

/-- The extension that the platform prefers, or else the one that the tables prefer. -/
def preferredExtension (r : Resolver) (mediaType : Option String) : Lookup (Option String) := do
  let answer ← r.platform.registry.askPreferred mediaType
  match nonEmpty? answer with
  | some found => return some found
  | none => return tablePreferred r.tables (mediaType.getD "")

end Resolver

end MediaTypes
