import MediaTypes.Dictionary
import MediaTypes.Platform.Registry
import MediaTypes.Text.Lowercase

/-!
# The system database

The system knows types from registrations, each of one type and one extension. A type map keeps
the type registered last for an extension, and all extensions ever registered for a type, in the
order of their first registration. The database has two such maps; the strict one is consulted
before the common one. Extensions are written without their dot.

## Main definitions

- `Registration` — a type and an extension
- `TypeMap`, `TypeMap.register` — the two directions of one map, and a registration in both
- `Database` — the strict and the common map
- `Database.typeOf?`, `Database.extensionsOf`, `Database.preferredOf?` — the three answers
-/

namespace MediaTypes

structure Registration where
  /-- The media type, in the case in which it was registered. -/
  mediaType : String
  /-- The extension, without its dot. -/
  extension : String
  deriving DecidableEq

/-- What is known of a set of registrations, in both directions. -/
structure TypeMap where
  /-- The type registered last for an extension. -/
  forward : Dictionary String String
  /-- The extensions registered for a type, in order of first registration. -/
  inverse : Dictionary String (List String)

namespace TypeMap

def empty : TypeMap :=
  ⟨Dictionary.empty, Dictionary.empty⟩

/-- The extensions registered for exactly this type. -/
def extensionsOf (m : TypeMap) (mediaType : String) : List String :=
  (m.inverse.get? mediaType).getD []

/-- An extension at the end of a list that does not hold it yet. -/
def appendNew (extensions : List String) (extension : String) : List String :=
  if extension ∈ extensions then extensions else extensions ++ [extension]

/-- Records a registration in both directions. An extension that had another type keeps its place
among the extensions of that type. -/
def register (m : TypeMap) (r : Registration) : TypeMap where
  forward := m.forward.insert r.extension r.mediaType
  inverse := m.inverse.insert r.mediaType (appendNew (m.extensionsOf r.mediaType) r.extension)

def registerAll (m : TypeMap) (rs : List Registration) : TypeMap :=
  rs.foldl register m

/-- The type of an extension, as it is given or else with its ASCII letters lowered. -/
def typeOf? (m : TypeMap) (extension : String) : Option String :=
  (m.forward.get? extension).or (m.forward.get? (Text.lowerAscii extension))

end TypeMap

/-- The strict and the common registrations of the system. -/
structure Database where
  /-- The map consulted first; mime files add to it. -/
  strict : TypeMap
  /-- The map consulted second. -/
  common : TypeMap

namespace Database

def registerAll (db : Database) (rs : List Registration) : Database :=
  { db with strict := db.strict.registerAll rs }

/-- The type of an extension, strict before common. -/
def typeOf? (db : Database) (extension : String) : Option String :=
  (db.strict.typeOf? extension).or (db.common.typeOf? extension)

/-- The extensions of a type in lower case, the strict ones before the common ones, without
repetition. -/
def extensionsOf (db : Database) (mediaType : String) : List String :=
  let name := Text.lower mediaType
  (db.strict.extensionsOf name ++ db.common.extensionsOf name).eraseDups

/-- The first extension of a type in lower case. -/
def preferredOf? (db : Database) (mediaType : String) : Option String :=
  (db.extensionsOf mediaType).head?

/-- The registry that answers from the database. A missing argument has no answer. -/
def registry (db : Database) : Registry where
  typeOf e := .ok (e.bind db.typeOf?)
  extensionsOf m := .ok ((m.map db.extensionsOf).getD [])
  preferredOf m := .ok (m.bind db.preferredOf?)

end Database

end MediaTypes
