import MediaTypes.Text.Split

/-!
# File names

A path is a row of components between slashes; empty components and `.` do not count. The file
name is the last component, and its extension is what follows its last dot.

## Main definitions

- `FileName.nameOfPath` — the last component of a path
- `FileName.extensionOfPath` — the extension of a path's file name, empty if it has none
-/

namespace MediaTypes

namespace FileName

/-- The components of a path that count, in order. -/
def components (path : List Char) : List (List Char) :=
  (path.splitOn '/').filter fun part => !part.isEmpty && part != ['.']

/-- The last component of a path, or nothing if no component counts. -/
def nameOfPath (path : List Char) : List Char :=
  (components path).getLast?.getD []

/-- What follows the last dot of a name. -/
def extensionOfName (name : List Char) : List Char :=
  (Text.afterLastChars '.' name).getD []

/-- The extension of a path's file name. A name without a dot and one that ends in a dot, `..`
among them, have the empty extension. -/
def extensionOfPath (path : String) : String :=
  String.ofList (extensionOfName (nameOfPath path.toList))

end FileName

end MediaTypes
