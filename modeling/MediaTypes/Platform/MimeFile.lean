import MediaTypes.Log.Event
import MediaTypes.Platform.BuiltinTypes
import MediaTypes.Text.Blank

/-!
# Mime files

A mime file registers types line by line: the first word of a line is a type and every further
word an extension of it. A word that starts with `#` ends the line. Files that do not exist are
passed over; one that exists and cannot be opened is reported and passed over; one whose bytes
are no UTF-8 makes the whole reading fail.

A process has a table of types of its own. It is prepared from the known files before the first
database is made, and there even a file that cannot be opened makes the reading fail. It is prepared
once only, whether this fails or not.

## Main definitions

- `MimeFile.registrations` — what the text of a file registers
- `FileEntry` — a file as the system finds it
- `Database.load` — the built-in database extended by files
- `Database.construct` — the database that a process makes, be it the first one or a later one
-/

namespace MediaTypes

namespace MimeFile

def opensComment (word : List Char) : Bool :=
  word.head? == some '#'

/-- The registrations of one line: its first word is a type, the others are its extensions. -/
def registrationsOfLine (line : List Char) : List Registration :=
  match (Text.wordsOfChars line).takeWhile fun word => !opensComment word with
  | [] => []
  | mediaType :: extensions =>
    extensions.map fun e => ⟨String.ofList mediaType, String.ofList e⟩

/-- The lines of a file. A line ends at a line feed or a carriage return; of both together the
second one ends an empty line, which registers nothing. -/
def linesOfChars (cs : List Char) : List (List Char) :=
  cs.splitOnP fun c => c == '\n' || c == '\r'

/-- What the text of a file registers, in order. -/
def registrations (text : String) : List Registration :=
  (linesOfChars text.toList).flatMap registrationsOfLine

end MimeFile

/-- A file as the system finds it. -/
inductive FileEntry where
  /-- The file can be opened and holds these bytes. -/
  | content (bytes : ByteArray)
  /-- The file exists and cannot be opened. -/
  | unopenable (reason : String)

abbrev FileSystem := List (String × FileEntry)

/-- A file's bytes are no UTF-8. -/
structure UndecodableFile where
  name : String
  deriving DecidableEq

namespace Database

/-- Extends a database by files, in order. The events stand beside the outcome, for they have
been reported even where a later file makes the reading fail. -/
def extend (files : FileSystem) (db : Database) :
    List String → List Log.Event × Except UndecodableFile Database
  | [] => ([], .ok db)
  | name :: rest =>
    match files.lookup name with
    | none => extend files db rest
    | some (.unopenable reason) =>
      let tail := extend files db rest
      (.unreadableFile name reason :: tail.1, tail.2)
    | some (.content bytes) =>
      match String.fromUTF8? bytes with
      | none => ([], .error ⟨name⟩)
      | some text => extend files (db.registerAll (MimeFile.registrations text)) rest

/-- The built-in database extended by files, in order. -/
def load (files : FileSystem) (names : List String) :
    List Log.Event × Except UndecodableFile Database :=
  extend files builtin names

/-- Why a database cannot be made. -/
inductive Failure where
  | undecodable (file : UndecodableFile)
  /-- A known file cannot be opened, and the process has not got its own table yet. -/
  | unopenable (name reason : String)
  deriving DecidableEq

/-- Prepares the process's own table from the known files, up to the first one that cannot be
read. -/
def prepare (files : FileSystem) : List String → Except Failure Unit
  | [] => .ok ()
  | name :: rest =>
    match files.lookup name with
    | none => prepare files rest
    | some (.unopenable reason) => .error (.unopenable name reason)
    | some (.content bytes) =>
      match String.fromUTF8? bytes with
      | none => .error (.undecodable ⟨name⟩)
      | some _ => prepare files rest

/-- The database that a process makes from files, after it has prepared its own table if need be. -/
def construct (prepared : Bool) (files : FileSystem) (knownFiles names : List String) :
    List Log.Event × Except Failure Database :=
  match if prepared then .ok () else prepare files knownFiles with
  | .error failure => ([], .error failure)
  | .ok () =>
    let loaded := load files names
    (loaded.1, loaded.2.mapError .undecodable)

end Database

end MediaTypes
