import MediaTypes.Platform.Plugin.Inherent
import MediaTypes.Text.Quoted

/-!
# Plugin modules

Modules have dotted names, and what stands before a dot of a name names a package around the
module. A module that was loaded before is found under its full name alone. For any other one the
packages are loaded first, from the outermost, so that the failure of a package comes before that of
the module; a package that loads has to be one, that is, it needs a path. A loaded module may have
its own way to find attributes that it lacks, and this may fail.

## Main definitions

- `Plugin.Contents` — what a loaded module offers
- `Plugin.Module` — a module that is loaded, or what loading it comes to
- `Plugin.LoadFailure` — why a module cannot be loaded
- `Plugin.packages` — the packages around a name
- `Plugin.load` — the loaded module, or the failure
-/

namespace MediaTypes

namespace Plugin

/-- What a loaded module offers. -/
structure Contents where
  /-- The attributes that its author gave it. -/
  entries : List (String × Attribute)
  /-- The author's way to find an attribute that the module lacks; usually there is none. Asked
  again for the same name, it comes to the same. -/
  fallback : String → Except Raised (Option Attribute) := fun _ => .ok none

inductive Module where
  /-- The module was loaded before. -/
  | loaded (contents : Contents)
  /-- The module can be found; loading it comes to this. -/
  | importable (outcome : Except Raised Contents)

/-- The modules that exist, by their full names. -/
abbrev Modules := List (String × Module)

/-- Why a module cannot be loaded. -/
inductive LoadFailure where
  /-- The code of the module, or of a package around it, failed. -/
  | raised (raised : Raised)
  | notFound (name : String)
  /-- What should be the package around the module is a module without a path. -/
  | notInPackage (name package : String)
  /-- The name is relative, and there is nothing it could be relative to. -/
  | relativeName (name : String)
  deriving DecidableEq

/-- The failure of code that asks the process to end. -/
def LoadFailure.exit? : LoadFailure → Option Raised
  | .raised failure => if failure.exits then some failure else none
  | _ => none

def LoadFailure.message : LoadFailure → String
  | .raised failure => failure.message
  | .notFound name => "No module named " ++ Text.quote name
  | .notInPackage name package =>
    "No module named " ++ Text.quote name ++ "; " ++ Text.quote package ++ " is not a package"
  | .relativeName name =>
    "the 'package' argument is required to perform a relative import for " ++ Text.quote name

abbrev Loaded := Except LoadFailure Contents

/-- The attribute of that name of a loaded module: one of its own, one that every module has, or
what the module finds in its own way. -/
def attribute? (contents : Contents) (name : String) : Except Raised (Option Attribute) :=
  match contents.entries.lookup name <|> inherent.lookup name with
  | some found => .ok (some found)
  | none => contents.fallback name

/-- A loaded module is a package if it has a path. -/
def isPackage (contents : Contents) : Except Raised Bool :=
  (attribute? contents "__path__").map Option.isSome

/-- What stands before each dot of a name written from its end, from the last dot on. -/
def packagesChars : List Char → List String
  | [] => []
  | c :: rest =>
    if c = '.' then String.ofList rest.reverse :: packagesChars rest else packagesChars rest

/-- The packages around a name, from the innermost. -/
def packages (name : String) : List String :=
  packagesChars name.toList.reverse

/-- Loads a module whose packages are loaded. -/
def loadAlone (modules : Modules) (name : String) : Loaded :=
  match modules.lookup name with
  | some (.loaded contents) => .ok contents
  | some (.importable outcome) => outcome.mapError .raised
  | none => .error (.notFound name)

/-- Loads a module inside the given packages, from the innermost. -/
def loadIn (modules : Modules) (name : String) : List String → Loaded
  | [] => loadAlone modules name
  | package :: outer =>
    match modules.lookup name with
    | some (.loaded contents) => .ok contents
    | _ =>
      match loadIn modules package outer with
      | .error failure => .error failure
      | .ok contents =>
        match isPackage contents with
        | .error raised => .error (.raised raised)
        | .ok false => .error (.notInPackage name package)
        | .ok true => loadAlone modules name

def load (modules : Modules) (name : String) : Loaded :=
  if name.toList.head? = some '.' then .error (.relativeName name)
  else loadIn modules name (packages name)

end Plugin

end MediaTypes
