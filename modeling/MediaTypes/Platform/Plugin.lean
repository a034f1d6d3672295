import MediaTypes.Platform.Plugin.Module
import MediaTypes.Text.Split

/-!
# Plugin references

A plugin is named by a reference `module:attribute`, cut at the first colon. The attribute is one
that the module's author gave it or else one that every module has. A reference can be malformed,
its module can fail to load, and the attribute can be missing. What a module raises when an
attribute is looked up is handed on as it is, and so is a failure to load that asks the process to
end.

## Main definitions

- `Plugin.ReferenceError` — why a reference names no attribute
- `Plugin.FindError` — why a search for an attribute ends without one
- `Plugin.find` — the attribute that a reference names, or the reason why there is none
-/

namespace MediaTypes

namespace Plugin

/-- Why a reference names no attribute. -/
inductive ReferenceError where
  /-- The reference does not have two parts that are not empty. -/
  | malformed (reference : Option String)
  | notLoaded (moduleName reference : String) (failure : LoadFailure)
  | missingAttribute (moduleName name reference : String)
  deriving DecidableEq

/-- The wording of the error; a missing reference is shown as `None`. -/
def ReferenceError.message : ReferenceError → String
  | .malformed reference =>
    "Invalid platform reference '" ++ reference.getD "None" ++
      "'. Expected 'module.path:AttrName'."
  | .notLoaded moduleName reference failure =>
    "Cannot import '" ++ moduleName ++ "' for platform reference '" ++ reference ++ "': " ++
      failure.message
  | .missingAttribute moduleName name reference =>
    "'" ++ moduleName ++ "' defines no '" ++ name ++ "' for platform reference '" ++
      reference ++ "'"

/-- Why a search for an attribute ends without one. -/
inductive FindError where
  | reference (error : ReferenceError)
  /-- A failure in the code of the plugin, handed on as it is. -/
  | escaped (raised : Raised)
  deriving DecidableEq

/-- What a search makes of a module that does not load. -/
def loadError (moduleName reference : String) (failure : LoadFailure) : FindError :=
  match failure.exit? with
  | some raised => .escaped raised
  | none => .reference (.notLoaded moduleName reference failure)

/-- The attribute of a module, as the parts of a reference name them. -/
def findIn (modules : Modules) (reference moduleName name : String) :
    Except FindError Attribute :=
  match load modules moduleName with
  | .error failure => .error (loadError moduleName reference failure)
  | .ok contents =>
    match attribute? contents name with
    | .error raised => .error (.escaped raised)
    | .ok (some found) => .ok found
    | .ok none => .error (.reference (.missingAttribute moduleName name reference))

/-- The attribute that a reference names. -/
def find (modules : Modules) (reference : Option String) : Except FindError Attribute :=
  let text := reference.getD ""
  match Text.cut ':' text with
  | (_, none) => .error (.reference (.malformed reference))
  | (moduleName, some name) =>
    if moduleName = "" ∨ name = "" then .error (.reference (.malformed reference))
    else findIn modules text moduleName name

end Plugin

end MediaTypes
