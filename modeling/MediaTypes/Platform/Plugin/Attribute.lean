import MediaTypes.Platform.Registry

/-!
# Attributes of plugin modules

An attribute of a module is some object. An object that can be called, such as a class of registries
or a factory, is called to get what it provides; any other one provides itself. What is provided is
then checked for the three answers of a registry. The call may fail, and so may the check, for an
object may have its own way to look up what it is asked for. A failure that asks the process to end
is not one that callers are to deal with.

## Main definitions

- `Plugin.Raised` — a failure inside the code of a plugin
- `Plugin.Provided` — an object, as far as it may serve as a registry
- `Plugin.Attribute` — an attribute of a module
- `Plugin.Attribute.provide` — what using the attribute gives
-/

namespace MediaTypes

namespace Plugin

/-- A failure inside the code of a plugin. It can be shown, as its message. -/
structure Raised where
  /-- The name of its class. -/
  kind : String
  message : String
  /-- It asks the process to end, rather than its caller to deal with it. -/
  exits : Bool := false
  deriving DecidableEq

/-- An object, as far as it may serve as a registry. -/
inductive Provided where
  | registry (registry : Registry)
  /-- One of the three answers is missing. -/
  | other
  /-- The check for the three answers fails. -/
  | guarded (raised : Raised)

/-- An attribute of a module. -/
structure Attribute where
  /-- What the attribute is by itself. -/
  self : Provided
  /-- What a call of the attribute comes to, if it can be called. -/
  call? : Option (Except Raised Provided)

namespace Attribute

/-- A class whose instances are registries. The class itself has the three answers as well. -/
def registryClass (registry : Registry) : Attribute :=
  ⟨.registry registry, some (.ok (.registry registry))⟩

/-- A factory, and what it gives when it is called. -/
def factory (product : Provided) : Attribute :=
  ⟨.other, some (.ok product)⟩

/-- A factory that fails when it is called. -/
def raising (raised : Raised) : Attribute :=
  ⟨.other, some (.error raised)⟩

/-- An object that cannot be called. -/
def object (self : Provided) : Attribute :=
  ⟨self, none⟩

def isCallable (a : Attribute) : Bool :=
  a.call?.isSome

/-- The attribute itself has the three answers of a registry. -/
def isRegistry (a : Attribute) : Bool :=
  match a.self with
  | .registry _ => true
  | _ => false

/-- What using the attribute gives: the result of the call, if it can be called, and otherwise the
object itself. -/
def provide (a : Attribute) : Except Raised Provided :=
  match a.call? with
  | some outcome => outcome
  | none => .ok a.self

end Attribute

end Plugin

end MediaTypes
