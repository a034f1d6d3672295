/-!
# Registries

A registry is a source of types and extensions beside the fixed tables. It answers three
questions, each of which it may also fail to answer. Extensions are written without their dot.

## Main definitions

- `Query` — a question put to a registry
- `Registry` — the three answers
- `Registry.silent` — the registry without an entry
- `Registry.refusing` — the registry that fails on every question
- `Registry.ofEntries` — the registry that answers from lists of entries
-/

namespace MediaTypes

/-- A question put to a registry. The argument is missing where the asker had none. -/
inductive Query where
  | typeOf (extension : Option String)
  | extensionsOf (mediaType : Option String)
  | preferredOf (mediaType : Option String)
  deriving DecidableEq

structure QueryFailure where
  message : String
  deriving DecidableEq

structure Registry where
  /-- The type of an extension. -/
  typeOf : Option String → Except QueryFailure (Option String)
  /-- The extensions of a type, as a set. -/
  extensionsOf : Option String → Except QueryFailure (List String)
  /-- The extension that a type prefers. -/
  preferredOf : Option String → Except QueryFailure (Option String)

namespace Query

def subject : Query → String
  | .typeOf _ => "type"
  | .extensionsOf _ => "extensions"
  | .preferredOf _ => "preferred"

def argument : Query → Option String
  | .typeOf a | .extensionsOf a | .preferredOf a => a

/-- The refusal to answer, which names the question; a missing argument is shown as `None`. -/
def refusal (q : Query) : QueryFailure :=
  ⟨q.subject ++ ":" ++ q.argument.getD "None"⟩

end Query

namespace Registry

/-- The registry without an entry. -/
def silent : Registry where
  typeOf _ := .ok none
  extensionsOf _ := .ok []
  preferredOf _ := .ok none

/-- The registry that fails on every question. -/
def refusing : Registry where
  typeOf e := .error (Query.typeOf e).refusal
  extensionsOf m := .error (Query.extensionsOf m).refusal
  preferredOf m := .error (Query.preferredOf m).refusal

/-- The registry that answers from lists of entries, each of which has a name of its own. A
repeated extension of a type counts once. -/
def ofEntries (types : List (String × String)) (extensions : List (String × List String))
    (preferred : List (String × String)) : Registry where
  typeOf e := .ok (e.bind fun name => types.lookup name)
  extensionsOf m := .ok ((m.bind fun name => extensions.lookup name).getD []).eraseDups
  preferredOf m := .ok (m.bind fun name => preferred.lookup name)

end Registry

end MediaTypes
