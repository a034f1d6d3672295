import MediaTypes.Platform.Database

/-!
# Platforms

The platform of a resolver is the registry it asks beside the fixed tables: none at all, the
system's database, or a registry supplied from outside.

## Main definitions

- `Platform` — the choice of a registry
- `Platform.registry` — the answers of the choice
-/

namespace MediaTypes

/-- The registry that a resolver asks beside the fixed tables. -/
inductive Platform where
  | silent
  | system (database : Database)
  | custom (registry : Registry)

namespace Platform

def registry : Platform → Registry
  | .silent => Registry.silent
  | .system database => database.registry
  | .custom registry => registry

def kind : Platform → String
  | .silent => "none"
  | .system _ => "system"
  | .custom _ => "custom"

end Platform

end MediaTypes
