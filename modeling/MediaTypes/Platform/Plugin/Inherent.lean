import MediaTypes.Platform.Plugin.Attribute

/-!
# Attributes that every module has

A loaded module has some attributes whatever its author wrote: data about it, and the operations
of every object. None of them is a registry, and calling one without arguments gives none either,
so a reference to one names something that exists but is of no use.

## Main definitions

- `Plugin.inherent` — the attributes, by their names

## Main statements

- `isRegistry_of_mem_inherent`, `provide_of_mem_inherent` — none of them is or gives a
  registry
-/

namespace MediaTypes

namespace Plugin

/-- The attributes that hold data about the module. -/
def inherentData : List String :=
  ["__annotations__", "__dict__", "__doc__", "__loader__", "__name__", "__package__", "__spec__"]

/-- The operations that answer a call without arguments. -/
def inherentQueries : List String :=
  ["__dir__", "__getstate__", "__hash__", "__init_subclass__", "__repr__", "__sizeof__",
    "__str__", "__subclasshook__"]

/-- The operations on one further value, which miss it in a call without arguments. -/
def inherentRelations : List String :=
  ["__delattr__", "__eq__", "__ge__", "__getattribute__", "__gt__", "__le__", "__lt__", "__ne__"]

/-- The other operations that fail in a call without arguments, each with what it reports. -/
def inherentFailures : List (String × String) :=
  [("__class__", "module() missing required argument 'name' (pos 1)"),
    ("__init__", "module() missing required argument 'name' (pos 1)"),
    ("__new__", "module.__new__(): not enough arguments"),
    ("__format__", "__format__() takes exactly one argument (0 given)"),
    ("__reduce__", "cannot pickle 'module' object"),
    ("__reduce_ex__", "__reduce_ex__() takes exactly one argument (0 given)"),
    ("__setattr__", " expected 2 arguments, got 0")]

/-- A call without the arguments that it needs. -/
def wrongCall (message : String) : Raised :=
  ⟨"TypeError", message, false⟩

/-- The attributes that every module has. -/
def inherent : List (String × Attribute) :=
  inherentData.map (·, .object .other) ++ inherentQueries.map (·, .factory .other) ++
    inherentRelations.map (·, .raising (wrongCall "expected 1 argument, got 0")) ++
    inherentFailures.map fun f => (f.1, .raising (wrongCall f.2))

/-- An attribute of that table is of one of three kinds. -/
theorem eq_of_mem_inherent {name : String} {a : Attribute} (h : (name, a) ∈ inherent) :
    a = .object .other ∨ a = .factory .other ∨ ∃ message, a = .raising (wrongCall message) := by
  simp only [inherent, List.mem_append, List.mem_map, Prod.mk.injEq] at h
  rcases h with ((⟨_, _, _, rfl⟩ | ⟨_, _, _, rfl⟩) | ⟨_, _, _, rfl⟩) | ⟨_, _, _, rfl⟩
  · exact .inl rfl
  · exact .inr (.inl rfl)
  · exact .inr (.inr ⟨_, rfl⟩)
  · exact .inr (.inr ⟨_, rfl⟩)

/-- An attribute that every module has is no registry. -/
theorem isRegistry_of_mem_inherent {name : String} {a : Attribute} (h : (name, a) ∈ inherent) :
    a.isRegistry = false := by
  rcases eq_of_mem_inherent h with rfl | rfl | ⟨_, rfl⟩ <;> rfl

/-- An attribute that every module has gives no registry, and no failure that its user is not to
deal with. -/
theorem provide_of_mem_inherent {name : String} {a : Attribute} (h : (name, a) ∈ inherent) :
    a.provide = .ok .other ∨ ∃ raised, a.provide = .error raised ∧ raised.exits = false := by
  rcases eq_of_mem_inherent h with rfl | rfl | ⟨_, rfl⟩
  · exact .inl rfl
  · exact .inl rfl
  · exact .inr ⟨_, rfl, rfl⟩

end Plugin

end MediaTypes
