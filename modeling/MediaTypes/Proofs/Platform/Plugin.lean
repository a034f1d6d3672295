import MediaTypes.Platform.Choice
import MediaTypes.Proofs.Text.Split

/-!
# What a plugin reference leads to

A reference is cut at its first colon. Three things can keep it from leading to an attribute: it
does not have two parts, its module does not load, or the module has no such attribute. Besides, the
search can be broken off by what the code of the plugin raises: by a failure to load that asks the
process to end, and by any failure to look up the attribute.

An attribute that is found is used, and more can keep it from being a platform: the call fails, or
what comes of it is no registry, or it cannot even be told whether it is one. A plugin that does not
become a platform gives way, and it is reported why, unless what was raised passes on.

## Main definitions

- `Plugin.Loads`, `Plugin.Imports` — a module loads inside the packages around it
- `Plugin.Names` — the two parts of a reference
- `Plugin.Finds` — the attribute that a reference leads to
- `Plugin.Unavailable` — the reason why it leads to none
- `Plugin.BreaksOff` — what the code of the plugin raises in the search
- `Plugin.Supplies`, `Plugin.Refused`, `Plugin.Escapes` — what using a reference comes to

## Main statements

- `loadIn_eq_ok_iff`, `load_eq_ok_iff` — the modules that load
- `find_eq_ok_iff`, `find_eq_reference_iff`, `find_eq_escaped_iff` — what a search for an attribute
  ends with
- `ofPlugin_eq_registry_iff`, `ofPlugin_eq_reported_iff`, `ofPlugin_eq_escaped_iff` — what a search
  for a platform ends with
-/

namespace MediaTypes

namespace Plugin

/-- A module loads inside the given packages, from the innermost. -/
inductive Loads (modules : Modules) : String → List String → Contents → Prop where
  /-- The module was loaded before, whatever has become of the packages. -/
  | before {name : String} {packages : List String} {contents : Contents}
      (h : modules.lookup name = some (.loaded contents)) : Loads modules name packages contents
  | outermost {name : String} {contents : Contents}
      (h : modules.lookup name = some (.importable (.ok contents))) : Loads modules name [] contents
  /-- The package around the module loads and has a path. -/
  | inside {name package : String} {outer : List String} {around contents : Contents}
      {path : Attribute} (hpackage : Loads modules package outer around)
      (hpath : attribute? around "__path__" = .ok (some path))
      (h : modules.lookup name = some (.importable (.ok contents))) :
      Loads modules name (package :: outer) contents

/-- The module of that name loads. Its name is not relative. -/
structure Imports (modules : Modules) (name : String) (contents : Contents) : Prop where
  absolute : name.toList.head? ≠ some '.'
  loads : Loads modules name (packages name) contents

/-- A reference is the name of a module, a colon, and the name of an attribute. The colon is the
first one of the reference, and neither name is empty. -/
structure Names (reference moduleName name : String) : Prop where
  parts : reference = moduleName ++ ":" ++ name
  first : ':' ∉ moduleName.toList
  module_given : moduleName ≠ ""
  name_given : name ≠ ""

/-- The reference leads to an attribute of a module that loads. -/
inductive Finds (modules : Modules) (reference : String) (found : Attribute) : Prop where
  | intro {moduleName name : String} {contents : Contents}
      (names : Names reference moduleName name) (imports : Imports modules moduleName contents)
      (defines : attribute? contents name = .ok (some found))

/-- Why a reference, which may itself be missing, leads to no attribute. -/
inductive Unavailable (modules : Modules) : Option String → ReferenceError → Prop where
  /-- The reference does not have two parts. -/
  | malformed {reference : Option String}
      (h : ∀ moduleName name, ¬ Names (reference.getD "") moduleName name) :
      Unavailable modules reference (.malformed reference)
  /-- The module does not load. -/
  | notLoaded {reference moduleName name : String} {failure : LoadFailure}
      (names : Names reference moduleName name)
      (fails : load modules moduleName = .error failure) (stays : failure.exit? = none) :
      Unavailable modules (some reference) (.notLoaded moduleName reference failure)
  /-- The module has no such attribute. -/
  | missingAttribute {reference moduleName name : String} {contents : Contents}
      (names : Names reference moduleName name) (imports : Imports modules moduleName contents)
      (absent : attribute? contents name = .ok none) :
      Unavailable modules (some reference) (.missingAttribute moduleName name reference)

/-- What the code of the plugin raises breaks the search off. -/
inductive BreaksOff (modules : Modules) (reference : String) (raised : Raised) : Prop where
  /-- Loading the module asks the process to end. -/
  | loading {moduleName name : String} (names : Names reference moduleName name)
      (fails : load modules moduleName = .error (.raised raised)) (exits : raised.exits = true)
  /-- Looking up the attribute fails, in whatever way. -/
  | lookup {moduleName name : String} {contents : Contents}
      (names : Names reference moduleName name) (imports : Imports modules moduleName contents)
      (fails : attribute? contents name = .error raised)

/-- What using an attribute gives: the outcome of the call, if it can be called, and otherwise the
attribute itself. -/
inductive Attribute.Gives (a : Attribute) : Except Raised Provided → Prop where
  | called {outcome : Except Raised Provided} (h : a.call? = some outcome) : Gives a outcome
  | uncalled (h : a.call? = none) : Gives a (.ok a.self)

/-- The reference leads to an attribute that a registry comes of. -/
inductive Supplies (modules : Modules) (reference : String) (registry : Registry) : Prop where
  | intro {found : Attribute} (finds : Finds modules reference found)
      (gives : found.Gives (.ok (.registry registry)))

/-- What is reported of a reference that no registry comes of. -/
inductive Refused (modules : Modules) (reference : String) : Log.Event → Prop where
  /-- The reference leads to no attribute. -/
  | unavailable {error : ReferenceError} (h : Unavailable modules (some reference) error) :
      Refused modules reference (.registryNotLoaded reference error.message)
  /-- Looking up the attribute fails. -/
  | breaksOff {raised : Raised} (h : BreaksOff modules reference raised)
      (stays : raised.exits = false) :
      Refused modules reference (.registryNotLoaded reference raised.message)
  /-- The call fails. -/
  | call {found : Attribute} {raised : Raised} (finds : Finds modules reference found)
      (gives : found.Gives (.error raised)) (stays : raised.exits = false) :
      Refused modules reference (.registryNotLoaded reference raised.message)
  /-- What comes of the attribute is no registry. -/
  | noRegistry {found : Attribute} (finds : Finds modules reference found)
      (gives : found.Gives (.ok .other)) :
      Refused modules reference (.notARegistry reference)

/-- What is raised and passes on. -/
inductive Escapes (modules : Modules) (reference : String) (raised : Raised) : Prop where
  | breaksOff (h : BreaksOff modules reference raised) (exits : raised.exits = true)
  | call {found : Attribute} (finds : Finds modules reference found)
      (gives : found.Gives (.error raised)) (exits : raised.exits = true)
  /-- The check whether a registry has come of the attribute fails, in whatever way. -/
  | check {found : Attribute} (finds : Finds modules reference found)
      (gives : found.Gives (.ok (.guarded raised)))

variable {modules : Modules}

theorem isPackage_eq_true_iff {contents : Contents} :
    isPackage contents = .ok true ↔ ∃ path, attribute? contents "__path__" = .ok (some path) := by
  rw [isPackage]
  rcases attribute? contents "__path__" with raised | _ | path <;> simp [Except.map]

/-- A module that was not loaded before loads alone if it can be found and does not fail. -/
theorem loadAlone_eq_ok_iff {name : String} {contents : Contents}
    (h : ∀ before, modules.lookup name ≠ some (.loaded before)) :
    loadAlone modules name = .ok contents ↔
      modules.lookup name = some (.importable (.ok contents)) := by
  rw [loadAlone]
  rcases hlookup : modules.lookup name with _ | before | raised | contents'
  · simp
  · exact absurd hlookup (h before)
  · constructor <;> rintro ⟨⟩
  · constructor <;> rintro ⟨⟩ <;> rfl

/-- A module loads if it was loaded before, or if all packages around it load and have a path, and
it does not fail itself. -/
theorem loadIn_eq_ok_iff {name : String} {packages : List String} {contents : Contents} :
    loadIn modules name packages = .ok contents ↔ Loads modules name packages contents := by
  induction packages generalizing name contents with
  | nil =>
    rw [loadIn, loadAlone]
    constructor
    · intro h
      split at h
      next before hlookup =>
        obtain rfl := Except.ok.inj h
        exact .before hlookup
      next outcome hlookup =>
        cases outcome with
        | error raised => cases h
        | ok contents' =>
          obtain rfl := Except.ok.inj h
          exact .outermost hlookup
      next => cases h
    · rintro (hlookup | hlookup)
      · rw [hlookup]
      · rw [hlookup]
        rfl
  | cons package outer ih =>
    rw [loadIn]
    split
    next before hlookup =>
      constructor
      · intro h
        obtain rfl := Except.ok.inj h
        exact .before hlookup
      · rintro (hbefore | _ | ⟨_, _, himport⟩)
        · obtain rfl := Module.loaded.inj (Option.some.inj (hlookup.symm.trans hbefore))
          rfl
        · exact nomatch hlookup.symm.trans himport
    next hlookup =>
      constructor
      · intro h
        split at h
        next => cases h
        next around haround =>
          split at h
          next => cases h
          next => cases h
          next hpath =>
            obtain ⟨path, hpath⟩ := isPackage_eq_true_iff.1 hpath
            exact .inside (ih.1 haround) hpath ((loadAlone_eq_ok_iff hlookup).1 h)
      · rintro (hbefore | _ | ⟨hpackage, hpath, himport⟩)
        · exact absurd hbefore (hlookup _)
        · rw [ih.2 hpackage]
          simp only [isPackage_eq_true_iff.2 ⟨_, hpath⟩]
          exact (loadAlone_eq_ok_iff hlookup).2 himport

theorem load_eq_ok_iff {name : String} {contents : Contents} :
    load modules name = .ok contents ↔ Imports modules name contents := by
  rw [load]
  split
  next hrelative =>
    constructor
    · rintro ⟨⟩
    · intro h
      exact absurd hrelative h.absolute
  next habsolute =>
    rw [loadIn_eq_ok_iff]
    exact ⟨fun loads => ⟨habsolute, loads⟩, fun h => h.loads⟩

theorem names_iff {reference moduleName name : String} :
    Names reference moduleName name ↔
      Text.cut ':' reference = (moduleName, some name) ∧ moduleName ≠ "" ∧ name ≠ "" := by
  rw [Text.cut_eq_some_iff]
  constructor
  · rintro ⟨parts, first, module_given, name_given⟩
    exact ⟨⟨parts, first⟩, module_given, name_given⟩
  · rintro ⟨⟨parts, first⟩, module_given, name_given⟩
    exact ⟨parts, first, module_given, name_given⟩

theorem not_names_empty {moduleName name : String} : ¬ Names "" moduleName name := by
  intro h
  have hmem : ':' ∈ "".toList := by
    rw [h.parts]
    simp
  exact absurd hmem (by decide)

theorem find_of_malformed {reference : Option String}
    (h : ∀ moduleName name, ¬ Names (reference.getD "") moduleName name) :
    find modules reference = .error (.reference (.malformed reference)) := by
  rcases hcut : Text.cut ':' (reference.getD "") with ⟨moduleName, _ | name⟩
  · simp only [find, hcut]
  · have hempty : moduleName = "" ∨ name = "" := by
      rcases Decidable.em (moduleName = "" ∨ name = "") with hempty | hgiven
      · exact hempty
      · exact absurd (names_iff.2 ⟨hcut, not_or.1 hgiven⟩) (h moduleName name)
    simp only [find, hcut, if_pos hempty]

theorem find_of_names {reference moduleName name : String}
    (names : Names reference moduleName name) :
    find modules (some reference) = findIn modules reference moduleName name := by
  obtain ⟨hcut, hgiven⟩ := names_iff.1 names
  simp only [find, Option.getD_some, hcut, if_neg (not_or.2 hgiven)]

/-- What a search comes to. -/
inductive Searched (modules : Modules) : Option String → Except FindError Attribute → Prop where
  | found {reference : String} {found : Attribute} (h : Finds modules reference found) :
      Searched modules (some reference) (.ok found)
  | unavailable {reference : Option String} {error : ReferenceError}
      (h : Unavailable modules reference error) :
      Searched modules reference (.error (.reference error))
  | brokenOff {reference : String} {raised : Raised} (h : BreaksOff modules reference raised) :
      Searched modules (some reference) (.error (.escaped raised))

theorem exit?_eq_some_iff {failure : LoadFailure} {raised : Raised} :
    failure.exit? = some raised ↔ failure = .raised raised ∧ raised.exits = true := by
  cases failure with
  | raised raised' =>
    simp only [LoadFailure.exit?, Option.ite_none_right_eq_some, Option.some.injEq,
      LoadFailure.raised.injEq]
    constructor
    · rintro ⟨hexits, rfl⟩
      exact ⟨rfl, hexits⟩
    · rintro ⟨rfl, hexits⟩
      exact ⟨hexits, rfl⟩
  | _ => simp [LoadFailure.exit?]

theorem searched_find (modules : Modules) (reference : Option String) :
    Searched modules reference (find modules reference) := by
  by_cases h : ∃ moduleName name, Names (reference.getD "") moduleName name
  · obtain ⟨moduleName, name, names⟩ := h
    cases reference with
    | none => exact absurd names not_names_empty
    | some reference =>
      rw [Option.getD_some] at names
      rw [find_of_names names, findIn]
      cases loads : load modules moduleName with
      | error failure =>
        simp only [loadError]
        cases hexit : failure.exit? with
        | none => exact .unavailable (.notLoaded names loads hexit)
        | some raised =>
          obtain ⟨rfl, exits⟩ := exit?_eq_some_iff.1 hexit
          exact .brokenOff (.loading names loads exits)
      | ok contents =>
        dsimp only
        rcases lookup : attribute? contents name with raised | _ | found
        · exact .brokenOff (.lookup names (load_eq_ok_iff.1 loads) lookup)
        · exact .unavailable (.missingAttribute names (load_eq_ok_iff.1 loads) lookup)
        · exact .found (.intro names (load_eq_ok_iff.1 loads) lookup)
  · have hmalformed : ∀ moduleName name, ¬ Names (reference.getD "") moduleName name :=
      fun moduleName name names => h ⟨moduleName, name, names⟩
    rw [find_of_malformed hmalformed]
    exact .unavailable (.malformed hmalformed)

/-- A search ends with what it comes to. -/
theorem find_eq_iff {reference : Option String} {outcome : Except FindError Attribute} :
    find modules reference = outcome ↔ Searched modules reference outcome := by
  constructor
  · rintro rfl
    exact searched_find modules reference
  · rintro (⟨names, imports, defines⟩ | h | h)
    · rw [find_of_names names, findIn, load_eq_ok_iff.2 imports]
      simp only [defines]
    · cases h with
      | malformed h => exact find_of_malformed h
      | notLoaded names fails stays =>
        rw [find_of_names names, findIn, fails]
        simp only [loadError, stays]
      | missingAttribute names imports absent =>
        rw [find_of_names names, findIn, load_eq_ok_iff.2 imports]
        simp only [absent]
    · cases h with
      | loading names fails exits =>
        rw [find_of_names names, findIn, fails]
        simp only [loadError, exit?_eq_some_iff.2 ⟨rfl, exits⟩]
      | lookup names imports fails =>
        rw [find_of_names names, findIn, load_eq_ok_iff.2 imports]
        simp only [fails]

/-- A search ends with the attribute that the reference leads to. -/
theorem find_eq_ok_iff {reference : String} {found : Attribute} :
    find modules (some reference) = .ok found ↔ Finds modules reference found := by
  rw [find_eq_iff]
  constructor
  · rintro ⟨h⟩
    exact h
  · exact .found

/-- A search that ends with an error of the reference ends with the reason why it leads to no
attribute. -/
theorem find_eq_reference_iff {reference : Option String} {error : ReferenceError} :
    find modules reference = .error (.reference error) ↔ Unavailable modules reference error := by
  rw [find_eq_iff]
  constructor
  · rintro (_ | h | _)
    exact h
  · exact .unavailable

/-- A search that ends in another way ends with what breaks it off. -/
theorem find_eq_escaped_iff {reference : Option String} {raised : Raised} :
    find modules reference = .error (.escaped raised) ↔
      ∃ text, reference = some text ∧ BreaksOff modules text raised := by
  rw [find_eq_iff]
  constructor
  · rintro (_ | _ | h)
    exact ⟨_, rfl, h⟩
  · rintro ⟨text, rfl, h⟩
    exact .brokenOff h

theorem Attribute.provide_eq_iff {a : Attribute} {outcome : Except Raised Provided} :
    a.provide = outcome ↔ a.Gives outcome := by
  constructor
  · rintro rfl
    rw [provide]
    split
    next h => exact .called h
    next h => exact .uncalled h
  · rintro (h | h)
    · rw [provide, h]
    · rw [provide, h]

end Plugin

namespace Platform

open Plugin (Finds BreaksOff Supplies Refused Escapes)

variable {modules : Plugin.Modules} {reference : String}

/-- What using a reference comes to. -/
inductive Used (modules : Plugin.Modules) (reference : String) : Use → Prop where
  | registry {registry : Registry} (h : Supplies modules reference registry) :
      Used modules reference (.registry registry)
  | reported {event : Log.Event} (h : Refused modules reference event) :
      Used modules reference (.reported event)
  | escaped {raised : Plugin.Raised} (h : Escapes modules reference raised) :
      Used modules reference (.escaped raised)

theorem useOfRaised_of_stays {raised : Plugin.Raised} (h : raised.exits = false) :
    useOfRaised reference raised = .reported (.registryNotLoaded reference raised.message) := by
  rw [useOfRaised, if_neg (Bool.not_eq_true _ ▸ h)]

theorem useOfRaised_of_exits {raised : Plugin.Raised} (h : raised.exits = true) :
    useOfRaised reference raised = .escaped raised :=
  if_pos h

/-- Using a plugin ends with what the use of its reference comes to. -/
theorem ofPlugin_of_used {used : Use} (h : Used modules reference used) :
    ofPlugin modules reference = used := by
  have hgives : ∀ {found outcome}, Finds modules reference found → found.Gives outcome →
      Plugin.find modules (some reference) = .ok found ∧ found.provide = outcome :=
    fun finds gives => ⟨Plugin.find_eq_ok_iff.2 finds, Plugin.Attribute.provide_eq_iff.2 gives⟩
  rcases h with ⟨finds, gives⟩ | h | h
  · simp only [ofPlugin, hgives finds gives]
  · cases h with
    | unavailable h => simp only [ofPlugin, Plugin.find_eq_reference_iff.2 h]
    | breaksOff h stays =>
      simp only [ofPlugin, Plugin.find_eq_escaped_iff.2 ⟨_, rfl, h⟩, useOfRaised_of_stays stays]
    | call finds gives stays =>
      simp only [ofPlugin, hgives finds gives, useOfRaised_of_stays stays]
    | noRegistry finds gives => simp only [ofPlugin, hgives finds gives]
  · cases h with
    | breaksOff h exits =>
      simp only [ofPlugin, Plugin.find_eq_escaped_iff.2 ⟨_, rfl, h⟩, useOfRaised_of_exits exits]
    | call finds gives exits =>
      simp only [ofPlugin, hgives finds gives, useOfRaised_of_exits exits]
    | check finds gives => simp only [ofPlugin, hgives finds gives]

/-- The use of every reference comes to one of the three. -/
theorem exists_used (modules : Plugin.Modules) (reference : String) :
    ∃ used, Used modules reference used := by
  rcases hfind : Plugin.find modules (some reference) with error | found
  · cases error with
    | reference error =>
      exact ⟨_, .reported (.unavailable (Plugin.find_eq_reference_iff.1 hfind))⟩
    | escaped raised =>
      obtain ⟨_, ⟨⟩, h⟩ := Plugin.find_eq_escaped_iff.1 hfind
      cases hexits : raised.exits with
      | false => exact ⟨_, .reported (.breaksOff h hexits)⟩
      | true => exact ⟨_, .escaped (.breaksOff h hexits)⟩
  · have finds := Plugin.find_eq_ok_iff.1 hfind
    rcases hprovide : found.provide with raised | provided
    · have gives := Plugin.Attribute.provide_eq_iff.1 hprovide
      cases hexits : raised.exits with
      | false => exact ⟨_, .reported (.call finds gives hexits)⟩
      | true => exact ⟨_, .escaped (.call finds gives hexits)⟩
    · have gives := Plugin.Attribute.provide_eq_iff.1 hprovide
      cases provided with
      | registry registry => exact ⟨_, .registry (.intro finds gives)⟩
      | other => exact ⟨_, .reported (.noRegistry finds gives)⟩
      | guarded raised => exact ⟨_, .escaped (.check finds gives)⟩

theorem ofPlugin_eq_iff {used : Use} :
    ofPlugin modules reference = used ↔ Used modules reference used := by
  refine ⟨?_, ofPlugin_of_used⟩
  rintro rfl
  obtain ⟨used, h⟩ := exists_used modules reference
  rwa [ofPlugin_of_used h]

theorem ofPlugin_eq_registry_iff {registry : Registry} :
    ofPlugin modules reference = .registry registry ↔ Supplies modules reference registry := by
  rw [ofPlugin_eq_iff]
  constructor
  · rintro ⟨h⟩
    exact h
  · exact .registry

theorem ofPlugin_eq_reported_iff {event : Log.Event} :
    ofPlugin modules reference = .reported event ↔ Refused modules reference event := by
  rw [ofPlugin_eq_iff]
  constructor
  · rintro (_ | h | _)
    exact h
  · exact .reported

theorem ofPlugin_eq_escaped_iff {raised : Plugin.Raised} :
    ofPlugin modules reference = .escaped raised ↔ Escapes modules reference raised := by
  rw [ofPlugin_eq_iff]
  constructor
  · rintro (_ | _ | h)
    exact h
  · exact .escaped

end Platform

end MediaTypes
