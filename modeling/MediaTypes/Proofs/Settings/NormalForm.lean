import MediaTypes.Proofs.Settings.Padding
import MediaTypes.Proofs.Text.Digit

/-!
# The normal form of settings

Loaded settings are in a normal form: the name of the platform is trimmed, and folded if it is that
of a built-in platform, and the level is a natural number whose numeral is not too long to be read.
An environment that gives such settings as they stand, the level in ASCII digits, is loaded to just
these settings, unless the name of the platform is empty.

## Main definitions

- `Settings.Normal` — the normal form
- `Settings.GivenBy` — an environment gives the settings as they stand
- `Settings.render` — such an environment

## Main statements

- `normal_of_load`, `exists_load_iff_normal` — the settings that some environment gives
- `load_of_givenBy`, `load_render_iff` — the settings that are loaded as they stand
- `settings_own_normal_form` — loading what was loaded gives the same settings
-/

namespace MediaTypes

namespace Settings

open Text (trim trimChars Trimmed)

/-- The form of a name of a platform that has been read. -/
structure NormalName (name : String) : Prop where
  trimmed : Trimmed name.toList
  folded : foldBuiltin name = name

/-- A natural number that is not written with more digits than are read. -/
def ReadableLevel (level : Int) : Prop :=
  ∃ n : Nat, level = n ∧ (Nat.toDigits 10 n).length ≤ Text.maxDigits

/-- The form of settings that have been loaded. -/
structure Normal (s : Settings) : Prop where
  platform : NormalName s.platform
  logLevel : ∀ level ∈ s.logLevel, ReadableLevel level

/-- The environment gives the settings as they stand. -/
structure GivenBy (s : Settings) (env : Environment) : Prop where
  platform : env.get? platformVariable = some s.platform
  /-- The level is written in ASCII digits; the variable is unset if there is none. -/
  logLevel : env.get? levelVariable = s.logLevel.map toString
  jsonLogs : env.get? jsonVariable = some "1" ↔ s.jsonLogs = true

/-- An environment that gives the settings as they stand. -/
def render (s : Settings) : Environment :=
  let named := Dictionary.empty.insert platformVariable s.platform
  let levelled := match s.logLevel with
    | none => named
    | some level => named.insert levelVariable (toString level)
  if s.jsonLogs then levelled.insert jsonVariable "1" else levelled

theorem givenBy_render (s : Settings) : s.GivenBy s.render := by
  -- no variable is inserted in the place of another
  have hlevel : levelVariable ≠ platformVariable := by decide
  have hjson : jsonVariable ≠ platformVariable := by decide
  have hjson' : jsonVariable ≠ levelVariable := by decide
  obtain ⟨platform, logLevel, jsonLogs⟩ := s
  constructor
  all_goals
    cases logLevel <;> cases jsonLogs <;>
      simp [render, Dictionary.get?_insert, hlevel, hlevel.symm, hjson, hjson.symm, hjson',
        hjson'.symm]

section Platform

theorem normalName_system : NormalName systemPlatform where
  trimmed := Text.trimmed_of_any_eq_false (by decide +kernel)
  folded := by decide +kernel

theorem normalName_none : NormalName noPlatform where
  trimmed := Text.trimmed_of_any_eq_false (by decide +kernel)
  folded := by decide +kernel

theorem normalName_foldBuiltin {name : String} (h : Trimmed name.toList) :
    NormalName (foldBuiltin name) := by
  by_cases hbuiltin : Text.lowerAscii name = systemPlatform ∨ Text.lowerAscii name = noPlatform
  · rw [foldBuiltin, if_pos hbuiltin]
    cases hbuiltin with
    | inl hsystem =>
      rw [hsystem]
      exact normalName_system
    | inr hnone =>
      rw [hnone]
      exact normalName_none
  · have hkept : foldBuiltin name = name := if_neg hbuiltin
    rw [hkept]
    exact ⟨h, hkept⟩

theorem normalName_readPlatform (setting : Option String) : NormalName (readPlatform setting) := by
  by_cases hempty : setting.getD "" = ""
  · rw [readPlatform_of_empty hempty]
    exact normalName_system
  · rw [readPlatform_of_ne_empty hempty]
    apply normalName_foldBuiltin
    rw [Text.toList_trim]
    exact Text.trimmed_trimChars _

theorem readPlatform_of_normalName {name : String} (h : NormalName name) (hne : name ≠ "") :
    readPlatform (some name) = name := by
  have hgiven : (some name).getD "" ≠ "" := hne
  have htrim : trim name = name := by
    rw [trim, Text.trimChars_of_trimmed h.trimmed, String.ofList_toList]
  rw [readPlatform_of_ne_empty hgiven, Option.getD_some, htrim, h.folded]

end Platform

section Level

theorem readableLevel_of_levelOfName? {name : String} {level : Int}
    (h : Log.levelOfName? name = some level) : ReadableLevel level := by
  have hlisted : ∀ entry ∈ Log.readableLevels,
      0 ≤ entry.2 ∧ (Nat.toDigits 10 entry.2.toNat).length ≤ Text.maxDigits := by decide
  obtain ⟨before, after, hcut, -⟩ := List.lookup_eq_some_iff.1 h
  have hmem : (String.ofList (name.toList.map Log.capital), level) ∈ Log.readableLevels := by
    rw [hcut]
    exact List.mem_append_right before List.mem_cons_self
  obtain ⟨hnonneg, hlength⟩ := hlisted _ hmem
  exact ⟨level.toNat, (Int.toNat_of_nonneg hnonneg).symm, hlength⟩

theorem readableLevel_of_readNumeral {digits : List Char} (hne : digits ≠ []) {level : Int}
    (h : readNumeral digits = .ok level) : ReadableLevel level := by
  simp only [readNumeral] at h
  split at h
  · cases h
  · split at h
    · cases h
    · rename_i hlimit hdecimal
      refine ⟨Text.decimalNumeral digits, (Except.ok.inj h).symm, ?_⟩
      have hlength := Text.length_toDigits_decimalNumeral_le hne
      omega

theorem readableLevel_of_readLevel {setting : Option String} {level : Int}
    (h : readLevel setting = .ok (some level)) : ReadableLevel level := by
  simp only [readLevel] at h
  split at h
  · cases h
  · rename_i hne
    rw [List.isEmpty_iff] at hne
    split at h
    · cases hnumeral : readNumeral (trimChars (setting.getD "").toList) with
      | error fault =>
        rw [hnumeral] at h
        cases h
      | ok n =>
        rw [hnumeral] at h
        obtain rfl : n = level := Option.some.inj (Except.ok.inj h)
        exact readableLevel_of_readNumeral hne hnumeral
    · split at h
      · rename_i hname
        obtain rfl := Option.some.inj (Except.ok.inj h)
        exact readableLevel_of_levelOfName? hname
      · cases h

/-- What is written for a number is read as that number if it is not too long. -/
theorem readNumeral_toDigits {n : Nat} (h : (Nat.toDigits 10 n).length ≤ Text.maxDigits) :
    readNumeral (Nat.toDigits 10 n) = .ok (n : Int) := by
  have hdecimal : (Nat.toDigits 10 n).takeWhile Text.isDecimalDigit = Nat.toDigits 10 n :=
    List.takeWhile_eq_self_iff.2 fun c hc => Text.isDecimalDigit_of_mem_toDigits hc
  simp only [readNumeral, hdecimal, if_neg (Nat.not_lt.2 h), if_neg (Nat.lt_irrefl _),
    Text.decimalNumeral_toDigits]

theorem readLevel_of_readableLevel {level : Int} (h : ReadableLevel level) :
    readLevel (some (toString level)) = .ok (some level) := by
  obtain ⟨n, rfl, hlength⟩ := h
  have hchars : (toString (n : Int)).toList = Nat.toDigits 10 n := by
    have hnat : toString (n : Int) = toString n := rfl
    rw [hnat, Nat.toString_eq_repr, Nat.toList_repr]
  have htrim : trimChars (Nat.toDigits 10 n) = Nat.toDigits 10 n :=
    Text.trimChars_of_trimmed (Text.trimmed_toDigits n)
  have hempty : ¬ (Nat.toDigits 10 n).isEmpty = true := fun h =>
    Nat.toDigits_ne_nil (List.isEmpty_iff.1 h)
  have hdigits : (Nat.toDigits 10 n).all Text.isDigit = true := by
    rw [List.all_eq_true]
    intro c hc
    rw [Text.isDigit, Text.isDecimalDigit_of_mem_toDigits hc, Bool.true_or]
  simp only [readLevel, Option.getD_some, hchars, htrim, if_neg hempty, if_pos hdigits,
    readNumeral_toDigits hlength]
  rfl

end Level

theorem normal_of_load {env : Environment} {s : Settings} (h : load env = .ok s) : s.Normal := by
  obtain ⟨hlevel, hplatform, -⟩ := load_eq_ok_iff.1 h
  constructor
  · rw [← hplatform]
    exact normalName_readPlatform _
  · intro level hsome
    rw [Option.mem_def.1 hsome] at hlevel
    exact readableLevel_of_readLevel hlevel

theorem readLevel_of_normal {s : Settings} (h : s.Normal) :
    readLevel (s.logLevel.map toString) = .ok s.logLevel := by
  cases hlevel : s.logLevel with
  | none => rfl
  | some level => exact readLevel_of_readableLevel (h.logLevel level hlevel)

theorem GivenBy.jsonLogs_eq {env : Environment} {s : Settings} (h : s.GivenBy env) :
    (env.get? jsonVariable == some "1") = s.jsonLogs := by
  apply Bool.eq_iff_iff.2
  rw [beq_iff_eq]
  exact h.jsonLogs

/-- Settings in the normal form are loaded as they stand. -/
theorem load_of_givenBy {env : Environment} {s : Settings} (h : s.Normal) (hne : s.platform ≠ "")
    (hgiven : s.GivenBy env) : load env = .ok s := by
  rw [load_eq_ok_iff, hgiven.platform, hgiven.logLevel]
  exact ⟨readLevel_of_normal h, readPlatform_of_normalName h.platform hne, hgiven.jsonLogs_eq⟩

/-- The empty name is not loaded as it stands: it means the system's platform. -/
theorem load_render_iff {s : Settings} : load s.render = .ok s ↔ s.Normal ∧ s.platform ≠ "" := by
  constructor
  · intro h
    refine ⟨normal_of_load h, fun hempty => ?_⟩
    have hplatform := (load_eq_ok_iff.1 h).2.1
    rw [(givenBy_render s).platform, hempty, readPlatform_of_empty rfl] at hplatform
    exact absurd hplatform (by decide)
  · rintro ⟨hnormal, hne⟩
    exact load_of_givenBy hnormal hne (givenBy_render s)

/-- The settings that some environment gives are those in the normal form. The empty name of a
platform is given by blanks. -/
theorem exists_load_iff_normal {s : Settings} : (∃ env, load env = .ok s) ↔ s.Normal := by
  constructor
  · rintro ⟨env, h⟩
    exact normal_of_load h
  · intro h
    by_cases hempty : s.platform = ""
    · have hgiven := givenBy_render s
      have hplatform : (s.render.get? platformVariable).getD "" = "" := by
        rw [hgiven.platform, Option.getD_some, hempty]
      have hsystem : load s.render = .ok { s with platform := systemPlatform } := by
        rw [load_eq_ok_iff, readPlatform_of_empty hplatform, hgiven.logLevel]
        exact ⟨readLevel_of_normal h, rfl, hgiven.jsonLogs_eq⟩
      refine ⟨s.render.pad platformVariable " " "", ?_⟩
      rw [load_blankPlatform hplatform (by decide) (by decide), hsystem, ← hempty]
      rfl
    · exact ⟨s.render, load_render_iff.2 ⟨h, hempty⟩⟩

/-- **Loaded settings are their own normal form**: where the platform has a name, every environment
that gives the settings as they stand is loaded to the same settings, and there is one. -/
theorem settings_own_normal_form {env : Environment} {s : Settings} (h : load env = .ok s)
    (hne : s.platform ≠ "") :
    s.GivenBy s.render ∧ ∀ env', s.GivenBy env' → load env' = .ok s :=
  ⟨givenBy_render s, fun _ hgiven => load_of_givenBy (normal_of_load h) hne hgiven⟩

/-- A built-in platform with capitals, and a level in Arabic digits, both between blanks. -/
def spacedEnvironment : Environment :=
  Dictionary.ofList
    [("NETMIME_PLATFORM", " None "), ("NETMIME_LOG_LEVEL", "\t٣٠ "), ("NETMIME_JSON_LOGS", "1")]

theorem settings_own_normal_form_spaced :
    load spacedEnvironment = .ok ⟨"none", some 30, true⟩ ∧ "none" ≠ "" ∧
      load (render ⟨"none", some 30, true⟩) = .ok ⟨"none", some 30, true⟩ ∧
      (render ⟨"none", some 30, true⟩).get? levelVariable = some "30" := by
  have hload : load spacedEnvironment = .ok ⟨"none", some 30, true⟩ := by decide +kernel
  have hne : "none" ≠ "" := by decide
  obtain ⟨hgiven, hsame⟩ := settings_own_normal_form hload hne
  exact ⟨hload, hne, hsame _ hgiven, hgiven.logLevel⟩

end Settings

end MediaTypes
