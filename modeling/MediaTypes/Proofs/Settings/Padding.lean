import MediaTypes.Proofs.Text.Blank
import MediaTypes.Settings

/-!
# Blanks around settings

A level is trimmed before anything else is done with it, so blanks around it never matter. The name
of a platform is trimmed last: it is tested for being empty as it is given. Hence blanks around a
name are lost as well, but blanks alone stand for the empty name, and not, as the empty text does,
for the system's platform.

## Main definitions

- `SameOutcome` — two attempts give the same, or both fail
- `Environment.pad` — an environment with texts put around the value of a variable
- `Settings.foldBuiltin` — the names of the two built-in platforms in lower case
- `Settings.PaddingIgnored` — blanks around the value of a variable do not matter

## Main statements

- `readLevel_congr`, `readPlatform_congr` — what is left after trimming decides
- `load_blankPlatform` — blanks in place of an empty name
- `padding_ignored` — the environments in which blanks do not matter
-/

namespace MediaTypes

/-- Two attempts give the same, or both fail. -/
inductive SameOutcome {ε α : Type} : Except ε α → Except ε α → Prop where
  | success (a : α) : SameOutcome (.ok a) (.ok a)
  | failure (e e' : ε) : SameOutcome (.error e) (.error e')

namespace SameOutcome

variable {ε α β : Type} {x y : Except ε α}

theorem refl (x : Except ε α) : SameOutcome x x := by
  cases x with
  | error e => exact .failure e e
  | ok a => exact .success a

theorem map (f : α → β) (h : SameOutcome x y) : SameOutcome (x.map f) (y.map f) := by
  cases h with
  | success a => exact .success (f a)
  | failure e e' => exact .failure e e'

theorem eq_of_success {a b : α} (h : SameOutcome (.ok a : Except ε α) (.ok b)) : a = b := by
  cases h
  rfl

end SameOutcome

/-- Texts are put around the value of a variable. An unset variable has the empty value. -/
def Environment.pad (env : Environment) (name left right : String) : Environment :=
  env.insert name (left ++ (env.get? name).getD "" ++ right)

namespace Settings

open Text (AllBlank trim trimChars)

/-- Blanks around the value of the variable do not matter. -/
def PaddingIgnored (env : Environment) (name : String) : Prop :=
  ∀ left right : String, AllBlank left.toList → AllBlank right.toList →
    SameOutcome (load env) (load (env.pad name left right))

theorem get?_pad_self (env : Environment) (name left right : String) :
    (env.pad name left right).get? name = some (left ++ (env.get? name).getD "" ++ right) := by
  rw [Environment.pad, Dictionary.get?_insert, if_pos rfl]

theorem get?_pad_of_ne (env : Environment) {name other : String} (h : name ≠ other)
    (left right : String) : (env.pad name left right).get? other = env.get? other := by
  rw [Environment.pad, Dictionary.get?_insert, if_neg h]

theorem trim_pad {left right : String} (hleft : AllBlank left.toList)
    (hright : AllBlank right.toList) (text : String) :
    trim (left ++ text ++ right) = trim text := by
  apply String.toList_inj.1
  rw [Text.toList_trim, Text.toList_trim, String.toList_append, String.toList_append]
  exact Text.trimChars_surround hleft hright text.toList

/-- What is left of a level after trimming decides. Only the error quotes it as it was given. -/
theorem readLevel_congr {setting setting' : Option String}
    (h : trim (setting.getD "") = trim (setting'.getD "")) :
    SameOutcome (readLevel setting) (readLevel setting') := by
  have hchars : trimChars (setting.getD "").toList = trimChars (setting'.getD "").toList := by
    rw [← Text.toList_trim, ← Text.toList_trim, h]
  simp only [readLevel, hchars]
  split
  · exact .refl _
  · split
    · exact .refl _
    · split
      · exact .refl _
      · exact .failure _ _

/-- Settings are loaded where the level can be read; the three variables are read on their own. -/
theorem load_eq_ok_iff {env : Environment} {settings : Settings} :
    load env = .ok settings ↔
      readLevel (env.get? levelVariable) = .ok settings.logLevel ∧
        readPlatform (env.get? platformVariable) = settings.platform ∧
        (env.get? jsonVariable == some "1") = settings.jsonLogs := by
  obtain ⟨platform, logLevel, jsonLogs⟩ := settings
  rw [load]
  cases readLevel (env.get? levelVariable) with
  | error fault => simp [Except.map]
  | ok level =>
    simp only [Except.map, Except.ok.injEq, Settings.mk.injEq]
    exact and_left_comm

theorem readPlatform_of_empty {setting : Option String} (h : setting.getD "" = "") :
    readPlatform setting = systemPlatform := by
  cases setting with
  | none => decide +kernel
  | some text =>
    obtain rfl : text = "" := h
    decide +kernel

/-- A name in lower case if it is that of a built-in platform, and else as it is. -/
def foldBuiltin (name : String) : String :=
  if Text.lowerAscii name = systemPlatform ∨ Text.lowerAscii name = noPlatform then
    Text.lowerAscii name
  else name

theorem readPlatform_of_ne_empty {setting : Option String} (h : setting.getD "" ≠ "") :
    readPlatform setting = foldBuiltin (trim (setting.getD "")) := by
  cases setting with
  | none => exact absurd rfl h
  | some text =>
    unfold readPlatform
    split
    next heq => exact absurd heq (Option.some_ne_none text)
    next heq => exact absurd (Option.some.inj heq) h
    next heq =>
      rw [← Option.some.inj heq]
      rfl

theorem readPlatform_congr {setting setting' : Option String} (h : setting.getD "" ≠ "")
    (h' : setting'.getD "" ≠ "") (htrim : trim (setting.getD "") = trim (setting'.getD "")) :
    readPlatform setting = readPlatform setting' := by
  rw [readPlatform_of_ne_empty h, readPlatform_of_ne_empty h', htrim]

/-- Blanks alone are the empty name. -/
theorem readPlatform_of_allBlank {text : String} (hne : text ≠ "") (h : AllBlank text.toList) :
    readPlatform (some text) = "" := by
  have htrim : trim text = "" := by
    rw [trim, Text.trimChars_of_allBlank h, String.ofList_nil]
  have hgiven : (some text).getD "" ≠ "" := hne
  rw [readPlatform_of_ne_empty hgiven, Option.getD_some, htrim]
  decide +kernel

theorem paddingIgnored_level (env : Environment) : PaddingIgnored env levelVariable := by
  intro left right hleft hright
  have hplatform : levelVariable ≠ platformVariable := by decide
  have hjson : levelVariable ≠ jsonVariable := by decide
  rw [load, load, get?_pad_self, get?_pad_of_ne env hplatform, get?_pad_of_ne env hjson]
  refine SameOutcome.map _ (readLevel_congr ?_)
  rw [Option.getD_some, trim_pad hleft hright]

/-- Padding the name of a platform changes what is read as that name, and nothing else. -/
theorem load_pad_platform (env : Environment) (left right : String) :
    load (env.pad platformVariable left right) =
      (load env).map fun settings =>
        { settings with
          platform :=
            readPlatform (some (left ++ (env.get? platformVariable).getD "" ++ right)) } := by
  have hlevel : platformVariable ≠ levelVariable := by decide
  have hjson : platformVariable ≠ jsonVariable := by decide
  rw [load, load, get?_pad_self, get?_pad_of_ne env hlevel, get?_pad_of_ne env hjson]
  cases readLevel (env.get? levelVariable) <;> rfl

theorem paddingIgnored_platform {env : Environment}
    (h : (env.get? platformVariable).getD "" ≠ "") : PaddingIgnored env platformVariable := by
  intro left right hleft hright
  have hpadded : left ++ (env.get? platformVariable).getD "" ++ right ≠ "" := by
    intro hempty
    simp only [String.append_eq_empty_iff] at hempty
    exact h hempty.1.2
  have hsame : readPlatform (some (left ++ (env.get? platformVariable).getD "" ++ right)) =
      readPlatform (env.get? platformVariable) :=
    readPlatform_congr hpadded h (trim_pad hleft hright _)
  rw [load_pad_platform, hsame, load]
  cases readLevel (env.get? levelVariable) with
  | error fault => exact .failure fault fault
  | ok level => exact .success _

/-- Blanks in place of an empty name give the empty name, where there are settings at all. -/
theorem load_blankPlatform {env : Environment} (h : (env.get? platformVariable).getD "" = "")
    {blanks : String} (hne : blanks ≠ "") (hblanks : AllBlank blanks.toList) :
    load (env.pad platformVariable blanks "") =
      (load env).map fun settings => { settings with platform := "" } := by
  rw [load_pad_platform, h, String.append_empty, String.append_empty,
    readPlatform_of_allBlank hne hblanks]

/-- **Blanks around settings.** Blanks around a level never matter. Blanks around the name of a
platform matter exactly where the name is unset or empty and the settings can be loaded. -/
theorem padding_ignored (env : Environment) :
    PaddingIgnored env levelVariable ∧
      (PaddingIgnored env platformVariable ↔
        (env.get? platformVariable).getD "" ≠ "" ∨ ∃ fault, load env = .error fault) := by
  refine ⟨paddingIgnored_level env, ?_, ?_⟩
  · intro h
    by_cases hempty : (env.get? platformVariable).getD "" = ""
    · refine .inr ?_
      have hsame := h " " "" (by decide) (by decide)
      rw [load_blankPlatform hempty (by decide) (by decide)] at hsame
      cases hload : load env with
      | error fault => exact ⟨fault, rfl⟩
      | ok settings =>
        -- the same settings would have both the system's platform and the empty one
        rw [hload] at hsame
        have hblank : settings.platform = "" := congrArg platform hsame.eq_of_success
        rw [← (load_eq_ok_iff.1 hload).2.1, readPlatform_of_empty hempty] at hblank
        exact absurd hblank (by decide)
    · exact .inl hempty
  · rintro (hname | ⟨fault, hfault⟩)
    · exact paddingIgnored_platform hname
    · intro left right _ _
      rw [load_pad_platform, hfault]
      exact .failure fault fault

/-- Blanks matter where no platform is named. -/
theorem not_padding_ignored_unset :
    ¬ ∀ env, PaddingIgnored env platformVariable ∧ PaddingIgnored env levelVariable := by
  intro h
  have hsame := (h Dictionary.empty).1 " " "" (by decide) (by decide)
  rw [load_blankPlatform rfl (by decide) (by decide)] at hsame
  have hload : load Dictionary.empty = .ok ⟨"system", none, false⟩ := by decide +kernel
  rw [hload] at hsame
  have hblank : "system" = "" := congrArg platform hsame.eq_of_success
  exact absurd hblank (by decide)

end Settings

end MediaTypes
