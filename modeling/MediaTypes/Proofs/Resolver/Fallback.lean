import MediaTypes.Proofs.Resolver.Precedence
import MediaTypes.Proofs.Text.Lowercase

/-!
# What the tables prefer

Where the platform prefers no extension for a type, the tables do: the first extension of the first
mapping of the type, primary before secondary. The type that is looked for is folded, while the
types of the mappings are taken as they are written. So a mapping whose type has capitals is passed
over, also where the very same type is looked for. This shows unless a mapping of the folded type
makes up for it.

## Main definitions

- `Tables.First`, `Tables.Prefers` — the first mapping of a kind, and its first extension
- `Resolver.FallbackCompares` — how types are compared where the platform prefers nothing

## Main statements

- `preferredExtension_of_answer` — the course of the lookup
- `preferredExtension_fallback` — how types are compared, and the tables on which this is the same
  as comparing up to case
- `fallbackCompares_standard`, `not_fallbackCompares_capital` — the standard tables are of that
  kind, but not all tables
-/

namespace MediaTypes

namespace Tables

/-- The mapping is the first one, primary before secondary, whose type is named. -/
def First (t : Tables) (named : String → Prop) (m : Mapping) : Prop :=
  named m.mediaType ∧ ∃ before after, t.primary ++ t.secondary = before ++ m :: after ∧
    ∀ earlier ∈ before, ¬ named earlier.mediaType

/-- The extension that the tables prefer for the types that are named. -/
inductive Prefers (t : Tables) (named : String → Prop) : Option String → Prop where
  | first {m : Mapping} (h : t.First named m) : Prefers t named (some m.firstExtension)
  | nothing (h : ∀ m ∈ t.primary ++ t.secondary, ¬ named m.mediaType) : Prefers t named none

variable {t : Tables} {named : String → Prop}

theorem first_iff_find? [DecidablePred named] {m : Mapping} :
    t.First named m ↔
      (t.primary ++ t.secondary).find? (fun m => decide (named m.mediaType)) = some m := by
  simp only [First, List.find?_eq_some_iff_append, decide_eq_true_eq, Bool.not_eq_true',
    decide_eq_false_iff_not]

/-- There is one preference. -/
theorem prefers_iff_find? [DecidablePred named] {answer : Option String} :
    t.Prefers named answer ↔
      ((t.primary ++ t.secondary).find? fun m => decide (named m.mediaType)).map
        (·.firstExtension) = answer := by
  constructor
  · rintro (h | h)
    · rw [first_iff_find?.1 h, Option.map_some]
    · rw [Option.map_eq_none_iff, List.find?_eq_none]
      simpa only [decide_eq_true_eq] using h
  · rintro rfl
    cases hfind : (t.primary ++ t.secondary).find? fun m => decide (named m.mediaType) with
    | none =>
      rw [List.find?_eq_none] at hfind
      exact .nothing (by simpa only [decide_eq_true_eq] using hfind)
    | some m => exact .first (first_iff_find?.2 hfind)

theorem exists_prefers (t : Tables) (named : String → Prop) :
    ∃ answer, t.Prefers named answer := by
  classical
  exact ⟨_, prefers_iff_find?.2 rfl⟩

/-- Two ways of naming types that have one preference in common have all in common, since there is
no other. -/
theorem Prefers.iff_of_common {named' : String → Prop} {common answer : Option String}
    (h : t.Prefers named common) (h' : t.Prefers named' common) :
    t.Prefers named answer ↔ t.Prefers named' answer := by
  classical
  rw [prefers_iff_find?] at h h' ⊢
  rw [prefers_iff_find?, h, h']

theorem First.mem {m : Mapping} (h : t.First named m) : m ∈ t.primary ++ t.secondary := by
  obtain ⟨-, before, after, hcut, -⟩ := h
  rw [hcut]
  exact List.mem_append_right before List.mem_cons_self

theorem prefers_some_iff {e : String} :
    t.Prefers named (some e) ↔ ∃ m, t.First named m ∧ m.firstExtension = e := by
  constructor
  · generalize hanswer : some e = answer
    rintro (h | -)
    · exact ⟨_, h, (Option.some.inj hanswer).symm⟩
    · cases hanswer
  · rintro ⟨m, h, rfl⟩
    exact .first h

theorem prefers_none_iff :
    t.Prefers named none ↔ ∀ m ∈ t.primary ++ t.secondary, ¬ named m.mediaType := by
  constructor
  · generalize hanswer : none = answer
    rintro (- | h)
    · cases hanswer
    · exact h
  · exact .nothing

/-- The types of the standard tables are in lower case. -/
theorem lower_of_mem_standard :
    ∀ m ∈ standard.primary ++ standard.secondary, Text.lower m.mediaType = m.mediaType := by
  simp only [standard, standardPrimary, standardSecondary, List.cons_append, List.nil_append,
    List.forall_mem_cons]
  and_intros
  all_goals first | exact Text.lower_ofList rfl | exact List.forall_mem_nil _

end Tables

namespace Resolver

open Text (EqFold lowerAscii)

theorem preferredExtension_of_answer {r : Resolver} {mediaType given : Option String}
    (h : r.platform.registry.preferredOf mediaType = .ok given) :
    r.preferredExtension mediaType =
      ⟨.ok ((nonEmpty? given).or (tablePreferred r.tables (mediaType.getD ""))),
        [.preferredOf mediaType], []⟩ := by
  have hanswer : (r.platform.registry.askPreferred mediaType).answer = .ok given := h
  rw [preferredExtension, Lookup.bind_eq, Lookup.andThen_of_ok hanswer]
  cases nonEmpty? given with
  | some found => rfl
  | none => rfl

/-- The tables prefer for the folded type. -/
theorem tablePreferred_eq_iff {t : Tables} {mediaType : String} {answer : Option String} :
    tablePreferred t mediaType = answer ↔ t.Prefers (· = lowerAscii mediaType) answer := by
  rw [Tables.prefers_iff_find?]
  rfl

/-- The platform prefers no extension for the type, or the empty one. -/
def NoPreference (platform : Platform) (mediaType : Option String) : Prop :=
  ∃ given, platform.registry.preferredOf mediaType = .ok given ∧ nonEmpty? given = none

/-- Where the platform prefers nothing, the type that is looked for is compared with those of the
mappings in this way. -/
def FallbackCompares (t : Tables) (same : String → String → Prop) : Prop :=
  ∀ platform mediaType, NoPreference platform mediaType → ∀ answer,
    ((Resolver.mk t platform).preferredExtension mediaType).answer = .ok answer ↔
      t.Prefers (same (mediaType.getD "")) answer

/-- The platform has no part in it. -/
theorem fallbackCompares_iff {t : Tables} {same : String → String → Prop} :
    FallbackCompares t same ↔ ∀ mediaType answer,
      tablePreferred t mediaType = answer ↔ t.Prefers (same mediaType) answer := by
  have hanswer : ∀ platform mediaType, NoPreference platform mediaType → ∀ answer,
      ((Resolver.mk t platform).preferredExtension mediaType).answer = .ok answer ↔
        tablePreferred t (mediaType.getD "") = answer := by
    rintro platform mediaType ⟨given, hgiven, hnone⟩ answer
    have hcourse := preferredExtension_of_answer (r := ⟨t, platform⟩) hgiven
    rw [hnone, Option.none_or] at hcourse
    rw [hcourse, Except.ok.injEq]
  constructor
  · intro h mediaType answer
    have hsilent : NoPreference .silent (some mediaType) := ⟨none, rfl, rfl⟩
    exact (hanswer _ _ hsilent answer).symm.trans (h _ _ hsilent answer)
  · intro h platform mediaType hnone answer
    exact (hanswer platform mediaType hnone answer).trans (h _ answer)

theorem fallbackCompares_folded (t : Tables) :
    FallbackCompares t fun wanted listed => listed = lowerAscii wanted :=
  fallbackCompares_iff.2 fun _ _ => tablePreferred_eq_iff

/-- The first mapping of a type up to case is made up for by the first mapping of the folded type,
if it is not that mapping itself. -/
def FirstsMadeUpFor (t : Tables) : Prop :=
  ∀ m, t.First (EqFold · m.mediaType) m →
    ∃ m', t.First (· = lowerAscii m.mediaType) m' ∧ m'.firstExtension = m.firstExtension

/-- On such tables, and on no others, types are compared up to case. -/
theorem fallbackCompares_eqFold_iff {t : Tables} :
    FallbackCompares t (fun wanted listed => EqFold listed wanted) ↔ FirstsMadeUpFor t := by
  rw [fallbackCompares_iff]
  constructor
  · intro h m hm
    have hpreferred : tablePreferred t m.mediaType = some m.firstExtension :=
      (h m.mediaType _).2 (.first hm)
    exact Tables.prefers_some_iff.1 (tablePreferred_eq_iff.1 hpreferred)
  · intro h wanted answer
    rw [tablePreferred_eq_iff]
    obtain ⟨preferred, hprefers⟩ := t.exists_prefers (EqFold · wanted)
    suffices hfolded : t.Prefers (· = lowerAscii wanted) preferred from
      hfolded.iff_of_common hprefers
    cases hprefers with
    | nothing hnone =>
      refine .nothing fun m hm hlisted => hnone m hm ?_
      rw [hlisted]
      exact Text.lowerAscii_lowerAscii wanted
    | @first m hm =>
      have hfold : lowerAscii m.mediaType = lowerAscii wanted := hm.1
      have hself : t.First (EqFold · m.mediaType) m := by
        simpa only [EqFold, hfold] using hm
      obtain ⟨m', hm', hsame⟩ := h m hself
      rw [hfold] at hm'
      exact Tables.prefers_some_iff.2 ⟨m', hm', hsame⟩

/-- Types that are folded in the tables are compared up to case. -/
theorem fallbackCompares_of_folded {t : Tables}
    (h : ∀ m ∈ t.primary ++ t.secondary, lowerAscii m.mediaType = m.mediaType) :
    FallbackCompares t fun wanted listed => EqFold listed wanted := by
  refine fallbackCompares_eqFold_iff.2 fun m hm => ⟨m, ?_, rfl⟩
  have hmem := hm.mem
  obtain ⟨-, before, after, hcut, hbefore⟩ := hm
  refine ⟨(h m hmem).symm, before, after, hcut, fun earlier hearlier hfolded => ?_⟩
  apply hbefore earlier hearlier
  rw [hfolded]
  exact Text.lowerAscii_lowerAscii m.mediaType

theorem fallbackCompares_standard :
    FallbackCompares Tables.standard fun wanted listed => EqFold listed wanted :=
  fallbackCompares_of_folded fun m hm =>
    Text.lowerAscii_of_lower (Tables.lower_of_mem_standard m hm)

/-- **How types are compared** where the platform prefers no extension: the type of a mapping with
the folded type that is looked for. This is the same as comparing them up to case exactly on the
tables in which the first mapping of a type up to case is made up for. -/
theorem preferredExtension_fallback (t : Tables) :
    FallbackCompares t (fun wanted listed => listed = lowerAscii wanted) ∧
      (FallbackCompares t (fun wanted listed => EqFold listed wanted) ↔ FirstsMadeUpFor t) :=
  ⟨fallbackCompares_folded t, fallbackCompares_eqFold_iff⟩

/-- The only mapping is of a type with capitals. -/
def capitalTables : Tables :=
  { primary := [⟨"Image/X-Foo", "foo"⟩], secondary := [], groups := [], fallback := ⟨none, []⟩ }

/-- That mapping is passed over where its own type is looked for. -/
theorem not_fallbackCompares_capital :
    ¬ ∀ t, FallbackCompares t fun wanted listed => EqFold listed wanted := by
  intro h
  have hfirst : capitalTables.First (EqFold · "Image/X-Foo") ⟨"Image/X-Foo", "foo"⟩ :=
    ⟨rfl, [], [], rfl, List.forall_mem_nil _⟩
  have hpreferred := (fallbackCompares_iff.1 (h capitalTables) "Image/X-Foo" _).2 (.first hfirst)
  have hnone : tablePreferred capitalTables "Image/X-Foo" = none := by
    decide +kernel
  rw [hnone] at hpreferred
  cases hpreferred

end Resolver

end MediaTypes
