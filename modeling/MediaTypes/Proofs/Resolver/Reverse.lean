import MediaTypes.Resolver

/-!
# Which extensions a type has

The extensions of a type, or of a pattern `type/*`, are those the platform gives for the types it
is asked about and those of all mappings whose type has the same beginning. A platform that fails
to answer one of the questions ends the lookup.

## Main definitions

- `Tables.Listed` — the extensions of selected mappings, of which `Tables.Leading` selects by the
  beginning of the type
- `Resolver.Outcome` — what a platform and a selection of mappings make of a reverse lookup

## Main statements

- `outcome_extensionsOfType` — the outcome of a reverse lookup, on every platform
- `mem_extensionsOfType` — the extensions of a type, where the platform answers
-/

namespace MediaTypes

namespace Tables

theorem mem_extensionsUnder_iff {mappings : List Mapping} {leading e : String} :
    e ∈ extensionsUnder mappings leading ↔
      ∃ m ∈ mappings, hasLeading leading m = true ∧ e ∈ m.extensionList := by
  simp only [extensionsUnder, List.mem_eraseDups, List.mem_flatMap, List.mem_filter, and_assoc]

/-- An extension of a mapping of either table that is selected. -/
def Listed (t : Tables) (selects : Mapping → Prop) (e : String) : Prop :=
  ∃ m, (m ∈ t.primary ∨ m ∈ t.secondary) ∧ selects m ∧ e ∈ m.extensionList

theorem Listed.mono {t : Tables} {selects selects' : Mapping → Prop}
    (h : ∀ m, selects m → selects' m) {e : String} : t.Listed selects e → t.Listed selects' e := by
  rintro ⟨m, hm, hselects, he⟩
  exact ⟨m, hm, h m hselects, he⟩

/-- An extension of a mapping whose type begins with a text. -/
def Leading (t : Tables) (leading : String) : String → Prop :=
  t.Listed fun m => hasLeading leading m = true

end Tables

namespace Resolver

/-- What becomes of questions that are put to a registry one after the other and of the extensions
that the tables list. -/
inductive Outcome (registry : Registry) (asked : List String) (listed : String → Prop) :
    Except QueryFailure (List String) → Prop where
  /-- The first question without an answer ends the lookup. -/
  | failed {failure : QueryFailure} (before after : List String) (mediaType : String)
      (cut : asked = before ++ mediaType :: after)
      (answered : ∀ u ∈ before, ∃ given, registry.extensionsOf (some u) = .ok given)
      (fails : registry.extensionsOf (some mediaType) = .error failure) :
      Outcome registry asked listed (.error failure)
  /-- All questions are answered, and the answers and the tables are united. -/
  | united {found : List String}
      (answered : ∀ u ∈ asked, ∃ given, registry.extensionsOf (some u) = .ok given)
      (mem : ∀ e, e ∈ found ↔
        (∃ u ∈ asked, ∃ given, registry.extensionsOf (some u) = .ok given ∧ e ∈ given) ∨
          listed e) :
      Outcome registry asked listed (.ok found)

namespace Outcome

variable {registry : Registry} {asked : List String} {listed : String → Prop}

/-- Where all questions are answered, the answers are united with what the tables list. -/
theorem of_answers {answer : Except QueryFailure (List String)}
    (h : Outcome registry asked listed answer) {f : String → List String}
    (hf : ∀ u ∈ asked, registry.extensionsOf (some u) = .ok (f u)) :
    ∃ found, answer = .ok found ∧ ∀ e, e ∈ found ↔ (∃ u ∈ asked, e ∈ f u) ∨ listed e := by
  cases h with
  | failed before after mediaType cut _ fails =>
    have hmem : mediaType ∈ asked := by simp [cut]
    rw [hf mediaType hmem] at fails
    cases fails
  | united _ mem =>
    refine ⟨_, rfl, fun e => ?_⟩
    have hgiven : ∀ u ∈ asked, (∃ given, registry.extensionsOf (some u) = .ok given ∧ e ∈ given) ↔
        e ∈ f u := by
      intro u hu
      rw [hf u hu]
      simp only [Except.ok.injEq, exists_eq_left']
    rw [mem e]
    exact or_congr_left (exists_congr fun u => and_congr_right (hgiven u))

/-- A lookup answers exactly if the platform answers for all types that it is asked about. -/
theorem ok_iff {answer : Except QueryFailure (List String)}
    (h : Outcome registry asked listed answer) :
    (∃ found, answer = .ok found) ↔
      ∀ u ∈ asked, ∃ given, registry.extensionsOf (some u) = .ok given := by
  cases h with
  | failed before after mediaType cut _ fails =>
    refine iff_of_false (fun ⟨_, hfound⟩ => nomatch hfound) fun hall => ?_
    obtain ⟨given, hgiven⟩ := hall mediaType (by simp [cut])
    rw [fails] at hgiven
    cases hgiven
  | united answered _ => exact iff_of_true ⟨_, rfl⟩ answered

theorem mem_iff {found : List String} (h : Outcome registry asked listed (.ok found))
    (e : String) :
    e ∈ found ↔
      (∃ u ∈ asked, ∃ given, registry.extensionsOf (some u) = .ok given ∧ e ∈ given) ∨
        listed e := by
  cases h with
  | united _ mem => exact mem e

theorem of_nothing_given {answer : Except QueryFailure (List String)}
    (h : Outcome registry asked listed answer)
    (hnothing : ∀ u ∈ asked, registry.extensionsOf (some u) = .ok []) :
    ∃ found, answer = .ok found ∧ ∀ e, e ∈ found ↔ listed e := by
  simpa using h.of_answers hnothing

/-- A lookup that goes on with all answers adds what it lists. -/
theorem andThen {x : Lookup (List String)} {f : List String → Lookup (List String)}
    (hx : Outcome registry asked (fun _ => False) x.answer)
    (hf : ∀ answers, ∃ found, (f answers).answer = .ok found ∧
      ∀ e, e ∈ found ↔ e ∈ answers ∨ listed e) :
    Outcome registry asked listed (x.andThen f).answer := by
  cases hanswer : x.answer with
  | error failure =>
    rw [hanswer] at hx
    rw [Lookup.andThen_of_error hanswer]
    cases hx with
    | failed before after mediaType cut answered fails =>
      exact .failed before after mediaType cut answered fails
  | ok answers =>
    rw [hanswer] at hx
    obtain ⟨found, hfound, hmem⟩ := hf answers
    rw [Lookup.andThen_of_ok hanswer, hfound]
    cases hx with
    | united answered mem =>
      refine .united answered fun e => ?_
      rw [hmem e, mem e, or_false]

theorem cons {t : String} {here : List String} {answer : Except QueryFailure (List String)}
    (hhere : registry.extensionsOf (some t) = .ok here)
    (h : Outcome registry asked (· ∈ here) answer) :
    Outcome registry (t :: asked) (fun _ => False) answer := by
  cases h with
  | failed before after mediaType cut answered fails =>
    refine .failed (t :: before) after mediaType (by rw [cut, List.cons_append]) ?_ fails
    exact List.forall_mem_cons.2 ⟨⟨here, hhere⟩, answered⟩
  | united answered mem =>
    refine .united (List.forall_mem_cons.2 ⟨⟨here, hhere⟩, answered⟩) fun e => ?_
    rw [mem e, or_comm, or_false]
    simp only [List.mem_cons, exists_eq_or_imp, hhere, Except.ok.injEq, exists_eq_left']

end Outcome

/-- Questions put one after the other, without any tables. -/
theorem outcome_askAllExtensions (registry : Registry) (asked : List String) :
    Outcome registry asked (fun _ => False) (registry.askAllExtensions asked).answer := by
  induction asked with
  | nil => exact .united (List.forall_mem_nil _) (by simp)
  | cons t rest ih =>
    rw [Registry.askAllExtensions]
    cases hhere : registry.extensionsOf (some t) with
    | error failure =>
      rw [Lookup.andThen_of_error (x := registry.askExtensions (some t)) hhere]
      exact .failed [] rest t rfl (List.forall_mem_nil _) hhere
    | ok here =>
      -- the later questions are put, and what this one gave is added to their answers
      rw [Lookup.andThen_of_ok (x := registry.askExtensions (some t)) hhere]
      exact .cons hhere (ih.andThen fun further =>
        ⟨here ++ further, rfl, fun e => by rw [List.mem_append, or_comm]⟩)

theorem extensionsOfType_eq {r : Resolver} {pattern leading : String} {asked : List String}
    (hwild : MediaType.isFullWildcard pattern = false)
    (hselection : selection r.tables (Text.lowerAscii pattern) = (leading, asked))
    (tracing : Bool) :
    r.extensionsOfType tracing pattern =
      (r.platform.registry.askAllExtensions asked).andThen fun answers =>
        let found := (answers ++ Tables.extensionsUnder r.tables.primary leading ++
          Tables.extensionsUnder r.tables.secondary leading).eraseDups
        (Lookup.trace tracing (.reverseLookup pattern found.length)).andThen fun _ =>
          Lookup.done found := by
  rw [extensionsOfType, hwild, hselection]
  rfl

/-- A reverse lookup unites what the platform gives with what the tables list under a beginning. -/
theorem outcome_extensionsOfType {r : Resolver} {pattern leading : String} {asked : List String}
    (hwild : MediaType.isFullWildcard pattern = false)
    (hselection : selection r.tables (Text.lowerAscii pattern) = (leading, asked))
    (tracing : Bool) :
    Outcome r.platform.registry asked (r.tables.Leading leading)
      (r.extensionsOfType tracing pattern).answer := by
  rw [extensionsOfType_eq hwild hselection]
  -- the tables never fail, and a trace changes no answer
  refine (outcome_askAllExtensions r.platform.registry asked).andThen fun answers => ?_
  refine ⟨_, by cases tracing <;> rfl, fun e => ?_⟩
  simp only [List.mem_eraseDups, List.mem_append, or_assoc, Tables.mem_extensionsUnder_iff,
    Tables.Leading, Tables.Listed, or_and_right, exists_or]

/-- The extensions of a type, where the platform answers the questions put to it. -/
theorem mem_extensionsOfType {r : Resolver} {pattern leading : String} {asked : List String}
    (hwild : MediaType.isFullWildcard pattern = false)
    (hselection : selection r.tables (Text.lowerAscii pattern) = (leading, asked))
    {f : String → List String}
    (h : ∀ t ∈ asked, r.platform.registry.extensionsOf (some t) = .ok (f t)) (tracing : Bool) :
    ∃ found, (r.extensionsOfType tracing pattern).answer = .ok found ∧
      ∀ e, e ∈ found ↔ (∃ t ∈ asked, e ∈ f t) ∨
        ∃ m, (m ∈ r.tables.primary ∨ m ∈ r.tables.secondary) ∧
          Tables.hasLeading leading m = true ∧ e ∈ m.extensionList :=
  (outcome_extensionsOfType hwild hselection tracing).of_answers h

/-- A type that does not end in `/*` stands for itself. -/
theorem selection_of_not_wildcard {t : Tables} {mediaType : String}
    (h : ¬ ['/', '*'] <:+ mediaType.toList) :
    selection t mediaType = (mediaType, [mediaType]) := by
  rw [selection, if_neg (by rwa [List.isSuffixOf_iff_suffix])]

end Resolver

end MediaTypes
