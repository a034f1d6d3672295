import MediaTypes.Proofs.Tables.Listing
import MediaTypes.Resolver
import MediaTypes.Tables.Standard

/-!
# The precedence of sources

The type of an extension comes from the primary table, from the platform, or from the secondary
table, in this order. An empty type counts as an answer in the secondary table only. The platform
is asked at most once, and it is not asked at all where the primary table answers, where the
extension is too long, or where only the tables are to be consulted.

## Main definitions

- `Resolver.settle` — how a lookup goes on with the answer of the platform

## Main statements

- `findType_of_primary`, `findType_of_consult`, `findType_of_not_consult` — the course of a lookup
- `forward_precedence` — answers and queries of both forward lookups
-/

namespace MediaTypes

namespace Resolver

theorem nonEmpty?_eq_some_iff {answer : Option String} {t : String} :
    nonEmpty? answer = some t ↔ answer = some t ∧ t ≠ "" := by
  cases answer with
  | none => simp [nonEmpty?]
  | some s =>
    by_cases h : s = ""
    · simp only [nonEmpty?, h, if_true, reduceCtorEq, Option.some.injEq, false_iff, not_and]
      rintro rfl
      exact fun hne => hne rfl
    · simp only [nonEmpty?, h, if_false, Option.some.injEq]
      exact ⟨fun hs => ⟨hs, hs ▸ h⟩, fun hs => hs.1⟩

theorem nonEmpty?_eq_none_iff {answer : Option String} :
    nonEmpty? answer = none ↔ ∀ t, answer = some t → t = "" := by
  cases answer with
  | none => simp [nonEmpty?]
  | some s => by_cases h : s = "" <;> simp [nonEmpty?, h]

/-- How a lookup goes on with the answer of the platform: a type that is not empty is the result,
and otherwise the secondary table decides. -/
def settle (r : Resolver) (tracing : Bool) (extension : String) (given : Option String) :
    Lookup (Option String) :=
  match nonEmpty? given with
  | some found => do
    Lookup.trace tracing (.hit .platform extension found)
    return some found
  | none =>
    match Tables.typeOf? r.tables.secondary extension with
    | none => return none
    | some found => do
      if found ≠ "" then Lookup.trace tracing (.hit .secondary extension found)
      return some found

variable (r : Resolver) (tracing : Bool) (extension : String)

/-- After the platform has answered there is no further query. -/
theorem settle_spec (given : Option String) :
    (r.settle tracing extension given).answer =
        .ok ((nonEmpty? given).or (Tables.typeOf? r.tables.secondary extension)) ∧
      (r.settle tracing extension given).queries = [] := by
  rw [settle]
  cases nonEmpty? given with
  | some found => cases tracing <;> exact ⟨rfl, rfl⟩
  | none =>
    cases Tables.typeOf? r.tables.secondary extension with
    | none => exact ⟨rfl, rfl⟩
    | some found =>
      by_cases hfound : found = ""
      · simp [hfound, Lookup.done]
      · cases tracing <;> simp [hfound, Lookup.andThen, Lookup.trace, Lookup.report, Lookup.done]

variable {extension}

theorem findType_of_tooLong (h : maxExtensionLength < extension.length) (consult : Bool) :
    r.findType tracing consult extension =
      ⟨.ok none, [], [.extensionTooLong extension.length maxExtensionLength]⟩ := by
  rw [findType, if_pos h]
  rfl

theorem findType_of_primary (hlen : extension.length ≤ maxExtensionLength) {found : String}
    (h : nonEmpty? (Tables.typeOf? r.tables.primary extension) = some found) (consult : Bool) :
    r.findType tracing consult extension =
      (Lookup.trace tracing (.hit .primary extension found)).andThen fun _ =>
        Lookup.done (some found) := by
  rw [findType, if_neg (Nat.not_lt.2 hlen), h]
  rfl

theorem findType_of_not_consult (hlen : extension.length ≤ maxExtensionLength)
    (h : nonEmpty? (Tables.typeOf? r.tables.primary extension) = none) :
    r.findType tracing false extension = r.settle tracing extension none := by
  rw [findType, if_neg (Nat.not_lt.2 hlen), h]
  exact Lookup.done_andThen none (r.settle tracing extension)

theorem findType_of_consult (hlen : extension.length ≤ maxExtensionLength)
    (h : nonEmpty? (Tables.typeOf? r.tables.primary extension) = none) :
    r.findType tracing true extension =
      (r.platform.registry.askType (some extension)).andThen (r.settle tracing extension) := by
  rw [findType, if_neg (Nat.not_lt.2 hlen), h]
  rfl

/-- What a lookup in the tables alone answers. -/
theorem answer_wellKnownType (hlen : extension.length ≤ maxExtensionLength) :
    (r.wellKnownType tracing extension).answer =
      .ok ((nonEmpty? (Tables.typeOf? r.tables.primary extension)).or
        (Tables.typeOf? r.tables.secondary extension)) := by
  rw [wellKnownType]
  cases h : nonEmpty? (Tables.typeOf? r.tables.primary extension) with
  | some found =>
    rw [r.findType_of_primary tracing hlen h]
    cases tracing <;> rfl
  | none =>
    rw [r.findType_of_not_consult tracing hlen h, (r.settle_spec tracing extension none).1]
    rfl

theorem queries_wellKnownType : (r.wellKnownType tracing extension).queries = [] := by
  rw [wellKnownType]
  by_cases hlen : extension.length ≤ maxExtensionLength
  · cases h : nonEmpty? (Tables.typeOf? r.tables.primary extension) with
    | some found =>
      rw [r.findType_of_primary tracing hlen h]
      cases tracing <;> rfl
    | none =>
      rw [r.findType_of_not_consult tracing hlen h, (r.settle_spec tracing extension none).2]
  · rw [r.findType_of_tooLong tracing (Nat.lt_of_not_le hlen)]

theorem typeOfExtension_of_primary (hlen : extension.length ≤ maxExtensionLength)
    {found : String} (h : nonEmpty? (Tables.typeOf? r.tables.primary extension) = some found) :
    (r.typeOfExtension tracing extension).answer = .ok (some found) ∧
      (r.typeOfExtension tracing extension).queries = [] := by
  rw [typeOfExtension, r.findType_of_primary tracing hlen h]
  cases tracing <;> exact ⟨rfl, rfl⟩

/-- Where the primary table has no answer, the platform is asked once, about the extension as it
was given. -/
theorem typeOfExtension_of_no_primary (hlen : extension.length ≤ maxExtensionLength)
    (h : nonEmpty? (Tables.typeOf? r.tables.primary extension) = none) :
    (r.typeOfExtension tracing extension).queries = [.typeOf (some extension)] ∧
      ∀ given, r.platform.registry.typeOf (some extension) = .ok given →
        (r.typeOfExtension tracing extension).answer =
          .ok ((nonEmpty? given).or (Tables.typeOf? r.tables.secondary extension)) := by
  rw [typeOfExtension, r.findType_of_consult tracing hlen h]
  cases hgiven : r.platform.registry.typeOf (some extension) with
  | error e =>
    rw [Lookup.andThen_of_error (by exact hgiven)]
    exact ⟨rfl, fun given hok => by cases hok⟩
  | ok given =>
    rw [Lookup.andThen_of_ok (by exact hgiven)]
    obtain ⟨hanswer, hqueries⟩ := r.settle_spec tracing extension given
    refine ⟨by rw [hqueries]; rfl, ?_⟩
    intro given' hok
    obtain rfl : given = given' := by simpa using hok
    exact hanswer

/-- A table has no answer that is not empty exactly when the mapping that counts, if there is one,
has the empty type. -/
theorem nonEmpty?_typeOf?_eq_none_iff {mappings : List Mapping} :
    nonEmpty? (Tables.typeOf? mappings extension) = none ↔
      ∀ m, Tables.FirstListing mappings extension m → m.mediaType = "" := by
  rw [nonEmpty?_eq_none_iff]
  constructor
  · intro h m hm
    exact h _ hm.typeOf?
  · intro h t ht
    obtain ⟨m, hm, rfl⟩ := Tables.typeOf?_eq_some_iff.1 ht
    exact h m hm

/-- An answer of the tables alone that is not empty is one of both lookups, or it gives way to an
answer of the platform that is not empty either. -/
theorem typeOfExtension_of_wellKnownType {given : Option String}
    (hgiven : r.platform.registry.typeOf (some extension) = .ok given) {t : String} (ht : t ≠ "")
    (h : (r.wellKnownType tracing extension).answer = .ok (some t)) :
    ∃ t', t' ≠ "" ∧ (r.typeOfExtension tracing extension).answer = .ok (some t') := by
  by_cases hlen : extension.length ≤ maxExtensionLength
  · rw [r.answer_wellKnownType tracing hlen] at h
    cases hp : nonEmpty? (Tables.typeOf? r.tables.primary extension) with
    | some found =>
      have hne := (nonEmpty?_eq_some_iff.1 hp).2
      exact ⟨found, hne, (r.typeOfExtension_of_primary tracing hlen hp).1⟩
    | none =>
      have hanswer := (r.typeOfExtension_of_no_primary tracing hlen hp).2 given hgiven
      cases hplat : nonEmpty? given with
      | some found =>
        rw [hplat] at hanswer
        exact ⟨found, (nonEmpty?_eq_some_iff.1 hplat).2, hanswer⟩
      | none =>
        rw [hplat] at hanswer
        rw [hp] at h
        exact ⟨t, ht, hanswer.trans h⟩
  · rw [wellKnownType, r.findType_of_tooLong tracing (Nat.lt_of_not_le hlen)] at h
    cases h

/-- The two lookups differ only where the platform overrides the secondary table. -/
theorem sources_of_differ {given : Option String}
    (hgiven : r.platform.registry.typeOf (some extension) = .ok given)
    (h : (r.typeOfExtension tracing extension).answer ≠
      (r.wellKnownType tracing extension).answer) :
    nonEmpty? (Tables.typeOf? r.tables.primary extension) = none ∧
      ∃ t, nonEmpty? given = some t := by
  by_cases hlen : extension.length ≤ maxExtensionLength
  · rw [r.answer_wellKnownType tracing hlen] at h
    cases hp : nonEmpty? (Tables.typeOf? r.tables.primary extension) with
    | some found =>
      rw [(r.typeOfExtension_of_primary tracing hlen hp).1, hp] at h
      exact absurd rfl h
    | none =>
      rw [(r.typeOfExtension_of_no_primary tracing hlen hp).2 given hgiven, hp] at h
      cases hplat : nonEmpty? given with
      | some t => exact ⟨rfl, t, rfl⟩
      | none =>
        rw [hplat] at h
        exact absurd rfl h
  · have hlong := r.findType_of_tooLong tracing (Nat.lt_of_not_le hlen)
    rw [typeOfExtension, wellKnownType, hlong, hlong] at h
    exact absurd rfl h

/-- A type that is found is that of a mapping that lists the extension, or the answer of the
platform. -/
theorem source_of_typeOfExtension {given : Option String}
    (hgiven : r.platform.registry.typeOf (some extension) = .ok given) {t : String}
    (h : (r.typeOfExtension tracing extension).answer = .ok (some t)) :
    given = some t ∨
      ∃ m, (m ∈ r.tables.primary ∨ m ∈ r.tables.secondary) ∧ m.Lists extension ∧
        m.mediaType = t := by
  by_cases hlen : extension.length ≤ maxExtensionLength
  · cases hp : nonEmpty? (Tables.typeOf? r.tables.primary extension) with
    | some found =>
      rw [(r.typeOfExtension_of_primary tracing hlen hp).1] at h
      obtain rfl : found = t := by simpa using h
      obtain ⟨m, hm, heq⟩ := Tables.typeOf?_eq_some_iff.1 (nonEmpty?_eq_some_iff.1 hp).1
      exact Or.inr ⟨m, Or.inl hm.mem, hm.1, heq⟩
    | none =>
      rw [(r.typeOfExtension_of_no_primary tracing hlen hp).2 given hgiven, Except.ok.injEq] at h
      rcases Option.or_eq_some_iff.1 h with hplat | ⟨-, hsecondary⟩
      · exact Or.inl (nonEmpty?_eq_some_iff.1 hplat).1
      · obtain ⟨m, hm, heq⟩ := Tables.typeOf?_eq_some_iff.1 hsecondary
        exact Or.inr ⟨m, Or.inr hm.mem, hm.1, heq⟩
  · rw [typeOfExtension, r.findType_of_tooLong tracing (Nat.lt_of_not_le hlen)] at h
    cases h

/-- **Precedence.** An extension of more than 65536 characters has no type. Otherwise the first
primary mapping that lists the extension decides, unless its type is empty; the platform, asked
once about the extension as it is, decides if its answer is not empty; and the first secondary
mapping that lists the extension decides in all other cases. The lookup in the tables alone does
the same without the platform. -/
theorem forward_precedence (r : Resolver) (tracing : Bool) (extension : String) :
    (65536 < extension.length →
      (r.typeOfExtension tracing extension).answer = .ok none ∧
        (r.wellKnownType tracing extension).answer = .ok none ∧
        (r.typeOfExtension tracing extension).queries = []) ∧
    (extension.length ≤ 65536 →
      ∀ m, Tables.FirstListing r.tables.primary extension m → m.mediaType ≠ "" →
        (r.typeOfExtension tracing extension).answer = .ok (some m.mediaType) ∧
          (r.wellKnownType tracing extension).answer = .ok (some m.mediaType) ∧
          (r.typeOfExtension tracing extension).queries = []) ∧
    (extension.length ≤ 65536 →
      (∀ m, Tables.FirstListing r.tables.primary extension m → m.mediaType = "") →
        (r.typeOfExtension tracing extension).queries = [.typeOf (some extension)] ∧
        (∀ t, r.platform.registry.typeOf (some extension) = .ok (some t) → t ≠ "" →
          (r.typeOfExtension tracing extension).answer = .ok (some t)) ∧
        (r.platform.registry.typeOf (some extension) = .ok none ∨
            r.platform.registry.typeOf (some extension) = .ok (some "") →
          (r.typeOfExtension tracing extension).answer =
            (r.wellKnownType tracing extension).answer) ∧
        (∀ m, Tables.FirstListing r.tables.secondary extension m →
          (r.wellKnownType tracing extension).answer = .ok (some m.mediaType)) ∧
        ((∀ m ∈ r.tables.secondary, ¬ m.Lists extension) →
          (r.wellKnownType tracing extension).answer = .ok none)) ∧
    (r.wellKnownType tracing extension).queries = [] ∧
    ∀ given, r.platform.registry.typeOf (some extension) = .ok given →
      ((r.typeOfExtension tracing extension).answer ≠
          (r.wellKnownType tracing extension).answer →
        (∀ m, Tables.FirstListing r.tables.primary extension m → m.mediaType = "") ∧
          ∃ t, given = some t ∧ t ≠ "") ∧
      ∀ t, (r.wellKnownType tracing extension).answer = .ok (some t) → t ≠ "" →
        ∃ t', t' ≠ "" ∧ (r.typeOfExtension tracing extension).answer = .ok (some t') := by
  refine ⟨?tooLong, ?primary, ?later, r.queries_wellKnownType tracing, ?compare⟩
  case tooLong =>
    intro h
    have hfind := r.findType_of_tooLong tracing h
    rw [typeOfExtension, wellKnownType, hfind, hfind]
    exact ⟨rfl, rfl, rfl⟩
  case primary =>
    intro hlen m hm hne
    have hp := nonEmpty?_eq_some_iff.2 ⟨hm.typeOf?, hne⟩
    obtain ⟨hanswer, hqueries⟩ := r.typeOfExtension_of_primary tracing hlen hp
    refine ⟨hanswer, ?_, hqueries⟩
    rw [r.answer_wellKnownType tracing hlen, hp]
    rfl
  case later =>
    intro hlen hprimary
    have hp := nonEmpty?_typeOf?_eq_none_iff.2 hprimary
    have hknown := r.answer_wellKnownType tracing hlen
    rw [hp] at hknown
    obtain ⟨hqueries, hanswer⟩ := r.typeOfExtension_of_no_primary tracing hlen hp
    refine ⟨hqueries, ?_, ?_, ?_, ?_⟩
    · intro t ht hne
      rw [hanswer _ ht, nonEmpty?_eq_some_iff.2 ⟨rfl, hne⟩]
      rfl
    · -- no type and the empty type both leave the extension to the secondary table
      rintro (hnone | hempty)
      · rw [hanswer _ hnone, hknown]
        rfl
      · rw [hanswer _ hempty, hknown]
        rfl
    · intro m hm
      rw [hknown, hm.typeOf?]
      rfl
    · intro hnone
      rw [hknown, Tables.typeOf?_eq_none_iff.2 hnone]
      rfl
  case compare =>
    intro given hgiven
    refine ⟨?_, fun t h ht => r.typeOfExtension_of_wellKnownType tracing hgiven ht h⟩
    intro hdiffer
    obtain ⟨hp, t, ht⟩ := r.sources_of_differ tracing hgiven hdiffer
    exact ⟨nonEmpty?_typeOf?_eq_none_iff.1 hp, t, nonEmpty?_eq_some_iff.1 ht⟩

/-- The standard tables around a platform that knows one extension of its own and gives the empty
type to another one. -/
def overridden : Resolver where
  tables := Tables.standard
  platform := .custom (Registry.ofEntries [("Bmp", "image/x-ms-bmp"), ("xul", "")] [] [])

/-- Too long an extension, one of two primary mappings, one that the platform overrides, and one
that it leaves to the secondary table. -/
theorem forward_precedence_overridden :
    (65536 < (String.ofList (List.replicate 65537 'x')).length ∧
      (overridden.typeOfExtension true (String.ofList (List.replicate 65537 'x'))).answer =
        .ok none) ∧
    (Tables.FirstListing overridden.tables.primary "WEBM" ⟨"video/webm", "webm"⟩ ∧
      (overridden.typeOfExtension true "WEBM").answer = .ok (some "video/webm") ∧
      (overridden.typeOfExtension true "WEBM").queries = []) ∧
    (overridden.platform.registry.typeOf (some "Bmp") = .ok (some "image/x-ms-bmp") ∧
      (overridden.typeOfExtension true "Bmp").queries = [.typeOf (some "Bmp")] ∧
      (overridden.typeOfExtension true "Bmp").answer = .ok (some "image/x-ms-bmp") ∧
      (overridden.wellKnownType true "Bmp").answer = .ok (some "image/bmp") ∧
      ∃ t', t' ≠ "" ∧ (overridden.typeOfExtension true "Bmp").answer = .ok (some t')) ∧
    (overridden.platform.registry.typeOf (some "xul") = .ok (some "") ∧
      (overridden.typeOfExtension true "xul").queries = [.typeOf (some "xul")] ∧
      (overridden.typeOfExtension true "xul").answer =
        (overridden.wellKnownType true "xul").answer) := by
  have hlong : 65536 < (String.ofList (List.replicate 65537 'x')).length := by
    rw [String.length_ofList, List.length_replicate]
    decide
  have hwebm : Tables.FirstListing overridden.tables.primary "WEBM" ⟨"video/webm", "webm"⟩ :=
    Tables.find?_lists_eq_some_iff.1 (by decide +kernel)
  have hbmp : ∀ m, Tables.FirstListing overridden.tables.primary "Bmp" m → m.mediaType = "" :=
    nonEmpty?_typeOf?_eq_none_iff.1 (by decide +kernel)
  have hbmp' : Tables.FirstListing overridden.tables.secondary "Bmp" ⟨"image/bmp", "bmp"⟩ :=
    Tables.find?_lists_eq_some_iff.1 (by decide +kernel)
  have hxul : ∀ m, Tables.FirstListing overridden.tables.primary "xul" m → m.mediaType = "" :=
    nonEmpty?_typeOf?_eq_none_iff.1 (by decide +kernel)
  obtain ⟨tooLong, -, -, -, -⟩ :=
    forward_precedence overridden true (String.ofList (List.replicate 65537 'x'))
  obtain ⟨-, primary, -, -, -⟩ := forward_precedence overridden true "WEBM"
  obtain ⟨-, -, later, -, compare⟩ := forward_precedence overridden true "Bmp"
  obtain ⟨-, -, later', -, -⟩ := forward_precedence overridden true "xul"
  obtain ⟨hanswer, -, hqueries⟩ := primary (by decide) _ hwebm (by decide)
  obtain ⟨hasked, hgiven, -, hknown, -⟩ := later (by decide) hbmp
  obtain ⟨hasked', -, hempty, -, -⟩ := later' (by decide) hxul
  refine ⟨⟨hlong, (tooLong hlong).1⟩, ⟨hwebm, hanswer, hqueries⟩,
    ⟨rfl, hasked, hgiven _ rfl (by decide), hknown _ hbmp', ?_⟩,
    ⟨rfl, hasked', hempty (Or.inr rfl)⟩⟩
  exact (compare _ rfl).2 _ (hknown _ hbmp') (by decide)

end Resolver

end MediaTypes
