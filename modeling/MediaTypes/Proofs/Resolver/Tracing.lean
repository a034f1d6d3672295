import MediaTypes.Proofs.Resolver.Precedence
import MediaTypes.Proofs.Resolver.Reverse

/-!
# Lookups with and without traces

A lookup reports what it has found if traces are on, and it goes on in the same way if they are
off. So it answers the same, and it asks the platform the same, whether they are on or off.

## Main definitions

- `Lookup.Agree` — two lookups differ in what they report at most

## Main statements

- `findType_agree`, `extensionsOfType_agree` — lookups with and without traces agree
-/

namespace MediaTypes

namespace Lookup

variable {α β : Type}

/-- Two lookups have the same answer and put the same queries. What they report may differ. -/
structure Agree (x y : Lookup α) : Prop where
  answer : x.answer = y.answer
  queries : x.queries = y.queries

theorem Agree.refl (x : Lookup α) : Agree x x :=
  ⟨rfl, rfl⟩

/-- Lookups that agree go on to agree. -/
theorem Agree.andThen {x y : Lookup α} (h : Agree x y) {f g : α → Lookup β}
    (hfg : ∀ a, Agree (f a) (g a)) : Agree (x.andThen f) (y.andThen g) := by
  cases hx : x.answer with
  | error e =>
    rw [andThen_of_error hx, andThen_of_error (h.answer.symm.trans hx)]
    exact ⟨rfl, h.queries⟩
  | ok a =>
    rw [andThen_of_ok hx, andThen_of_ok (h.answer.symm.trans hx), h.queries, (hfg a).answer,
      (hfg a).queries]
    exact ⟨rfl, rfl⟩

theorem agree_trace (tracing tracing' : Bool) (event : Log.Event) :
    Agree (trace tracing event) (trace tracing' event) := by
  cases tracing <;> cases tracing' <;> exact ⟨rfl, rfl⟩

end Lookup

namespace Resolver

open Lookup (Agree)

variable (r : Resolver) (tracing tracing' : Bool)

theorem settle_agree (extension : String) (given : Option String) :
    Agree (r.settle tracing extension given) (r.settle tracing' extension given) := by
  obtain ⟨hanswer, hqueries⟩ := r.settle_spec tracing extension given
  obtain ⟨hanswer', hqueries'⟩ := r.settle_spec tracing' extension given
  exact ⟨hanswer.trans hanswer'.symm, hqueries.trans hqueries'.symm⟩

theorem findType_agree (consult : Bool) (extension : String) :
    Agree (r.findType tracing consult extension) (r.findType tracing' consult extension) := by
  by_cases hlen : extension.length ≤ maxExtensionLength
  · cases hp : nonEmpty? (Tables.typeOf? r.tables.primary extension) with
    | some found =>
      rw [r.findType_of_primary tracing hlen hp, r.findType_of_primary tracing' hlen hp]
      exact (Lookup.agree_trace tracing tracing' _).andThen fun _ => .refl _
    | none =>
      cases consult with
      | false =>
        rw [r.findType_of_not_consult tracing hlen hp, r.findType_of_not_consult tracing' hlen hp]
        exact r.settle_agree tracing tracing' extension none
      | true =>
        rw [r.findType_of_consult tracing hlen hp, r.findType_of_consult tracing' hlen hp]
        exact (Agree.refl _).andThen fun given => r.settle_agree tracing tracing' extension given
  · have hlong := Nat.lt_of_not_le hlen
    rw [r.findType_of_tooLong tracing hlong, r.findType_of_tooLong tracing' hlong]
    exact .refl _

theorem typeOfFile_agree (path : String) :
    Agree (r.typeOfFile tracing path) (r.typeOfFile tracing' path) := by
  rw [typeOfFile, typeOfFile]
  split
  · exact .refl _
  · exact r.findType_agree tracing tracing' true _

theorem extensionsOfType_agree (pattern : String) :
    Agree (r.extensionsOfType tracing pattern) (r.extensionsOfType tracing' pattern) := by
  cases hwild : MediaType.isFullWildcard pattern with
  | true =>
    rw [extensionsOfType, extensionsOfType, if_pos hwild, if_pos hwild]
    exact .refl _
  | false =>
    cases hselection : selection r.tables (Text.lowerAscii pattern) with
    | mk leading asked =>
      rw [extensionsOfType_eq hwild hselection tracing,
        extensionsOfType_eq hwild hselection tracing']
      refine (Agree.refl _).andThen fun answers => ?_
      exact (Lookup.agree_trace tracing tracing' _).andThen fun _ => .refl _

end Resolver

end MediaTypes
