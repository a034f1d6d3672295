import MediaTypes.Log.Event
import MediaTypes.Platform.Registry

/-!
# Lookups

A lookup has an answer, the queries it has put to the platform's registry, and the events it has
to report, both in order. A registry that fails ends the lookup; what was asked and reported
before stays.

## Main definitions

- `Lookup` — an answer with its queries and events
- `Lookup.ask`, `Lookup.report`, `Lookup.trace` — one query, one event, one event if traces are on

## Main statements

- `andThen_of_ok`, `andThen_of_error` — how a lookup goes on after an answer and after a failure
-/

namespace MediaTypes

/-- An answer together with the queries put and the events reported on the way. -/
structure Lookup (α : Type) where
  answer : Except QueryFailure α
  queries : List Query
  events : List Log.Event

namespace Lookup

variable {α β : Type}

/-- The lookup that has its answer already. -/
def done (a : α) : Lookup α :=
  ⟨.ok a, [], []⟩

/-- Goes on with the answer, unless there was a failure. -/
def andThen (x : Lookup α) (f : α → Lookup β) : Lookup β :=
  match x.answer with
  | .error e => ⟨.error e, x.queries, x.events⟩
  | .ok a => ⟨(f a).answer, x.queries ++ (f a).queries, x.events ++ (f a).events⟩

instance : Monad Lookup where
  pure := done
  bind := andThen

@[simp] theorem pure_eq (a : α) : (pure a : Lookup α) = done a := rfl

@[simp] theorem bind_eq (x : Lookup α) (f : α → Lookup β) : x >>= f = x.andThen f := rfl

/-- A lookup that has its answer already goes on with it. -/
@[simp] theorem done_andThen (a : α) (f : α → Lookup β) : (done a).andThen f = f a := by
  simp [andThen, done]

/-- A failure ends the lookup with what was asked and reported so far. -/
theorem andThen_of_error {x : Lookup α} {e : QueryFailure} (h : x.answer = .error e)
    (f : α → Lookup β) : x.andThen f = ⟨.error e, x.queries, x.events⟩ := by
  unfold andThen
  rw [h]

/-- An answer lets the lookup go on, after what was asked and reported so far. -/
theorem andThen_of_ok {x : Lookup α} {a : α} (h : x.answer = .ok a) (f : α → Lookup β) :
    x.andThen f =
      ⟨(f a).answer, x.queries ++ (f a).queries, x.events ++ (f a).events⟩ := by
  unfold andThen
  rw [h]

/-- Puts one query, to which this is the answer. -/
def ask (query : Query) (answer : Except QueryFailure α) : Lookup α :=
  ⟨answer, [query], []⟩

def report (event : Log.Event) : Lookup Unit :=
  ⟨.ok (), [], [event]⟩

/-- Reports an event if traces are on. -/
def trace (tracing : Bool) (event : Log.Event) : Lookup Unit :=
  if tracing then report event else done ()

end Lookup

namespace Registry

def askType (r : Registry) (extension : Option String) : Lookup (Option String) :=
  Lookup.ask (.typeOf extension) (r.typeOf extension)

def askExtensions (r : Registry) (mediaType : Option String) : Lookup (List String) :=
  Lookup.ask (.extensionsOf mediaType) (r.extensionsOf mediaType)

def askPreferred (r : Registry) (mediaType : Option String) : Lookup (Option String) :=
  Lookup.ask (.preferredOf mediaType) (r.preferredOf mediaType)

/-- Asks for the extensions of several types in turn and collects them. -/
def askAllExtensions (r : Registry) : List String → Lookup (List String)
  | [] => Lookup.done []
  | mediaType :: rest =>
    (r.askExtensions (some mediaType)).andThen fun here =>
      (r.askAllExtensions rest).andThen fun further => Lookup.done (here ++ further)

end Registry

end MediaTypes
