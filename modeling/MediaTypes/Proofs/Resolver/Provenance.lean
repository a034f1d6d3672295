import MediaTypes.Proofs.Resolver.Precedence
import MediaTypes.Proofs.Resolver.Selection
import MediaTypes.Log.Record
import MediaTypes.Settings

/-!
# What the records say about a lookup

The type of an extension comes from one source: the primary table, the platform, or the secondary
table, of which the first one counts that has a type that is not empty. Where traces are on, a
lookup makes one record, and this record names the source, the extension and the type. A lookup
that comes to no type, or to the empty one, makes none. Too long an extension is reported whether
traces are on or off.

## Main definitions

- `Resolver.CameFrom` — the source of a type, read off the tables and the platform
- `Lookup.records` — the records that a lookup makes
- `Resolver.Truthful` — what the records of a lookup have to do with its source

## Main statements

- `findType_of_cameFrom` — a lookup in full, by its source
- `cameFrom_or_nothing` — a lookup without a source
- `traces_tell_the_truth` — the records of all lookups
-/

namespace MediaTypes

/-- The records that a lookup makes, in order. -/
def Lookup.records {α : Type} (logger : String) (l : Lookup α) : List Log.Record :=
  l.events.map (.ofEvent logger)

theorem Lookup.events_andThen_done {α β : Type} (x : Lookup α) (f : α → β) :
    (x.andThen fun a => Lookup.done (f a)).events = x.events := by
  rw [Lookup.andThen]
  cases x.answer with
  | error failure => rfl
  | ok a => exact List.append_nil x.events

theorem Log.Source.label_inj {source source' : Source} :
    source.label = source'.label ↔ source = source' := by
  cases source <;> cases source' <;> decide

theorem Settings.tracing_eq_true_iff {env : Environment} :
    tracing env = true ↔ env.get? traceVariable = some "1" := by
  rw [tracing, beq_iff_eq]

theorem Registry.events_askAllExtensions (registry : Registry) (asked : List String) :
    (registry.askAllExtensions asked).events = [] := by
  induction asked with
  | nil => rfl
  | cons u rest ih =>
    rw [askAllExtensions]
    cases hu : registry.extensionsOf (some u) with
    | error failure =>
      rw [Lookup.andThen_of_error (x := registry.askExtensions (some u)) hu]
      rfl
    | ok here =>
      rw [Lookup.andThen_of_ok (x := registry.askExtensions (some u)) hu,
        Lookup.events_andThen_done, ih]
      rfl

namespace Resolver

/-- A type that is not empty comes from a source for an extension. The platform is a source only
if it is consulted. -/
inductive CameFrom (r : Resolver) (consult : Bool) (extension : String) :
    Log.Source → String → Prop where
  | primary {m : Mapping} (first : Tables.FirstListing r.tables.primary extension m)
      (given : m.mediaType ≠ "") : CameFrom r consult extension .primary m.mediaType
  | platform {t : String}
      (passed : ∀ m, Tables.FirstListing r.tables.primary extension m → m.mediaType = "")
      (consulted : consult = true)
      (answers : r.platform.registry.typeOf (some extension) = .ok (some t)) (given : t ≠ "") :
      CameFrom r consult extension .platform t
  | secondary {m : Mapping}
      (passed : ∀ m, Tables.FirstListing r.tables.primary extension m → m.mediaType = "")
      (silent : consult = true → ∃ answer,
        r.platform.registry.typeOf (some extension) = .ok answer ∧ ∀ t, answer = some t → t = "")
      (first : Tables.FirstListing r.tables.secondary extension m) (given : m.mediaType ≠ "") :
      CameFrom r consult extension .secondary m.mediaType

/-- The queries that a lookup has put when it ends at a source. -/
def queriesUpTo (consult : Bool) (extension : String) : Log.Source → List Query
  | .primary => []
  | .platform | .secondary => if consult then [.typeOf (some extension)] else []

variable {r : Resolver} {consult : Bool} {extension t : String} {source : Log.Source}

theorem CameFrom.ne_empty (h : CameFrom r consult extension source t) : t ≠ "" := by
  cases h <;> assumption

theorem settle_of_given (tracing : Bool) {given : Option String} (h : nonEmpty? given = some t) :
    r.settle tracing extension given =
      ⟨.ok (some t), [], if tracing then [.hit .platform extension t] else []⟩ := by
  rw [settle, h]
  cases tracing <;> rfl

theorem settle_of_secondary (tracing : Bool) {given : Option String} (h : nonEmpty? given = none)
    (hfound : Tables.typeOf? r.tables.secondary extension = some t) (ht : t ≠ "") :
    r.settle tracing extension given =
      ⟨.ok (some t), [], if tracing then [.hit .secondary extension t] else []⟩ := by
  rw [settle, h, hfound]
  dsimp only
  rw [if_pos ht]
  cases tracing <;> rfl

theorem settle_of_no_secondary (tracing : Bool) {given : Option String}
    (h : nonEmpty? given = none)
    (hnothing : nonEmpty? (Tables.typeOf? r.tables.secondary extension) = none) :
    (r.settle tracing extension given).events = [] ∧
      ∀ t, (r.settle tracing extension given).answer = .ok (some t) → t = "" := by
  constructor
  · rw [settle, h]
    cases hfound : Tables.typeOf? r.tables.secondary extension with
    | none => rfl
    | some found =>
      obtain rfl : found = "" := nonEmpty?_eq_none_iff.1 hnothing found hfound
      rfl
  · intro t ht
    rw [(r.settle_spec tracing extension given).1, h, Option.none_or] at ht
    exact nonEmpty?_eq_none_iff.1 hnothing t (Except.ok.inj ht)

/-- A lookup in full, by the source of the type. -/
theorem findType_of_cameFrom (hlen : extension.length ≤ maxExtensionLength)
    (h : CameFrom r consult extension source t) (tracing : Bool) :
    r.findType tracing consult extension =
      ⟨.ok (some t), queriesUpTo consult extension source,
        if tracing then [.hit source extension t] else []⟩ := by
  cases h with
  | primary first given =>
    rw [r.findType_of_primary tracing hlen (nonEmpty?_eq_some_iff.2 ⟨first.typeOf?, given⟩)]
    cases tracing <;> rfl
  | platform passed consulted answers given =>
    subst consulted
    have hanswer : (r.platform.registry.askType (some extension)).answer = .ok (some t) := answers
    rw [r.findType_of_consult tracing hlen (nonEmpty?_typeOf?_eq_none_iff.2 passed),
      Lookup.andThen_of_ok hanswer,
      settle_of_given tracing (nonEmpty?_eq_some_iff.2 ⟨rfl, given⟩)]
    rfl
  | secondary passed silent first given =>
    have hprimary := nonEmpty?_typeOf?_eq_none_iff.2 passed
    cases consult with
    | false =>
      rw [r.findType_of_not_consult tracing hlen hprimary,
        settle_of_secondary tracing rfl first.typeOf? given]
      rfl
    | true =>
      obtain ⟨answer, answers, hempty⟩ := silent rfl
      have hanswer : (r.platform.registry.askType (some extension)).answer = .ok answer := answers
      rw [r.findType_of_consult tracing hlen hprimary, Lookup.andThen_of_ok hanswer,
        settle_of_secondary tracing (nonEmpty?_eq_none_iff.2 hempty) first.typeOf? given]
      rfl

/-- A type has one source, and an extension has one type. -/
theorem CameFrom.unique (hlen : extension.length ≤ maxExtensionLength) {source' : Log.Source}
    {t' : String} (h : CameFrom r consult extension source t)
    (h' : CameFrom r consult extension source' t') : source = source' ∧ t = t' := by
  have hevents := congrArg Lookup.events
    ((findType_of_cameFrom hlen h true).symm.trans (findType_of_cameFrom hlen h' true))
  simpa using hevents

/-- Where neither the primary table nor the platform has a type that is not empty, the secondary
table is the source, or nothing is. -/
theorem secondary_or_nothing
    (passed : ∀ m, Tables.FirstListing r.tables.primary extension m → m.mediaType = "")
    {given : Option String} (hgiven : nonEmpty? given = none)
    (answers : consult = true → r.platform.registry.typeOf (some extension) = .ok given)
    (tracing : Bool) :
    (∃ source t, CameFrom r consult extension source t) ∨
      (r.settle tracing extension given).events = [] ∧
        ∀ t, (r.settle tracing extension given).answer = .ok (some t) → t = "" := by
  cases hsecondary : nonEmpty? (Tables.typeOf? r.tables.secondary extension) with
  | some found =>
    obtain ⟨hfound, hne⟩ := nonEmpty?_eq_some_iff.1 hsecondary
    obtain ⟨m, first, rfl⟩ := Tables.typeOf?_eq_some_iff.1 hfound
    have silent : consult = true → ∃ answer,
        r.platform.registry.typeOf (some extension) = .ok answer ∧ ∀ t, answer = some t → t = "" :=
      fun hconsult => ⟨given, answers hconsult, nonEmpty?_eq_none_iff.1 hgiven⟩
    exact .inl ⟨_, _, .secondary passed silent first hne⟩
  | none => exact .inr (settle_of_no_secondary tracing hgiven hsecondary)

/-- A lookup without a source makes no record, and its type, if there is one, is the empty one. -/
theorem cameFrom_or_nothing (r : Resolver) (consult : Bool)
    (hlen : extension.length ≤ maxExtensionLength) (tracing : Bool) :
    (∃ source t, CameFrom r consult extension source t) ∨
      (r.findType tracing consult extension).events = [] ∧
        ∀ t, (r.findType tracing consult extension).answer = .ok (some t) → t = "" := by
  cases hprimary : nonEmpty? (Tables.typeOf? r.tables.primary extension) with
  | some found =>
    obtain ⟨hfound, given⟩ := nonEmpty?_eq_some_iff.1 hprimary
    obtain ⟨m, first, rfl⟩ := Tables.typeOf?_eq_some_iff.1 hfound
    exact .inl ⟨_, _, .primary first given⟩
  | none =>
    have passed := nonEmpty?_typeOf?_eq_none_iff.1 hprimary
    cases consult with
    | false =>
      have hnone : nonEmpty? none = none := rfl
      rw [r.findType_of_not_consult tracing hlen hprimary]
      exact secondary_or_nothing passed hnone (fun h => absurd h Bool.false_ne_true) tracing
    | true =>
      rw [r.findType_of_consult tracing hlen hprimary]
      cases answers : r.platform.registry.typeOf (some extension) with
      | error failure =>
        -- the lookup ends without an answer, and nothing is reported
        rw [Lookup.andThen_of_error (x := r.platform.registry.askType (some extension)) answers]
        exact .inr ⟨rfl, nofun⟩
      | ok given =>
        rw [Lookup.andThen_of_ok (x := r.platform.registry.askType (some extension)) answers]
        cases hgiven : nonEmpty? given with
        | some found =>
          obtain ⟨rfl, hne⟩ := nonEmpty?_eq_some_iff.1 hgiven
          exact .inl ⟨_, _, .platform passed rfl answers hne⟩
        | none => exact secondary_or_nothing passed hgiven (fun _ => answers) tracing

theorem source_of_answer (hlen : extension.length ≤ maxExtensionLength) {tracing : Bool}
    (hanswer : (r.findType tracing consult extension).answer = .ok (some t)) (ht : t ≠ "") :
    ∃ source, CameFrom r consult extension source t := by
  rcases cameFrom_or_nothing r consult hlen tracing with ⟨source, t', h⟩ | ⟨-, hnothing⟩
  · rw [findType_of_cameFrom hlen h tracing] at hanswer
    obtain rfl : t' = t := Option.some.inj (Except.ok.inj hanswer)
    exact ⟨source, h⟩
  · exact absurd (hnothing t hanswer) ht

/-- Where the platform may be asked, the primary table is the source just if it is not. -/
theorem cameFrom_primary_iff (hlen : extension.length ≤ maxExtensionLength) {tracing : Bool}
    (hanswer : (r.findType tracing true extension).answer = .ok (some t)) (ht : t ≠ "") :
    CameFrom r true extension .primary t ↔ (r.findType tracing true extension).queries = [] := by
  obtain ⟨source, h⟩ := source_of_answer hlen hanswer ht
  rw [findType_of_cameFrom hlen h tracing]
  constructor
  · intro hprimary
    obtain ⟨rfl, -⟩ := h.unique hlen hprimary
    rfl
  · intro hqueries
    cases source with
    | primary => exact h
    | platform => cases hqueries
    | secondary => cases hqueries

/-- The platform is the source just if it is asked and gives this type. -/
theorem cameFrom_platform_iff (hlen : extension.length ≤ maxExtensionLength) {tracing : Bool}
    (hanswer : (r.findType tracing consult extension).answer = .ok (some t)) (ht : t ≠ "") :
    CameFrom r consult extension .platform t ↔
      (r.findType tracing consult extension).queries = [.typeOf (some extension)] ∧
        r.platform.registry.typeOf (some extension) = .ok (some t) := by
  obtain ⟨source, h⟩ := source_of_answer hlen hanswer ht
  rw [findType_of_cameFrom hlen h tracing]
  constructor
  · intro hplatform
    obtain ⟨rfl, -⟩ := h.unique hlen hplatform
    cases hplatform with
    | platform _ consulted answers =>
      subst consulted
      exact ⟨rfl, answers⟩
  · rintro ⟨hqueries, answers⟩
    cases h with
    | primary => cases hqueries
    | platform passed consulted answers given => exact .platform passed consulted answers given
    | secondary _ silent =>
      cases consult with
      | false => cases hqueries
      | true =>
        obtain ⟨answer, hanswer', hempty⟩ := silent rfl
        rw [answers] at hanswer'
        exact absurd (hempty _ (Except.ok.inj hanswer').symm) ht

/-- The secondary table is the source just if no source before it has a type that is not empty. -/
theorem cameFrom_secondary_iff (hlen : extension.length ≤ maxExtensionLength) {tracing : Bool}
    (hanswer : (r.findType tracing consult extension).answer = .ok (some t)) (ht : t ≠ "") :
    CameFrom r consult extension .secondary t ↔
      (∀ m, Tables.FirstListing r.tables.primary extension m → m.mediaType = "") ∧
        (consult = true → ∀ u,
          r.platform.registry.typeOf (some extension) = .ok (some u) → u = "") := by
  constructor
  · rintro (_ | _ | ⟨passed, silent, -, -⟩)
    refine ⟨passed, fun consulted u answers => ?_⟩
    obtain ⟨answer, hanswer', hempty⟩ := silent consulted
    rw [answers] at hanswer'
    exact hempty u (Except.ok.inj hanswer').symm
  · rintro ⟨passed, silent⟩
    obtain ⟨source, h⟩ := source_of_answer hlen hanswer ht
    cases h with
    | primary first given => exact absurd (passed _ first) given
    | platform _ consulted answers given => exact absurd (silent consulted _ answers) given
    | secondary passed silent first given => exact .secondary passed silent first given

/-- What the records of a lookup have to do with the source of the type. -/
structure Truthful (r : Resolver) (consult : Bool) (env : Environment) (logger extension : String)
    (l : Lookup (Option String)) : Prop where
  /-- Too long an extension makes one record, whether traces are on or off. -/
  tooLong : 65536 < extension.length → l.records logger =
    [⟨logger, Log.debug, (Log.Event.extensionTooLong extension.length 65536).message, .null⟩]
  /-- With traces on, a type that is not empty makes one record, and its label is that of the
  source. -/
  hit : extension.length ≤ 65536 → env.get? Settings.traceVariable = some "1" →
    ∀ t, l.answer = .ok (some t) → t ≠ "" → ∃ source : Log.Source,
      l.records logger = [.ofTrace logger
        ⟨source.label, [("ext", .string extension), ("mime", .string t)]⟩] ∧
      ∀ s : Log.Source, s.label = source.label ↔ CameFrom r consult extension s t
  /-- No type, and the empty one, make no record. -/
  miss : extension.length ≤ 65536 → ∀ given, l.answer = .ok given →
    (∀ t, given = some t → t = "") → l.records logger = []
  /-- With traces off there is no record. -/
  untraced : extension.length ≤ 65536 → env.get? Settings.traceVariable ≠ some "1" →
    l.records logger = []
  /-- The source can be told from the queries, the answer of the platform and the tables. -/
  sources : extension.length ≤ 65536 → ∀ t, l.answer = .ok (some t) → t ≠ "" →
    (consult = true → (CameFrom r consult extension .primary t ↔ l.queries = [])) ∧
    (consult = false → l.queries = []) ∧
    (CameFrom r consult extension .platform t ↔ l.queries = [.typeOf (some extension)] ∧
      r.platform.registry.typeOf (some extension) = .ok (some t)) ∧
    (CameFrom r consult extension .secondary t ↔
      (∀ m, Tables.FirstListing r.tables.primary extension m → m.mediaType = "") ∧
        (consult = true → ∀ u,
          r.platform.registry.typeOf (some extension) = .ok (some u) → u = ""))

theorem truthful_findType (r : Resolver) (consult : Bool) (env : Environment)
    (logger extension : String) :
    Truthful r consult env logger extension
      (r.findType (Settings.tracing env) consult extension) where
  tooLong hlong := by
    rw [r.findType_of_tooLong (Settings.tracing env) hlong]
    rfl
  hit hlen htraced t hanswer ht := by
    obtain ⟨source, h⟩ := source_of_answer hlen hanswer ht
    refine ⟨source, ?_, fun s => ?_⟩
    · rw [findType_of_cameFrom hlen h, Settings.tracing_eq_true_iff.2 htraced]
      rfl
    · rw [Log.Source.label_inj]
      constructor
      · rintro rfl
        exact h
      · intro h'
        exact (h'.unique hlen h).1
  miss hlen given hanswer hempty := by
    rcases cameFrom_or_nothing r consult hlen (Settings.tracing env) with ⟨source, t, h⟩ | ⟨h, -⟩
    · rw [findType_of_cameFrom hlen h] at hanswer
      exact absurd (hempty t (Except.ok.inj hanswer).symm) h.ne_empty
    · rw [Lookup.records, h, List.map_nil]
  untraced hlen huntraced := by
    rw [Ne, ← Settings.tracing_eq_true_iff, Bool.not_eq_true] at huntraced
    rcases cameFrom_or_nothing r consult hlen (Settings.tracing env) with ⟨source, t, h⟩ | ⟨h, -⟩
    · rw [findType_of_cameFrom hlen h, huntraced]
      rfl
    · rw [Lookup.records, h, List.map_nil]
  sources hlen t hanswer ht := by
    refine ⟨?_, ?_, cameFrom_platform_iff hlen hanswer ht, cameFrom_secondary_iff hlen hanswer ht⟩
    · rintro rfl
      exact cameFrom_primary_iff hlen hanswer ht
    · rintro rfl
      exact r.queries_wellKnownType (Settings.tracing env)

/-- A reverse lookup that answers reports how many extensions it has found, each counted once. -/
theorem events_extensionsOfType {tracing : Bool} {pattern : String} {found : List String}
    (hwild : MediaType.isFullWildcard pattern = false)
    (hfound : (r.extensionsOfType tracing pattern).answer = .ok found) :
    found.Nodup ∧ (r.extensionsOfType tracing pattern).events =
      if tracing then [.reverseLookup pattern found.length] else [] := by
  rcases hselection : selection r.tables (Text.lowerAscii pattern) with ⟨leading, asked⟩
  rw [extensionsOfType_eq hwild hselection] at hfound ⊢
  cases hanswers : (r.platform.registry.askAllExtensions asked).answer with
  | error failure =>
    rw [Lookup.andThen_of_error hanswers] at hfound
    cases hfound
  | ok answers =>
    rw [Lookup.andThen_of_ok hanswers] at hfound ⊢
    rw [Registry.events_askAllExtensions]
    cases tracing with
    | false =>
      obtain rfl := Except.ok.inj hfound
      exact ⟨r.tables.nodup_united leading answers, rfl⟩
    | true =>
      obtain rfl := Except.ok.inj hfound
      exact ⟨r.tables.nodup_united leading answers, rfl⟩

/-- **Traces tell the truth about a lookup.** Whatever the tables and the platform are, the records
of both forward lookups name the source that the type came from, and those of a reverse lookup the
number of extensions that it found; a pattern for everything makes none. -/
theorem traces_tell_the_truth (r : Resolver) (env : Environment) (logger : String) :
    (∀ extension, Truthful r true env logger extension
      (r.typeOfExtension (Settings.tracing env) extension)) ∧
    (∀ extension, Truthful r false env logger extension
      (r.wellKnownType (Settings.tracing env) extension)) ∧
    (∀ pattern, pattern = "*" ∨ pattern = "*/*" →
      (r.extensionsOfType (Settings.tracing env) pattern).records logger = []) ∧
    ∀ pattern, ¬ (pattern = "*" ∨ pattern = "*/*") →
      ∀ found, (r.extensionsOfType (Settings.tracing env) pattern).answer = .ok found →
        found.Nodup ∧
        (env.get? Settings.traceVariable = some "1" →
          (r.extensionsOfType (Settings.tracing env) pattern).records logger =
            [.ofTrace logger
              ⟨"reverse lookup", [("pattern", .string pattern), ("count", .int found.length)]⟩]) ∧
        (env.get? Settings.traceVariable ≠ some "1" →
          (r.extensionsOfType (Settings.tracing env) pattern).records logger = []) := by
  refine ⟨truthful_findType r true env logger, truthful_findType r false env logger, ?broad,
    ?narrow⟩
  case broad =>
    intro pattern hbroad
    rw [extensionsOfType, if_pos (MediaType.isFullWildcard_iff.2 hbroad)]
    rfl
  case narrow =>
    intro pattern hnarrow found hfound
    obtain ⟨hnodup, hevents⟩ :=
      events_extensionsOfType (MediaType.isFullWildcard_eq_false_iff.2 hnarrow) hfound
    refine ⟨hnodup, fun htraced => ?_, fun huntraced => ?_⟩
    · rw [Lookup.records, hevents, Settings.tracing_eq_true_iff.2 htraced]
      rfl
    · rw [Ne, ← Settings.tracing_eq_true_iff, Bool.not_eq_true] at huntraced
      rw [Lookup.records, hevents, huntraced]
      rfl

/-- One type in both tables and on the platform, which gives the empty type to another extension. -/
def sharedType : Resolver where
  tables :=
    { primary := [⟨"text/x-shared", "one"⟩]
      secondary := [⟨"text/x-shared", "one,two,three"⟩]
      groups := []
      fallback := ⟨none, []⟩ }
  platform := .custom (Registry.ofEntries [("two", "text/x-shared"), ("three", "")] [] [])

/-- An environment in which traces are on. -/
def tracedEnvironment : Environment := Dictionary.ofList [(Settings.traceVariable, "1")]

/-- The record of a type that three sources share names the one that counts. -/
theorem traces_tell_the_truth_shared :
    tracedEnvironment.get? Settings.traceVariable = some "1" ∧
    (sharedType.typeOfExtension (Settings.tracing tracedEnvironment) "one").records "netmime" =
      [.ofTrace "netmime" ⟨"primary table hit",
        [("ext", .string "one"), ("mime", .string "text/x-shared")]⟩] ∧
    (sharedType.typeOfExtension (Settings.tracing tracedEnvironment) "two").records "netmime" =
      [.ofTrace "netmime" ⟨"platform hit",
        [("ext", .string "two"), ("mime", .string "text/x-shared")]⟩] ∧
    (sharedType.typeOfExtension (Settings.tracing tracedEnvironment) "three").records "netmime" =
      [.ofTrace "netmime" ⟨"secondary table hit",
        [("ext", .string "three"), ("mime", .string "text/x-shared")]⟩] ∧
    (sharedType.typeOfExtension (Settings.tracing tracedEnvironment) "four").records "netmime" =
      [] ∧
    (sharedType.wellKnownType (Settings.tracing tracedEnvironment) "two").records "netmime" =
      [.ofTrace "netmime" ⟨"secondary table hit",
        [("ext", .string "two"), ("mime", .string "text/x-shared")]⟩] ∧
    (sharedType.extensionsOfType (Settings.tracing tracedEnvironment) "text/*").records "netmime" =
      [.ofTrace "netmime" ⟨"reverse lookup",
        [("pattern", .string "text/*"), ("count", .int 3)]⟩] := by
  have htraced : tracedEnvironment.get? Settings.traceVariable = some "1" := rfl
  obtain ⟨htypes, hknown, -, hreverse⟩ :=
    traces_tell_the_truth sharedType tracedEnvironment "netmime"
  have record : ∀ {consult : Bool} {extension : String} {l : Lookup (Option String)}
      (source : Log.Source), Truthful sharedType consult tracedEnvironment "netmime" extension l →
      extension.length ≤ 65536 → l.answer = .ok (some "text/x-shared") →
      CameFrom sharedType consult extension source "text/x-shared" →
      l.records "netmime" = [.ofTrace "netmime" ⟨source.label,
        [("ext", .string extension), ("mime", .string "text/x-shared")]⟩] := by
    intro consult extension l source h hlen hanswer hsource
    obtain ⟨source', hrecords, hsources⟩ := h.hit hlen htraced _ hanswer (by decide)
    rw [hrecords, (hsources source).2 hsource]
  have passed : ∀ {extension : String},
      Tables.typeOf? sharedType.tables.primary extension = none →
      ∀ m, Tables.FirstListing sharedType.tables.primary extension m → m.mediaType = "" := by
    intro extension hnone
    exact nonEmpty?_typeOf?_eq_none_iff.1 (by rw [hnone]; rfl)
  have first : Tables.FirstListing sharedType.tables.primary "one" ⟨"text/x-shared", "one"⟩ :=
    Tables.find?_lists_eq_some_iff.1 (by decide)
  have second : ∀ extension ∈ ["two", "three"], Tables.FirstListing sharedType.tables.secondary
      extension ⟨"text/x-shared", "one,two,three"⟩ := by
    simp only [List.forall_mem_cons]
    exact ⟨Tables.find?_lists_eq_some_iff.1 (by decide),
      Tables.find?_lists_eq_some_iff.1 (by decide), List.forall_mem_nil _⟩
  refine ⟨htraced, ?_, ?_, ?_, ?_, ?_, ?_⟩
  · exact record .primary (htypes "one") (by decide) rfl (.primary first (by decide))
  · exact record .platform (htypes "two") (by decide) rfl
      (.platform (passed (by decide)) rfl rfl (by decide))
  · exact record .secondary (htypes "three") (by decide) rfl
      (.secondary (passed (by decide)) (fun _ => ⟨some "", rfl, by simp⟩)
        (second "three" (by decide)) (by decide))
  · exact (htypes "four").miss (by decide) none rfl nofun
  · -- the platform would give the type too, and is not consulted
    have source : CameFrom sharedType false "two" .secondary "text/x-shared" :=
      .secondary (passed (by decide)) (fun h => absurd h Bool.false_ne_true)
        (second "two" (by decide)) (by decide)
    exact record .secondary (hknown "two") (by decide) rfl source
  · exact (hreverse "text/*" (by decide) ["one", "two", "three"] rfl).2.1 htraced

end Resolver

end MediaTypes
