import MediaTypes.Proofs.Resolver.Matching

/-!
# What a reverse lookup asks the platform

The fixed tables and the pattern alone decide which types the platform is asked about. On any
platform these are the queries, in order, up to the first one that is not answered. What the
platform gives is united with what the tables list, so that more given is more found, and what the
tables list is always found.

## Main definitions

- `Tables.GroupOf` — the group of a leading type
- `Registry.Gives` — what a registry answers for several types
- `Resolver.StandsFor` — the beginning and the types that a pattern stands for

## Main statements

- `standsFor_iff` — every pattern stands for one beginning and one list of types
- `extensionsOfType_of_gives`, `extensionsOfType_of_failure` — the two outcomes, with the queries
- `reverse_lookup_through_selection` — the platform counts only through its answers for these types
-/

namespace MediaTypes

namespace Tables

/-- The group of a leading type: the first one listed for it, or else the one for all others. -/
inductive GroupOf (t : Tables) (leading : String) : Group → Prop
  | listed (before after : List Group) {g : Group} (cut : t.groups = before ++ g :: after)
      (leads : g.leading = some leading) (first : ∀ h ∈ before, h.leading ≠ some leading) :
      GroupOf t leading g
  | fallback (unlisted : ∀ g ∈ t.groups, g.leading ≠ some leading) : GroupOf t leading t.fallback

theorem groupOf_groupFor (t : Tables) (leading : String) :
    t.GroupOf leading (t.groupFor leading) := by
  rw [groupFor]
  cases h : t.groups.find? fun g => g.leading == some leading with
  | none => exact .fallback (by simpa using h)
  | some g =>
    obtain ⟨hg, before, after, hcut, hbefore⟩ := List.find?_eq_some_iff_append.1 h
    exact .listed before after hcut (by simpa using hg) (by simpa using hbefore)

theorem groupFor_eq_iff {t : Tables} {leading : String} {g : Group} :
    t.groupFor leading = g ↔ t.GroupOf leading g := by
  constructor
  · rintro rfl
    exact t.groupOf_groupFor leading
  · intro h
    rw [groupFor]
    cases h with
    | listed before after cut leads first =>
      have hfind : t.groups.find? (fun g => g.leading == some leading) = some g :=
        List.find?_eq_some_iff_append.2
          ⟨by simpa using leads, before, after, cut, by simpa using first⟩
      rw [hfind, Option.getD_some]
    | fallback unlisted =>
      have hfind : t.groups.find? (fun g => g.leading == some leading) = none :=
        List.find?_eq_none.2 (by simpa using unlisted)
      rw [hfind, Option.getD_none]

/-- An extension of a mapping whose folded type begins with a text. -/
def Beginning (t : Tables) (leading : String) : String → Prop :=
  t.Listed fun m => leading.toList <+: (Text.lowerAscii m.mediaType).toList

theorem leading_eq_beginning (t : Tables) {leading : String}
    (h : Text.lowerAscii leading = leading) : t.Leading leading = t.Beginning leading := by
  simp only [Leading, Beginning, hasLeading, h, List.isPrefixOf_iff_prefix]

theorem nodup_eraseDups : ∀ extensions : List String, extensions.eraseDups.Nodup
  | [] => .nil
  | e :: rest => by
    rw [List.eraseDups_cons, List.nodup_cons]
    exact ⟨by simp [List.mem_eraseDups], nodup_eraseDups (rest.filter fun x => !x == e)⟩
termination_by extensions => extensions.length
decreasing_by exact Nat.lt_succ_of_le (List.length_filter_le _ _)

/-- What is given, united with the extensions that the tables list under a beginning. -/
def united (t : Tables) (leading : String) (given : List String) : List String :=
  (given ++ extensionsUnder t.primary leading ++ extensionsUnder t.secondary leading).eraseDups

theorem nodup_united (t : Tables) (leading : String) (given : List String) :
    (t.united leading given).Nodup :=
  nodup_eraseDups _

theorem mem_united {t : Tables} {leading : String} {given : List String} {e : String} :
    e ∈ t.united leading given ↔ e ∈ given ∨ t.Leading leading e := by
  simp only [united, List.mem_eraseDups, List.mem_append, or_assoc, mem_extensionsUnder_iff,
    Leading, Listed, or_and_right, exists_or]

theorem united_subset (t : Tables) (leading : String) {given given' : List String}
    (h : given ⊆ given') : t.united leading given ⊆ t.united leading given' := by
  intro e he
  rw [mem_united] at he ⊢
  exact he.imp_left fun hgiven => h hgiven

theorem united_perm (t : Tables) (leading : String) {given given' : List String}
    (h : ∀ e, e ∈ given ↔ e ∈ given') :
    (t.united leading given).Perm (t.united leading given') := by
  rw [List.perm_ext_iff_of_nodup (t.nodup_united leading given) (t.nodup_united leading given')]
  intro e
  rw [mem_united, mem_united, h e]

end Tables

namespace Registry

/-- The queries for the extensions of several types, in turn. -/
def extensionQueries (asked : List String) : List Query :=
  asked.map fun u => .extensionsOf (some u)

/-- The registry answers for all of the types, in this way. -/
def Gives (registry : Registry) (asked : List String) (f : String → List String) : Prop :=
  ∀ u ∈ asked, registry.extensionsOf (some u) = .ok (f u)

variable {registry : Registry}

theorem askAllExtensions_of_gives {asked : List String} {f : String → List String}
    (h : registry.Gives asked f) :
    registry.askAllExtensions asked = ⟨.ok (asked.flatMap f), extensionQueries asked, []⟩ := by
  induction asked with
  | nil => rfl
  | cons u rest ih =>
    have hu : (registry.askExtensions (some u)).answer = .ok (f u) := h u List.mem_cons_self
    rw [askAllExtensions, Lookup.andThen_of_ok hu, ih fun v hv => h v (List.mem_cons_of_mem u hv)]
    simp [Lookup.andThen, Lookup.done, askExtensions, Lookup.ask, extensionQueries]

/-- The first type without an answer is the last one asked about. -/
theorem askAllExtensions_of_failure {before after : List String} {u : String}
    {failure : QueryFailure}
    (answered : ∀ v ∈ before, ∃ given, registry.extensionsOf (some v) = .ok given)
    (fails : registry.extensionsOf (some u) = .error failure) :
    registry.askAllExtensions (before ++ u :: after) =
      ⟨.error failure, extensionQueries (before ++ [u]), []⟩ := by
  induction before with
  | nil =>
    have hu : (registry.askExtensions (some u)).answer = .error failure := fails
    rw [List.nil_append, askAllExtensions, Lookup.andThen_of_error hu]
    rfl
  | cons v rest ih =>
    obtain ⟨given, hgiven⟩ := answered v List.mem_cons_self
    have hv : (registry.askExtensions (some v)).answer = .ok given := hgiven
    rw [List.cons_append, askAllExtensions, Lookup.andThen_of_ok hv,
      ih fun w hw => answered w (List.mem_cons_of_mem v hw)]
    rfl

theorem askAllExtensions_congr {registry' : Registry} {asked : List String}
    (h : ∀ u ∈ asked, registry.extensionsOf (some u) = registry'.extensionsOf (some u)) :
    registry.askAllExtensions asked = registry'.askAllExtensions asked := by
  induction asked with
  | nil => rfl
  | cons u rest ih =>
    have hu : registry.askExtensions (some u) = registry'.askExtensions (some u) := by
      rw [askExtensions, h u List.mem_cons_self, askExtensions]
    rw [askAllExtensions, hu, ih fun v hv => h v (List.mem_cons_of_mem u hv), askAllExtensions]

end Registry

namespace Resolver

/-- What a pattern stands for: the beginning of the types that it selects in the tables, and the
types that the platform is asked about. A pattern `type/*` stands for the members of its group, and
everything else for itself, both with their case folded. -/
inductive StandsFor (t : Tables) : String → String → List String → Prop
  | wildcard (top : String) {g : Group} (group : t.GroupOf (Text.lowerAscii top ++ "/") g) :
      StandsFor t (top ++ "/*") (Text.lowerAscii top ++ "/") g.members
  | concrete {pattern : String} (h : ∀ top, pattern ≠ top ++ "/*") :
      StandsFor t pattern (Text.lowerAscii pattern) [Text.lowerAscii pattern]

theorem standsFor_iff {t : Tables} {pattern leading : String} {asked : List String} :
    StandsFor t pattern leading asked ↔
      selection t (Text.lowerAscii pattern) = (leading, asked) := by
  constructor
  · rintro (⟨top, group⟩ | h)
    · rw [selection_wildcard, Tables.groupFor_eq_iff.2 group]
    · exact selection_of_not_wildcard fun hsuffix =>
        (Text.exists_of_wildcard_lowerAscii hsuffix).elim h
  · intro h
    by_cases hwild : ∃ top, pattern = top ++ "/*"
    · obtain ⟨top, rfl⟩ := hwild
      rw [selection_wildcard] at h
      obtain ⟨rfl, rfl⟩ := Prod.mk.inj h
      exact .wildcard top (t.groupOf_groupFor _)
    · have hconcrete : ∀ top, pattern ≠ top ++ "/*" := fun top htop => hwild ⟨top, htop⟩
      rw [selection_of_not_wildcard fun hsuffix =>
        (Text.exists_of_wildcard_lowerAscii hsuffix).elim hconcrete] at h
      obtain ⟨rfl, rfl⟩ := Prod.mk.inj h
      exact .concrete hconcrete

/-- Every pattern stands for some beginning and types. -/
theorem exists_standsFor (t : Tables) (pattern : String) :
    ∃ leading asked, StandsFor t pattern leading asked :=
  ⟨_, _, standsFor_iff.2 rfl⟩

/-- The beginning that a pattern stands for is folded. -/
theorem StandsFor.lowerAscii_leading {t : Tables} {pattern leading : String} {asked : List String}
    (h : StandsFor t pattern leading asked) : Text.lowerAscii leading = leading := by
  cases h with
  | wildcard top =>
    have hfold : Text.lowerAsciiChars ['/'] = ['/'] := rfl
    apply String.toList_inj.1
    simp [hfold]
  | concrete => exact Text.lowerAscii_lowerAscii _

variable {r : Resolver} {pattern leading : String} {asked : List String}

/-- Where the platform answers, it is asked about all types, and what it gives is united with what
the tables list. -/
theorem extensionsOfType_of_gives (hwild : MediaType.isFullWildcard pattern = false)
    (h : StandsFor r.tables pattern leading asked) {f : String → List String}
    (gives : r.platform.registry.Gives asked f) (tracing : Bool) :
    (r.extensionsOfType tracing pattern).queries = Registry.extensionQueries asked ∧
      (r.extensionsOfType tracing pattern).answer =
        .ok (r.tables.united leading (asked.flatMap f)) := by
  rw [extensionsOfType_eq hwild (standsFor_iff.1 h), Registry.askAllExtensions_of_gives gives]
  cases tracing with
  | false => exact ⟨List.append_nil _, rfl⟩
  | true => exact ⟨List.append_nil _, rfl⟩

/-- The first type that the platform does not answer for ends the lookup. -/
theorem extensionsOfType_of_failure (hwild : MediaType.isFullWildcard pattern = false)
    {before after : List String} {u : String} {failure : QueryFailure}
    (h : StandsFor r.tables pattern leading (before ++ u :: after))
    (answered : ∀ v ∈ before, ∃ given, r.platform.registry.extensionsOf (some v) = .ok given)
    (fails : r.platform.registry.extensionsOf (some u) = .error failure) (tracing : Bool) :
    (r.extensionsOfType tracing pattern).queries = Registry.extensionQueries (before ++ [u]) ∧
      (r.extensionsOfType tracing pattern).answer = .error failure := by
  rw [extensionsOfType_eq hwild (standsFor_iff.1 h),
    Registry.askAllExtensions_of_failure answered fails]
  exact ⟨rfl, rfl⟩

/-- Platforms that answer alike for the types asked about make no difference at all. -/
theorem extensionsOfType_congr {tables : Tables} {platform platform' : Platform}
    (hwild : MediaType.isFullWildcard pattern = false) (h : StandsFor tables pattern leading asked)
    (same : ∀ u ∈ asked, platform.registry.extensionsOf (some u) =
      platform'.registry.extensionsOf (some u)) (tracing : Bool) :
    (Resolver.mk tables platform).extensionsOfType tracing pattern =
      (Resolver.mk tables platform').extensionsOfType tracing pattern := by
  rw [extensionsOfType_eq (r := ⟨tables, platform⟩) hwild (standsFor_iff.1 h),
    extensionsOfType_eq (r := ⟨tables, platform'⟩) hwild (standsFor_iff.1 h),
    Registry.askAllExtensions_congr same]

theorem outcome_of_standsFor (hwild : MediaType.isFullWildcard pattern = false)
    (h : StandsFor r.tables pattern leading asked) (tracing : Bool) :
    Outcome r.platform.registry asked (r.tables.Beginning leading)
      (r.extensionsOfType tracing pattern).answer := by
  rw [← r.tables.leading_eq_beginning h.lowerAscii_leading]
  exact outcome_extensionsOfType hwild (standsFor_iff.1 h) tracing

/-- What the tables list is found on every platform that answers. -/
theorem mem_of_beginning (hwild : MediaType.isFullWildcard pattern = false)
    (h : StandsFor r.tables pattern leading asked) {tracing : Bool} {found : List String}
    (hfound : (r.extensionsOfType tracing pattern).answer = .ok found) {e : String}
    (he : r.tables.Beginning leading e) : e ∈ found := by
  have houtcome := outcome_of_standsFor hwild h tracing
  rw [hfound] at houtcome
  exact (houtcome.mem_iff e).2 (.inr he)

/-- **Reverse lookups depend on the platform through the selected types only.** The patterns for
everything ask nothing and find nothing. Every other pattern stands for one beginning and one list
of types, which the tables alone decide. These types are what the platform is asked about, in order
and up to the first one without an answer, and the answers are united with what the tables list
under the beginning. Hence platforms that agree on these types are alike, a platform that gives
more leads to more, and none takes away what the tables list. -/
theorem reverse_lookup_through_selection (t : Tables) (tracing : Bool) (pattern : String) :
    (pattern = "*" ∨ pattern = "*/*" → ∀ platform,
      (Resolver.mk t platform).extensionsOfType tracing pattern = Lookup.done []) ∧
    (¬ (pattern = "*" ∨ pattern = "*/*") → ∃ leading asked,
      (∀ leading' asked', StandsFor t pattern leading' asked' ↔
        leading' = leading ∧ asked' = asked) ∧
      (∀ platform f, platform.registry.Gives asked f →
        ((Resolver.mk t platform).extensionsOfType tracing pattern).queries =
          Registry.extensionQueries asked ∧
        ∃ found, ((Resolver.mk t platform).extensionsOfType tracing pattern).answer = .ok found ∧
          found.Nodup ∧ ∀ e, e ∈ found ↔ (∃ u ∈ asked, e ∈ f u) ∨ t.Beginning leading e) ∧
      (∀ platform before u after failure, asked = before ++ u :: after →
        (∀ v ∈ before, ∃ given, platform.registry.extensionsOf (some v) = .ok given) →
        platform.registry.extensionsOf (some u) = .error failure →
        ((Resolver.mk t platform).extensionsOfType tracing pattern).queries =
          Registry.extensionQueries (before ++ [u]) ∧
        ((Resolver.mk t platform).extensionsOfType tracing pattern).answer = .error failure) ∧
      (∀ platform platform' : Platform, (∀ u ∈ asked,
          platform.registry.extensionsOf (some u) = platform'.registry.extensionsOf (some u)) →
        (Resolver.mk t platform).extensionsOfType tracing pattern =
          (Resolver.mk t platform').extensionsOfType tracing pattern) ∧
      (∀ platform platform' f f', platform.registry.Gives asked f →
        platform'.registry.Gives asked f' →
        ∃ found found',
          ((Resolver.mk t platform).extensionsOfType tracing pattern).answer = .ok found ∧
          ((Resolver.mk t platform').extensionsOfType tracing pattern).answer = .ok found' ∧
          ((∀ u ∈ asked, f u ⊆ f' u) → found ⊆ found') ∧
          ((∀ u ∈ asked, ∀ e, e ∈ f u ↔ e ∈ f' u) → found.Perm found')) ∧
      ∀ platform found,
        ((Resolver.mk t platform).extensionsOfType tracing pattern).answer = .ok found →
        ∀ e, t.Beginning leading e → e ∈ found) := by
  constructor
  · intro hbroad platform
    rw [extensionsOfType, if_pos (MediaType.isFullWildcard_iff.2 hbroad)]
    rfl
  intro hnarrow
  have hwild : MediaType.isFullWildcard pattern = false := by
    rwa [← Bool.not_eq_true, MediaType.isFullWildcard_iff]
  rcases hselection : selection t (Text.lowerAscii pattern) with ⟨leading, asked⟩
  have h : StandsFor t pattern leading asked := standsFor_iff.2 hselection
  have hleading := t.leading_eq_beginning h.lowerAscii_leading
  refine ⟨leading, asked, ?unique, ?gives, ?fails, fun platform platform' same =>
    extensionsOfType_congr hwild h same tracing, ?more, fun platform found hfound e he =>
    mem_of_beginning (r := ⟨t, platform⟩) hwild h hfound he⟩
  case unique =>
    intro leading' asked'
    rw [standsFor_iff, hselection, Prod.mk.injEq, eq_comm, eq_comm (a := asked)]
  case gives =>
    intro platform f gives
    obtain ⟨hqueries, hanswer⟩ :=
      extensionsOfType_of_gives (r := ⟨t, platform⟩) hwild h gives tracing
    refine ⟨hqueries, _, hanswer, t.nodup_united _ _, fun e => ?_⟩
    rw [Tables.mem_united, List.mem_flatMap, hleading]
  case fails =>
    rintro platform before u after failure rfl answered fails
    exact extensionsOfType_of_failure (r := ⟨t, platform⟩) hwild h answered fails tracing
  case more =>
    intro platform platform' f f' gives gives'
    refine ⟨_, _, (extensionsOfType_of_gives (r := ⟨t, platform⟩) hwild h gives tracing).2,
      (extensionsOfType_of_gives (r := ⟨t, platform'⟩) hwild h gives' tracing).2, ?_, ?_⟩
    · intro hless
      refine t.united_subset leading fun e he => ?_
      obtain ⟨u, hu, he⟩ := List.mem_flatMap.1 he
      exact List.mem_flatMap.2 ⟨u, hu, hless u hu he⟩
    · intro hsame
      refine t.united_perm leading fun e => ?_
      rw [List.mem_flatMap, List.mem_flatMap]
      exact exists_congr fun u => and_congr_right fun hu => hsame u hu e

/-- Tables with a group for no leading type, with two groups for one, and with members for all
others. -/
def repeatedGroups : Tables where
  primary := [⟨"Audio/OGG", "ogg,oga"⟩]
  secondary := [⟨"text/plain", "txt"⟩]
  groups := [⟨none, ["audio/x"]⟩, ⟨some "audio/", ["audio/ogg", "Audio/X"]⟩, ⟨some "audio/", []⟩]
  fallback := ⟨some "audio/", ["text/plain"]⟩

/-- A registry that knows one of the types that are asked about. -/
def sparse : Registry := Registry.ofEntries [] [("audio/ogg", ["spx", "ogg"])] []

/-- A registry that has more for this type, and another type beside it. -/
def ampler : Registry :=
  Registry.ofEntries [] [("audio/ogg", ["ogg", "opus", "spx"]), ("audio/x", ["x"])] []

theorem reverse_lookup_through_selection_repeated :
    (∀ platform, (Resolver.mk repeatedGroups platform).extensionsOfType true "*/*" =
      Lookup.done []) ∧
    StandsFor repeatedGroups "AUDIO/*" "audio/" ["audio/ogg", "Audio/X"] ∧
    ((Resolver.mk repeatedGroups (.custom sparse)).extensionsOfType true "AUDIO/*").queries =
      Registry.extensionQueries ["audio/ogg", "Audio/X"] ∧
    ((Resolver.mk repeatedGroups (.custom .refusing)).extensionsOfType true "AUDIO/*").queries =
      Registry.extensionQueries ["audio/ogg"] ∧
    (∃ found found',
      ((Resolver.mk repeatedGroups (.custom sparse)).extensionsOfType true "AUDIO/*").answer =
        .ok found ∧
      ((Resolver.mk repeatedGroups (.custom ampler)).extensionsOfType true "AUDIO/*").answer =
        .ok found' ∧
      found ⊆ found') ∧
    ∀ found,
      ((Resolver.mk repeatedGroups (.custom sparse)).extensionsOfType true "AUDIO/*").answer =
        .ok found → "oga" ∈ found := by
  have hstands : StandsFor repeatedGroups "AUDIO/*" "audio/" ["audio/ogg", "Audio/X"] :=
    standsFor_iff.2 (by decide +kernel)
  have hsparse : sparse.Gives ["audio/ogg", "Audio/X"] fun u =>
      if u = "audio/ogg" then ["spx", "ogg"] else [] :=
    List.forall_mem_cons.2 ⟨rfl, List.forall_mem_singleton.2 rfl⟩
  have hampler : ampler.Gives ["audio/ogg", "Audio/X"] fun u =>
      if u = "audio/ogg" then ["ogg", "opus", "spx"] else [] :=
    List.forall_mem_cons.2 ⟨rfl, List.forall_mem_singleton.2 rfl⟩
  obtain ⟨leading, asked, hunique, hgives, hfails, -, hmore, hkept⟩ :=
    (reverse_lookup_through_selection repeatedGroups true "AUDIO/*").2 (by decide)
  obtain ⟨rfl, rfl⟩ := (hunique _ _).1 hstands
  obtain ⟨hqueries, -⟩ := hgives (.custom sparse) _ hsparse
  obtain ⟨found, found', hfound, hfound', hsubset, -⟩ :=
    hmore (.custom sparse) (.custom ampler) _ _ hsparse hampler
  refine ⟨(reverse_lookup_through_selection repeatedGroups true "*/*").1 (by decide), hstands,
    hqueries, ?_, ⟨found, found', hfound, hfound', hsubset (by decide +kernel)⟩, ?_⟩
  · exact (hfails (.custom .refusing) [] _ _ _ rfl (List.forall_mem_nil _) rfl).1
  · have hlisted : repeatedGroups.Beginning "audio/" "oga" :=
      ⟨⟨"Audio/OGG", "ogg,oga"⟩, .inl List.mem_cons_self, by decide +kernel, by decide +kernel⟩
    exact fun found hfound => hkept (.custom sparse) found hfound "oga" hlisted

end Resolver

end MediaTypes
