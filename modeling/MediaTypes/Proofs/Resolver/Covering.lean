import MediaTypes.Proofs.Resolver.Selection

/-!
# What a wildcard covers

A pattern `type/*` asks the platform about the members of its group, and a member that is no
pattern itself asks about itself. Both unite the answers with what the tables list under a
beginning, and the beginning of the member is the longer one. So the pattern finds whatever such a
member finds, and whatever the tables list for any type that begins with `type/`.

## Main statements

- `StandsFor.leading_prefix` — a type begins with no less than the pattern does
- `wildcard_covers_group` — the pattern finds what the members of its group find
-/

namespace MediaTypes

namespace Tables

theorem beginning_of_prefix {t : Tables} {leading leading' : String}
    (h : leading.toList <+: leading'.toList) {e : String} :
    t.Beginning leading' e → t.Beginning leading e :=
  Listed.mono fun _ hleading => h.trans hleading

end Tables

namespace Resolver

variable {t : Tables} {pattern leading : String} {asked : List String}

/-- What a type stands for begins with no less than the type does, up to a slash: only a star at
its very end is left out. -/
theorem StandsFor.leading_prefix (h : StandsFor t pattern leading asked) {top : String}
    (hfold : Text.lowerAscii top = top) (hleading : (top ++ "/").toList <+: pattern.toList) :
    (top ++ "/").toList <+: leading.toList := by
  have hfolded : (top ++ "/").toList <+: (Text.lowerAscii pattern).toList := by
    have hslash : Text.lowerAsciiChars ['/'] = ['/'] := rfl
    have hchars : Text.lowerAsciiChars top.toList = top.toList := by
      rw [← Text.toList_lowerAscii, hfold]
    have hmap : Text.lowerAsciiChars (top ++ "/").toList <+: Text.lowerAsciiChars pattern.toList :=
      hleading.map Text.lowerAsciiChar
    simpa [hslash, hchars] using hmap
  cases h with
  | concrete => exact hfolded
  | wildcard front =>
    have hending : Text.lowerAsciiChars ['/', '*'] = ['/', '*'] := rfl
    have hpattern : (Text.lowerAscii (front ++ "/*")).toList =
        (Text.lowerAscii front ++ "/").toList ++ ['*'] := by
      simp [hending]
    rw [hpattern, List.prefix_concat_iff] at hfolded
    rcases hfolded with hwhole | hbefore
    · rw [String.toList_append] at hwhole
      exact absurd (List.append_inj_right' hwhole rfl) (by decide)
    · exact hbefore

/-- **A wildcard covers its group.** A pattern `type/*` in lower case that is not too broad answers
exactly if the platform answers for all members of its group. It then finds all extensions of
every member in lower case that begins with `type/` and is no such pattern itself, and that lookup
answers too. It also finds what the tables list for any type or pattern that begins with `type/`,
member or not, that is, what this one finds on a platform that knows nothing. -/
theorem wildcard_covers_group (r : Resolver) (tracing : Bool) {top : String} {g : Group}
    (hfold : Text.lowerAscii top = top) (hnarrow : top ≠ "*")
    (hgroup : r.tables.GroupOf (top ++ "/") g) :
    ((∃ found, (r.extensionsOfType tracing (top ++ "/*")).answer = .ok found) ↔
      ∀ u ∈ g.members, ∃ given, r.platform.registry.extensionsOf (some u) = .ok given) ∧
    ∀ found, (r.extensionsOfType tracing (top ++ "/*")).answer = .ok found →
      (∀ m ∈ g.members, Text.lowerAscii m = m → (top ++ "/").toList <+: m.toList →
        (∀ front, m ≠ front ++ "/*") →
        ∃ found', (r.extensionsOfType tracing m).answer = .ok found' ∧ found' ⊆ found) ∧
      ∀ m, (top ++ "/").toList <+: m.toList →
        ∃ leading asked listed, StandsFor r.tables m leading asked ∧
          ((Resolver.mk r.tables .silent).extensionsOfType tracing m).answer = .ok listed ∧
          (∀ e, e ∈ listed ↔ r.tables.Beginning leading e) ∧ listed ⊆ found := by
  have hstands : StandsFor r.tables (top ++ "/*") (top ++ "/") g.members := by
    have hwildcard := StandsFor.wildcard (t := r.tables) top (g := g) (by rwa [hfold])
    rwa [hfold] at hwildcard
  have hwild : MediaType.isFullWildcard (top ++ "/*") = false :=
    MediaType.not_fullWildcard_of_leading hnarrow ⟨['*'], (MediaType.toList_wildcard top).symm⟩
  have houtcome := outcome_of_standsFor hwild hstands tracing
  refine ⟨houtcome.ok_iff, fun found hfound => ?_⟩
  have hanswered := houtcome.ok_iff.1 ⟨found, hfound⟩
  rw [hfound] at houtcome
  refine ⟨?member, ?listed⟩
  case member =>
    intro m hm hlower hleading hplain
    have hstands' : StandsFor r.tables m m [m] := by
      have hconcrete := StandsFor.concrete (t := r.tables) hplain
      rwa [hlower] at hconcrete
    have houtcome' := outcome_of_standsFor
      (MediaType.not_fullWildcard_of_leading hnarrow hleading) hstands' tracing
    obtain ⟨found', hfound'⟩ :=
      houtcome'.ok_iff.2 (List.forall_mem_singleton.2 (hanswered m hm))
    rw [hfound'] at houtcome'
    refine ⟨found', hfound', fun e he => ?_⟩
    rw [houtcome.mem_iff]
    rcases (houtcome'.mem_iff e).1 he with ⟨u, hu, hgiven⟩ | hlisted
    · exact .inl ⟨m, hm, by rwa [List.mem_singleton.1 hu] at hgiven⟩
    · exact .inr (Tables.beginning_of_prefix hleading hlisted)
  case listed =>
    intro m hleading
    obtain ⟨leading, asked, hstands'⟩ := exists_standsFor r.tables m
    have houtcome' := outcome_of_standsFor (r := ⟨r.tables, .silent⟩)
      (MediaType.not_fullWildcard_of_leading hnarrow hleading) hstands' tracing
    obtain ⟨listed, hlisted, hmem⟩ := houtcome'.of_nothing_given fun u _ => rfl
    refine ⟨leading, asked, listed, hstands', hlisted, hmem, fun e he => ?_⟩
    rw [houtcome.mem_iff]
    exact .inr (Tables.beginning_of_prefix (hstands'.leading_prefix hfold hleading)
      ((hmem e).1 he))

/-- The tables with repeated groups, on a platform that knows one member of one of them. -/
def sparseResolver : Resolver := ⟨repeatedGroups, .custom sparse⟩

/-- The pattern of a repeated leading type finds what the platform gives for a member and what the
tables list, and the pattern of a leading type without a group what they list for a type that is
no member. -/
theorem wildcard_covers_group_repeated :
    Text.lowerAscii "audio" = "audio" ∧ "audio" ≠ "*" ∧
    repeatedGroups.GroupOf ("audio" ++ "/") ⟨some "audio/", ["audio/ogg", "Audio/X"]⟩ ∧
    (∃ found found',
      (sparseResolver.extensionsOfType false ("audio" ++ "/*")).answer = .ok found ∧
      (sparseResolver.extensionsOfType false "audio/ogg").answer = .ok found' ∧
      found' ⊆ found ∧ found' = ["spx", "ogg", "oga"]) ∧
    Text.lowerAscii "text" = "text" ∧ "text" ≠ "*" ∧
    repeatedGroups.GroupOf ("text" ++ "/") repeatedGroups.fallback ∧
    ∃ found listed,
      (sparseResolver.extensionsOfType false ("text" ++ "/*")).answer = .ok found ∧
      ((Resolver.mk repeatedGroups .silent).extensionsOfType false "text/PLAIN").answer =
        .ok listed ∧
      listed ⊆ found ∧ listed = ["txt"] := by
  have haudioFold : Text.lowerAscii "audio" = "audio" := rfl
  have haudioNarrow : "audio" ≠ "*" := by decide
  have haudio : repeatedGroups.GroupOf ("audio" ++ "/")
      ⟨some "audio/", ["audio/ogg", "Audio/X"]⟩ :=
    Tables.groupFor_eq_iff.1 rfl
  have htextFold : Text.lowerAscii "text" = "text" := rfl
  have htextNarrow : "text" ≠ "*" := by decide
  have htext : repeatedGroups.GroupOf ("text" ++ "/") repeatedGroups.fallback :=
    Tables.groupFor_eq_iff.1 rfl
  refine ⟨haudioFold, haudioNarrow, haudio, ?audio, htextFold, htextNarrow, htext, ?text⟩
  case audio =>
    obtain ⟨hok, hcovers⟩ :=
      wildcard_covers_group sparseResolver false haudioFold haudioNarrow haudio
    obtain ⟨found, hfound⟩ := hok.2
      (List.forall_mem_cons.2 ⟨⟨_, rfl⟩, List.forall_mem_singleton.2 ⟨_, rfl⟩⟩)
    have hplain : ∀ front, "audio/ogg" ≠ front ++ "/*" := by
      intro front h
      have hlast := congrArg (fun s => s.toList.getLast?) h
      simp at hlast
    obtain ⟨found', hfound', hsubset⟩ := (hcovers found hfound).1 "audio/ogg" (by decide) rfl
      ⟨"ogg".toList, rfl⟩ hplain
    have hanswer : (sparseResolver.extensionsOfType false "audio/ogg").answer =
        .ok ["spx", "ogg", "oga"] := rfl
    exact ⟨found, found', hfound, hfound', hsubset, Except.ok.inj (hfound'.symm.trans hanswer)⟩
  case text =>
    obtain ⟨hok, hcovers⟩ :=
      wildcard_covers_group sparseResolver false htextFold htextNarrow htext
    obtain ⟨found, hfound⟩ := hok.2 (List.forall_mem_singleton.2 ⟨_, rfl⟩)
    obtain ⟨_, _, listed, -, hlisted, -, hsubset⟩ := (hcovers found hfound).2 "text/PLAIN"
      ⟨"PLAIN".toList, rfl⟩
    have hanswer :
        ((Resolver.mk repeatedGroups .silent).extensionsOfType false "text/PLAIN").answer =
          .ok ["txt"] := rfl
    exact ⟨found, listed, hfound, hlisted, hsubset, Except.ok.inj (hlisted.symm.trans hanswer)⟩

end Resolver

end MediaTypes
