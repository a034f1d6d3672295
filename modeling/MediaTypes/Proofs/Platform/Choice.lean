import MediaTypes.Proofs.Platform.Loading
import MediaTypes.Proofs.Platform.Plugin

/-!
# Which platform is chosen

Every name comes to one of five things: no registry, the system's database, the registry that a
plugin supplies, or, where a plugin is asked for and supplies none, the system's database after a
report, unless what the plugin raises passes on. The files of the system's database are read only
where it is used, and after the report.

## Main definitions

- `Platform.Chosen` — what a name comes to
- `Platform.DatabaseFails` — why the system's database cannot be made

## Main statements

- `choose_eq_iff` — the choice is what the name comes to
- `failure_of_choose` — why a choice fails
- `platform_by_name` — the choice, where the known files can be decoded
-/

namespace MediaTypes

theorem Plugin.Finds.colon_mem {modules : Modules} {reference : String} {found : Attribute}
    (h : Finds modules reference found) : ':' ∈ reference.toList := by
  obtain ⟨names, -, -⟩ := h
  rw [names.parts]
  simp

theorem Plugin.BreaksOff.colon_mem {modules : Modules} {reference : String} {raised : Raised}
    (h : BreaksOff modules reference raised) : ':' ∈ reference.toList := by
  rcases h with ⟨names, -, -⟩ | ⟨names, -, -⟩
  all_goals
    rw [names.parts]
    simp

theorem Plugin.Supplies.colon_mem {modules : Modules} {reference : String} {registry : Registry}
    (h : Supplies modules reference registry) : ':' ∈ reference.toList := by
  obtain ⟨finds, -⟩ := h
  exact finds.colon_mem

theorem Plugin.Escapes.colon_mem {modules : Modules} {reference : String} {raised : Raised}
    (h : Escapes modules reference raised) : ':' ∈ reference.toList := by
  rcases h with ⟨h, -⟩ | ⟨finds, -, -⟩ | ⟨finds, -⟩
  · exact h.colon_mem
  · exact finds.colon_mem
  · exact finds.colon_mem

theorem Plugin.Refused.level_eq {modules : Modules} {reference : String} {event : Log.Event}
    (h : Refused modules reference event) : event.level = Log.warning := by
  cases h <;> rfl

namespace Platform

open MimeFile (AllDecodable Blocks Undecodable refusals)
open Plugin (Finds BreaksOff Supplies Refused Escapes Unavailable)

/-- What a name comes to. -/
inductive Chosen (host : Host) : String → Choice → Prop where
  | silent : Chosen host "none" ⟨[], .ok .silent, false⟩
  | system : Chosen host "system" (ofHost host)
  | plugin {name : String} {registry : Registry}
      (supplies : Supplies host.modules name registry) :
      Chosen host name ⟨[], .ok (.custom registry), false⟩
  /-- A plugin that supplies no registry gives way to the system's database. -/
  | fallback {name : String} {event : Log.Event} (asked : name ≠ "none" ∧ name ≠ "system")
      (refused : Refused host.modules name event) : Chosen host name ((ofHost host).after event)
  /-- What is raised in the use of a plugin passes on. -/
  | escape {name : String} {raised : Plugin.Raised} (escapes : Escapes host.modules name raised) :
      Chosen host name ⟨[], .error (.raised raised), false⟩

variable {host : Host} {name : String}

/-- The names of the built-in platforms are no references. -/
theorem asked_of_colon_mem (h : ':' ∈ name.toList) : name ≠ "none" ∧ name ≠ "system" := by
  constructor
  all_goals
    rintro rfl
    exact absurd h (by decide)

/-- Where a plugin is asked for, the choice is what its use comes to. -/
theorem choose_of_asked (asked : name ≠ "none" ∧ name ≠ "system") :
    choose host name = ofUse host (ofPlugin host.modules name) := by
  have hnone : name ≠ Settings.noPlatform := asked.1
  have hsystem : name ≠ Settings.systemPlatform := asked.2
  rw [choose, if_neg hnone, if_neg hsystem]

theorem chosen_choose (host : Host) (name : String) : Chosen host name (choose host name) := by
  by_cases hnone : name = "none"
  · subst hnone
    exact .silent
  by_cases hsystem : name = "system"
  · subst hsystem
    exact .system
  have asked : name ≠ "none" ∧ name ≠ "system" := ⟨hnone, hsystem⟩
  rw [choose_of_asked asked]
  cases hused : ofPlugin host.modules name with
  | registry registry => exact .plugin (ofPlugin_eq_registry_iff.1 hused)
  | reported event => exact .fallback asked (ofPlugin_eq_reported_iff.1 hused)
  | escaped raised => exact .escape (ofPlugin_eq_escaped_iff.1 hused)

/-- The choice is what the name comes to. -/
theorem choose_eq_iff {c : Choice} : choose host name = c ↔ Chosen host name c := by
  constructor
  · rintro rfl
    exact chosen_choose host name
  · rintro (_ | _ | supplies | ⟨asked, refused⟩ | escapes)
    · rfl
    · rfl
    · rw [choose_of_asked (asked_of_colon_mem supplies.colon_mem),
        ofPlugin_eq_registry_iff.2 supplies, ofUse]
    · rw [choose_of_asked asked, ofPlugin_eq_reported_iff.2 refused, ofUse]
    · rw [choose_of_asked (asked_of_colon_mem escapes.colon_mem),
        ofPlugin_eq_escaped_iff.2 escapes, ofUse]

/-- A known file keeps the system's database from being made: one that cannot be decoded, or one
that cannot be opened and is read because the process has not got its own table yet. -/
def DatabaseFails (host : Host) (failure : Database.Failure) : Prop :=
  ∃ name ∈ host.knownFiles, Blocks host.files name failure ∧
    (host.prepared = true → failure = .undecodable ⟨name⟩)

theorem databaseFails_of_ofHost {failure : Failure} (h : (ofHost host).outcome = .error failure) :
    ∃ fault, failure = .database fault ∧ DatabaseFails host fault := by
  rw [ofHost, ofFiles] at h
  by_cases hready : Database.Ready host.prepared host.files host.knownFiles
  · rw [Database.construct_of_ready hready] at h
    cases hload : (Database.load host.files host.knownFiles).2 with
    | ok db =>
      rw [hload] at h
      cases h
    | error file =>
      rw [hload] at h
      obtain ⟨hmem, hbad⟩ := Database.undecodable_of_load hload
      exact ⟨_, (Except.error.inj h).symm, file.name, hmem, .undecodable hbad, fun _ => rfl⟩
  · obtain ⟨before, name, after, fault, hknown, -, hblocks, hfails⟩ :=
      Database.construct_of_not_ready hready
    rw [hfails] at h
    have hmem : name ∈ host.knownFiles := by
      rw [hknown]
      exact List.mem_append_right _ List.mem_cons_self
    exact ⟨fault, (Except.error.inj h).symm, name, hmem, hblocks,
      fun hprepared => absurd (.inl hprepared) hready⟩

theorem system_of_ofHost {platform : Platform} (h : (ofHost host).outcome = .ok platform) :
    ∃ db, platform = .system db := by
  rw [ofHost, ofFiles] at h
  rcases hmade :
      (Database.construct host.prepared host.files host.knownFiles host.knownFiles).2 with
    failure | db
  · rw [hmade] at h
    cases h
  · rw [hmade] at h
    exact ⟨db, (Except.ok.inj h).symm⟩

/-- A choice fails at what a plugin raises or at a known file. -/
theorem failure_of_choose {failure : Failure} (h : (choose host name).outcome = .error failure) :
    (∃ raised, failure = .raised raised ∧ Escapes host.modules name raised) ∨
      ∃ fault, failure = .database fault ∧ DatabaseFails host fault := by
  have hchosen := chosen_choose host name
  generalize choose host name = c at h hchosen
  cases hchosen with
  | silent => cases h
  | system => exact .inr (databaseFails_of_ofHost h)
  | plugin => cases h
  | fallback => exact .inr (databaseFails_of_ofHost h)
  | escape escapes => exact .inl ⟨_, (Except.error.inj h).symm, escapes⟩

/-- A choice that fails at a known file has asked for the system's database. -/
theorem prepares_of_database {fault : Database.Failure}
    (h : (choose host name).outcome = .error (.database fault)) :
    (choose host name).prepares = true := by
  have hchosen := chosen_choose host name
  generalize choose host name = c at h hchosen
  cases hchosen with
  | silent | plugin | escape => cases h
  | system | fallback => rfl

/-- The kind of the platform tells what the name has come to. -/
theorem platform_cases {platform : Platform} (h : (choose host name).outcome = .ok platform) :
    (platform = .silent ∧ name = "none") ∨
      (∃ registry, platform = .custom registry ∧ Supplies host.modules name registry) ∨
      ∃ db, platform = .system db := by
  have hchosen := chosen_choose host name
  generalize choose host name = c at h hchosen
  cases hchosen with
  | silent => exact .inl ⟨(Except.ok.inj h).symm, rfl⟩
  | system => exact .inr (.inr (system_of_ofHost h))
  | plugin supplies => exact .inr (.inl ⟨_, (Except.ok.inj h).symm, supplies⟩)
  | fallback => exact .inr (.inr (system_of_ofHost h))
  | escape => cases h

/-- Where nothing keeps it from being made, the system's database is made, after a report of every
file that cannot be opened. -/
theorem ofHost_eq (hready : Database.Ready host.prepared host.files host.knownFiles)
    (h : AllDecodable host.files host.knownFiles) :
    ∃ db, Database.load host.files host.knownFiles =
        (refusals host.files host.knownFiles, .ok db) ∧
      ofHost host = ⟨refusals host.files host.knownFiles, .ok (.system db), true⟩ := by
  refine ⟨_, Database.load_eq_of_allDecodable h, ?_⟩
  rw [ofHost, ofFiles, Database.construct_of_allDecodable hready h]
  rfl

/-- **Which platform is chosen.** Let the known files be decodable, and let the process have its own
table of types or all known files be readable. Then a name comes to a platform unless what a plugin
raises passes on. It is the one without entries for the name `none` alone, and a plugin's registry
exactly for the references that a registry comes of, in both cases without a report. It is the
system's database for the name `system`, after a report of each file that cannot be opened, and in
every case that is left, with one report before these of why the plugin gives way. What passes on is
what asks the process to end, in loading, lookup or call, and whatever is raised by the check for a
registry. The search for an attribute ends with the attribute that the reference leads to, or with
one of the reasons why it leads to none, or with what breaks it off: loading that asks the process
to end, and a lookup that fails in whatever way. -/
theorem platform_by_name (host : Host)
    (hready : Database.Ready host.prepared host.files host.knownFiles)
    (hfiles : AllDecodable host.files host.knownFiles) :
    ∃ db, Database.load host.files host.knownFiles =
        (refusals host.files host.knownFiles, .ok db) ∧
      (∀ event ∈ refusals host.files host.knownFiles,
        ∃ file reason, event = .unreadableFile file reason) ∧
      (∀ name, (∃ platform, (choose host name).outcome = .ok platform) ∨
        ∃ raised, (choose host name).outcome = .error (.raised raised)) ∧
      (∀ name, (choose host name).outcome = .ok .silent ↔ name = "none") ∧
      (∀ name registry, (choose host name).outcome = .ok (.custom registry) ↔
        Supplies host.modules name registry) ∧
      choose host "none" = ⟨[], .ok .silent, false⟩ ∧
      choose host "system" = ⟨refusals host.files host.knownFiles, .ok (.system db), true⟩ ∧
      (∀ name registry, Supplies host.modules name registry →
        choose host name = ⟨[], .ok (.custom registry), false⟩) ∧
      (∀ name, name ≠ "none" → name ≠ "system" →
        (∀ registry, ¬ Supplies host.modules name registry) →
        (∀ raised, ¬ Escapes host.modules name raised) →
        ∃ event, Refused host.modules name event ∧ event.level = Log.warning ∧
          choose host name =
            ⟨event :: refusals host.files host.knownFiles, .ok (.system db), true⟩) ∧
      (∀ name raised, (choose host name).outcome = .error (.raised raised) ↔
        Escapes host.modules name raised) ∧
      (∀ reference found, Plugin.find host.modules (some reference) = .ok found ↔
        Finds host.modules reference found) ∧
      (∀ reference error, Plugin.find host.modules reference = .error (.reference error) ↔
        Unavailable host.modules reference error) ∧
      ∀ reference raised, Plugin.find host.modules reference = .error (.escaped raised) ↔
        ∃ text, reference = some text ∧ BreaksOff host.modules text raised := by
  obtain ⟨db, hload, hsystem⟩ := ofHost_eq hready hfiles
  have hescape : ∀ name raised, (choose host name).outcome = .error (.raised raised) ↔
      Escapes host.modules name raised := by
    intro name raised
    constructor
    · intro h
      rcases failure_of_choose h with ⟨_, ⟨⟩, escapes⟩ | ⟨_, ⟨⟩, -⟩
      exact escapes
    · intro escapes
      rw [choose_eq_iff.2 (.escape escapes)]
  refine ⟨db, hload, ?refusals, ?total, ?silent, ?custom, rfl, hsystem,
    fun name registry supplies => choose_eq_iff.2 (.plugin supplies), ?fallback, hescape,
    fun reference found => Plugin.find_eq_ok_iff,
    fun reference error => Plugin.find_eq_reference_iff,
    fun reference raised => Plugin.find_eq_escaped_iff⟩
  case refusals =>
    intro event hevent
    obtain ⟨file, -, reason, -, hreason⟩ := MimeFile.exists_of_mem_refusals hevent
    exact ⟨file, reason, hreason⟩
  case total =>
    intro name
    have hchosen := chosen_choose host name
    generalize choose host name = c at hchosen
    cases hchosen with
    | silent => exact .inl ⟨_, rfl⟩
    | system => exact .inl ⟨.system db, by rw [hsystem]⟩
    | plugin => exact .inl ⟨_, rfl⟩
    | fallback => exact .inl ⟨.system db, by rw [hsystem, Choice.after]⟩
    | escape => exact .inr ⟨_, rfl⟩
  case silent =>
    intro name
    constructor
    · intro h
      rcases platform_cases h with ⟨-, hname⟩ | ⟨_, hplatform, -⟩ | ⟨_, hplatform⟩
      · exact hname
      all_goals cases hplatform
    · rintro rfl
      rfl
  case custom =>
    intro name registry
    constructor
    · intro h
      rcases platform_cases h with ⟨hplatform, -⟩ | ⟨registry', hplatform, supplies⟩ |
        ⟨_, hplatform⟩
      · cases hplatform
      · obtain rfl := Platform.custom.inj hplatform
        exact supplies
      · cases hplatform
    · intro supplies
      rw [choose_eq_iff.2 (.plugin supplies)]
  case fallback =>
    intro name hnone hsys hsupplies hescapes
    obtain ⟨used, hused⟩ := exists_used host.modules name
    cases hused with
    | registry supplies => exact absurd supplies (hsupplies _)
    | escaped escapes => exact absurd escapes (hescapes _)
    | reported refused =>
      refine ⟨_, refused, refused.level_eq, ?_⟩
      rw [choose_eq_iff.2 (.fallback ⟨hnone, hsys⟩ refused), hsystem]
      rfl

/-- A host with a module of three attributes, the name of one of which has a colon, and with a known
file that cannot be opened. A fourth attribute asks the process to end when it is called. -/
def pluginHost : Host where
  files := [("locked.types", .unopenable "Permission denied")]
  knownFiles := ["gone.types", "locked.types"]
  modules := [("plugins", .loaded { entries := [("a:b", .registryClass .refusing),
    ("failing", .raising ⟨"RuntimeError", "no registry today", false⟩), ("plain", .object .other),
    ("exit", .raising ⟨"SystemExit", "", true⟩)] })]
  prepared := true

theorem platform_by_name_pluginHost :
    Database.Ready pluginHost.prepared pluginHost.files pluginHost.knownFiles ∧
    AllDecodable pluginHost.files pluginHost.knownFiles ∧
    choose pluginHost "plugins:a:b" = ⟨[], .ok (.custom .refusing), false⟩ ∧
    (∃ db, choose pluginHost "plugins:failing" =
      ⟨[.registryNotLoaded "plugins:failing" "no registry today",
        .unreadableFile "locked.types" "Permission denied"], .ok (.system db), true⟩) ∧
    (∃ db, choose pluginHost "plugins:plain" =
      ⟨[.notARegistry "plugins:plain",
        .unreadableFile "locked.types" "Permission denied"], .ok (.system db), true⟩) ∧
    (choose pluginHost "plugins:exit").outcome = .error (.raised ⟨"SystemExit", "", true⟩) := by
  have hready : Database.Ready pluginHost.prepared pluginHost.files pluginHost.knownFiles :=
    .inl rfl
  have hfiles : AllDecodable pluginHost.files pluginHost.knownFiles :=
    List.forall_mem_cons.2 ⟨nofun, List.forall_mem_singleton.2 nofun⟩
  obtain ⟨db, -, -, -, -, -, -, -, hplugin, hfallback, hescape, -⟩ :=
    platform_by_name pluginHost hready hfiles
  have hreported : ∀ name event, name ≠ "none" → name ≠ "system" →
      ofPlugin pluginHost.modules name = .reported event →
      choose pluginHost name = ⟨[event, .unreadableFile "locked.types" "Permission denied"],
        .ok (.system db), true⟩ := by
    intro name event hnone hsystem hreport
    have hsupplies : ∀ registry, ¬ Supplies pluginHost.modules name registry := by
      intro registry supplies
      rw [← ofPlugin_eq_registry_iff, hreport] at supplies
      cases supplies
    have hescapes : ∀ raised, ¬ Escapes pluginHost.modules name raised := by
      intro raised escapes
      rw [← ofPlugin_eq_escaped_iff, hreport] at escapes
      cases escapes
    obtain ⟨event', refused, -, hchoice⟩ := hfallback name hnone hsystem hsupplies hescapes
    rw [← ofPlugin_eq_reported_iff, hreport] at refused
    obtain rfl := Use.reported.inj refused
    exact hchoice
  exact ⟨hready, hfiles, hplugin _ _ (ofPlugin_eq_registry_iff.1 rfl),
    ⟨db, hreported _ _ (by decide) (by decide) rfl⟩,
    ⟨db, hreported _ _ (by decide) (by decide) rfl⟩,
    (hescape _ _).2 (ofPlugin_eq_escaped_iff.1 rfl)⟩

/-- A module that has its own way to look up attributes, which cannot even be called. -/
def brokenLookup : Plugin.Modules :=
  [("m", .loaded
    { entries := [("__getattr__", .object .other)]
      fallback := fun _ => .error ⟨"TypeError", "'int' object is not callable", false⟩ })]

/-- A search may fail with something else than a reason why the reference leads to no attribute. -/
theorem find_fails_otherwise :
    ¬ ∀ (modules : Plugin.Modules) (reference : Option String) (error : Plugin.FindError),
      Plugin.find modules reference = .error error → ∃ reason, error = .reference reason := by
  intro h
  obtain ⟨reason, hreason⟩ := h brokenLookup (some "m:x")
    (.escaped ⟨"TypeError", "'int' object is not callable", false⟩) rfl
  cases hreason

end Platform

end MediaTypes
