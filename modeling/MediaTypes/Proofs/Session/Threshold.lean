import MediaTypes.Proofs.Session.FailedBuild

/-!
# Levels and the records they let through

A base logger that is configured at a level writes the records that are at least as heavy, so that a
lower level hides nothing. Level 0 sets no level: the root logger's level counts in its place. Where
0 stands against a lower level than that one, just the records between the two are hidden. A logger
that does not stand under the base logger does not depend on the level.

## Main definitions

- `Session.ConfiguredAt` — the ways to configure a base logger at a level
- `Session.Shows` — a record given to a logger is written

## Main statements

- `shows_iff` — the records that a configured base logger lets through
- `lower_level_hides_nothing` — what becomes of a record at a lower level
- `notset_hides_debug` — level 0 is not lower than level 10
-/

namespace MediaTypes

namespace Session

open Log (BaseLogger Format Record)

/-- A base logger that nothing has configured before is configured at a level: by hand, by a factory
that hands out its first logger, or by the first demand for the default resolver where the
environment sets that level. -/
inductive ConfiguredAt : Int → BaseLogger → Prop where
  | asked (format : Format) (level : Int) (stream : String) :
      ConfiguredAt level (({} : BaseLogger).setup format level stream)
  | issued (format : Format) (level : Int) (stream : String) (name : Option String) :
      ConfiguredAt level
        ((Log.Factory.configuring format level stream false).getLogger {} name).base
  | built (host : Host) (time : String) {env : Environment} {settings : Settings} {level : Int}
      (load : Settings.load env = .ok settings) (set : settings.logLevel = some level) :
      ConfiguredAt level ((start env).demand host time).session.logger

/-- A record is let through by the logger it is given to, where loggers of these names are known, so
that something is written for it. -/
def Shows (l : BaseLogger) (known : List String) (time : String) (r : Record) : Prop :=
  (l.actingFor known r.logger).write time r ≠ []

variable {level a b : Int} {l l' : BaseLogger} {known : List String} {time : String} {r : Record}

/-- However it is configured, a base logger has the level asked for and one handler. -/
theorem ConfiguredAt.eq (h : ConfiguredAt level l) :
    ∃ handler, l = ⟨level, [handler], false⟩ := by
  cases h with
  | asked format level stream => exact ⟨⟨stream, format⟩, rfl⟩
  | issued format level stream name => exact ⟨⟨stream, format⟩, rfl⟩
  | @built host time env settings level load set =>
    have hvacant : (start env).current = none := rfl
    have hlogger : ((start env).build host time).session.logger =
        configured settings (start env).logger := logger_build time load
    rw [demand_of_none time hvacant, hlogger, configured, set]
    exact ⟨⟨Log.standardError, if settings.jsonLogs then .json else .plain⟩, rfl⟩

/-- The level that counts where a level is set; level 0 is the root logger's. -/
def threshold (level : Int) : Int :=
  if level = 0 then Log.warning else level

/-- A configured base logger lets a record through that has some weight and is as heavy as its level
asks for. A logger beside it needs a record of warning level. -/
theorem shows_iff (h : ConfiguredAt level l) :
    Shows l known time r ↔
      if Log.isUnderBase known r.logger then 0 < r.level ∧ threshold level ≤ r.level
      else Log.warning ≤ r.level := by
  obtain ⟨handler, rfl⟩ := h.eq
  rw [Shows, BaseLogger.actingFor]
  cases Log.isUnderBase known r.logger with
  | true =>
    simp [BaseLogger.write, BaseLogger.admits, BaseLogger.effectiveLevel, threshold]
  | false =>
    have hweight : Log.warning ≤ r.level → 0 < r.level := by
      intro hle
      have hpos : (0 : Int) < Log.warning := by decide
      omega
    simp [BaseLogger.write, BaseLogger.admits, BaseLogger.effectiveLevel]
    omega

/-- The records that a lower level hides: only level 0 hides any, and just those under the base
logger that are lighter than the root logger's level. -/
theorem hidden_iff (ha : 0 ≤ a) (hab : a ≤ b) (h : ConfiguredAt a l) (h' : ConfiguredAt b l') :
    Shows l' known time r ∧ ¬ Shows l known time r ↔
      (a = 0 ∧ 0 < b) ∧ Log.isUnderBase known r.logger = true ∧
        b ≤ r.level ∧ r.level < Log.warning := by
  rw [shows_iff h, shows_iff h']
  have hwarning : Log.warning = 30 := rfl
  cases Log.isUnderBase known r.logger with
  | true =>
    simp only [if_true, threshold, true_and]
    split <;> split <;> omega
  | false =>
    simp only [Bool.false_eq_true, if_false, false_and, and_false, iff_false, not_and_not_right]
    exact id

/-- **A lower level hides nothing.** For two levels of which none is negative, a record that is
written at the higher one is written at the lower one, whichever logger it is given to and however
the base logger is configured; but level 0 takes the root logger's level, and where it stands
against a lower level than that, just the records between the two levels are hidden. -/
theorem lower_level_hides_nothing (ha : 0 ≤ a) (hab : a ≤ b) (h : ConfiguredAt a l)
    (h' : ConfiguredAt b l') (known : List String) (time : String) :
    ((a = 0 → b = 0 ∨ Log.warning ≤ b) →
      ∀ r, Shows l' known time r → Shows l known time r) ∧
    (a = 0 → 0 < b →
      ∀ r, (Shows l' known time r ∧ ¬ Shows l known time r ↔
        Log.isUnderBase known r.logger = true ∧ b ≤ r.level ∧ r.level < Log.warning)) := by
  constructor
  · intro hlevels r hshown
    by_contra hhidden
    obtain ⟨⟨hzero, hpos⟩, -, hle, hlt⟩ := (hidden_iff ha hab h h').1 ⟨hshown, hhidden⟩
    have := hlevels hzero
    omega
  · intro hzero hpos r
    rw [hidden_iff ha hab h h']
    exact and_iff_right ⟨hzero, hpos⟩

/-- A record of the resolver's logger at a level. -/
def resolverRecord (level : Int) : Record where
  logger := Log.loggerName (some "resolver")
  level := level
  message := "m"

/-- An environment that sets level 0 by its name. -/
def notsetEnvironment : Environment :=
  Dictionary.ofList [(Settings.levelVariable, "NotSet")]

theorem configuredAt_debug :
    ConfiguredAt 10 ((start debugEnvironment).demand {} "").session.logger := by
  have hload : Settings.load debugEnvironment = .ok ⟨"system", some 10, false⟩ := by
    decide +kernel
  exact .built {} "" hload rfl

theorem configuredAt_notset :
    ConfiguredAt 0 ((start notsetEnvironment).demand {} "").session.logger := by
  have hload : Settings.load notsetEnvironment = .ok ⟨"system", some 0, false⟩ := by
    decide +kernel
  exact .built {} "" hload rfl

/-- What is written at level 20 is written at level 10; at level 0, a record of level 20 is hidden
that is written at level 10, and one of level 30 is not. -/
theorem lower_level_hides_nothing_named :
    Shows ((start debugEnvironment).demand {} "").session.logger [] "" (resolverRecord 20) ∧
    (Shows ((start debugEnvironment).demand {} "").session.logger [] "" (resolverRecord 20) ∧
      ¬ Shows ((start notsetEnvironment).demand {} "").session.logger [] "" (resolverRecord 20)) ∧
    ¬ (Shows ((start debugEnvironment).demand {} "").session.logger [] "" (resolverRecord 30) ∧
      ¬ Shows ((start notsetEnvironment).demand {} "").session.logger [] ""
        (resolverRecord 30)) := by
  have hsetup : ConfiguredAt 20 (({} : BaseLogger).setup .json 20 "out") := .asked .json 20 "out"
  have hshown : Shows (({} : BaseLogger).setup .json 20 "out") [] "" (resolverRecord 20) := by
    rw [shows_iff hsetup]
    decide
  obtain ⟨hkept, -⟩ :=
    lower_level_hides_nothing (by decide) (by decide) configuredAt_debug hsetup [] ""
  obtain ⟨-, hnotset⟩ :=
    lower_level_hides_nothing (by decide) (by decide) configuredAt_notset configuredAt_debug [] ""
  refine ⟨hkept (by decide) _ hshown, ?_, ?_⟩
  · rw [hnotset rfl (by decide)]
    decide
  · rw [hnotset rfl (by decide)]
    decide

/-- Level 0 is not lower than level 10. -/
theorem notset_hides_debug :
    ¬ ∀ (a b : Int) (l l' : BaseLogger), 0 ≤ a → a ≤ b → ConfiguredAt a l → ConfiguredAt b l' →
      ∀ known time r, Shows l' known time r → Shows l known time r := by
  intro hall
  have hzero : ConfiguredAt 0 (({} : BaseLogger).setup .plain 0 "out") := .asked .plain 0 "out"
  have hten : ConfiguredAt 10 (({} : BaseLogger).setup .plain 10 "out") := .asked .plain 10 "out"
  have hkept := hall 0 10 _ _ (by decide) (by decide) hzero hten [] "" (resolverRecord 10)
  rw [shows_iff hzero, shows_iff hten] at hkept
  exact absurd hkept (by decide)

end Session

end MediaTypes
