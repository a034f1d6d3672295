import MediaTypes.Proofs.Platform.Choice
import MediaTypes.Proofs.Session.Run

/-!
# What a failed build leaves behind

A build reads the settings, sets up the base logger, and then makes the platform. If the settings
have a fault then nothing has changed. All that fails at the platform is found later, be it a known
file that cannot be read or what a plugin raises: the base logger is already set up as the settings
ask for, and it stays so. There is still no default resolver, and no resolver was made.

## Main definitions

- `Session.configured` — the base logger that settings ask for

## Main statements

- `logger_build` — what a build does to the base logger
- `session_of_failed_demand` — the state after a failed build
- `configuration_not_restored` — that state is not always the one before
-/

namespace MediaTypes

namespace Session

/-- The base logger that settings ask for: one at their level and, if it has no handler yet, with
one of their format on the standard error stream. Settings without a level ask for nothing. -/
def configured (settings : Settings) (logger : Log.BaseLogger) : Log.BaseLogger :=
  match settings.logLevel with
  | none => logger
  | some level =>
    logger.setup (if settings.jsonLogs then .json else .plain) level Log.standardError

variable (host : Host) (time : String) {s : Session} {settings : Settings}

/-- The second logger that a build asks for finds the base logger set up by the first one. -/
theorem base_getLogger_factoryFor (settings : Settings) (logger : Log.BaseLogger)
    (first second : Option String) :
    let issued := (factoryFor settings).getLogger logger first
    (issued.factory.getLogger issued.base second).base = configured settings logger := by
  rw [factoryFor, configured]
  cases settings.logLevel <;> rfl

theorem build_of_fault {fault : SettingsError} (h : Settings.load s.environment = .error fault) :
    s.build host time = ⟨s, [], .error (.settings fault)⟩ := by
  rw [build, h]

variable {host}

theorem build_of_refused (h : Settings.load s.environment = .ok settings)
    {failure : Platform.Failure}
    (hchoice : (Platform.choose (s.onHost host) settings.platform).outcome = .error failure) :
    (s.build host time).session =
        { s.prepare (Platform.choose (s.onHost host) settings.platform) with
          logger := configured settings s.logger } ∧
      (s.build host time).result = .error (.platform failure) := by
  have hlogger := base_getLogger_factoryFor settings s.logger (some "resolver") (some "platform")
  simp only [build, h, hchoice, hlogger, and_self]

theorem build_of_chosen (h : Settings.load s.environment = .ok settings) {platform : Platform}
    (hchoice : (Platform.choose (s.onHost host) settings.platform).outcome = .ok platform) :
    (s.build host time).session.logger = configured settings s.logger := by
  have hlogger := base_getLogger_factoryFor settings s.logger (some "resolver") (some "platform")
  simp only [build, h, hchoice, hlogger, keep]

/-- A build sets up the base logger as the settings ask for, whatever becomes of it. -/
theorem logger_build (h : Settings.load s.environment = .ok settings) :
    (s.build host time).session.logger = configured settings s.logger := by
  cases hchoice : (Platform.choose (s.onHost host) settings.platform).outcome with
  | error failure => rw [(build_of_refused time h hchoice).1]
  | ok platform => exact build_of_chosen time h hchoice

/-- **What a failed build leaves behind.** A build that fails finds no default resolver and leaves
none. A fault in the settings leaves everything as it was. Any other failure is what a plugin raises
and hands on, or a known file that cannot be read; it leaves everything as it was but two things.
The base logger is set up as the settings ask for, if they ask for it, as it is by a build that
succeeds. And once known files have been read, the process has its own table of types. A step that
needed the resolver hands on the failure and changes nothing more. -/
theorem session_of_failed_demand (host : Host) (time : String) (s : Session) {failure : Failure}
    (h : (s.demand host time).result = .error failure) :
    s.current = none ∧
      (s.demand host time).session.current = none ∧
      ((∃ fault, Settings.load s.environment = .error fault ∧ failure = .settings fault ∧
          (s.demand host time).session = s) ∨
        ∃ settings, Settings.load s.environment = .ok settings ∧
          ((∃ raised, failure = .platform (.raised raised) ∧
              Plugin.Escapes host.modules settings.platform raised ∧
              (s.demand host time).session =
                { s with logger := configured settings s.logger }) ∨
            ∃ fault, failure = .platform (.database fault) ∧
              Platform.DatabaseFails (s.onHost host) fault ∧
              (s.demand host time).session =
                { s with logger := configured settings s.logger, prepared := true })) ∧
      ∀ call : Step, call.Demands →
        (s.step host time call).1 = (s.demand host time).session ∧
          (s.step host time call).2.result = .error failure := by
  have hvacant : s.current = none := by
    cases hcurrent : s.current with
    | none => rfl
    | some i =>
      rw [demand_of_some time hcurrent] at h
      cases h
  have hsteps : ∀ call : Step, call.Demands →
      (s.step host time call).1 = (s.demand host time).session ∧
        (s.step host time call).2.result = .error failure := by
    rintro call (_ | question)
    · simp only [step, showDefault, h, and_self]
    · simp only [step, answer, h, and_self]
  rw [demand_of_none time hvacant] at h hsteps ⊢
  cases hload : Settings.load s.environment with
  | error fault =>
    -- nothing has been set up yet
    rw [build_of_fault host time hload] at h hsteps ⊢
    exact ⟨hvacant, hvacant, .inl ⟨fault, rfl, (Except.error.inj h).symm, rfl⟩, hsteps⟩
  | ok settings =>
    cases hchoice : (Platform.choose (s.onHost host) settings.platform).outcome with
    | ok platform =>
      have hdescribed : s.describedNow host = .ok ⟨Tables.standard, platform⟩ := by
        simp only [describedNow, described, hload, hchoice]
      rw [(build_of_described_ok time hdescribed).1] at h
      cases h
    | error reason =>
      -- the base logger has been set up before the platform was chosen
      obtain ⟨hsession, hresult⟩ := build_of_refused time hload hchoice
      obtain rfl := Except.error.inj (h.symm.trans hresult)
      have hnext : (s.build host time).session.current = none := by
        rw [hsession]
        exact hvacant
      refine ⟨hvacant, hnext, .inr ⟨settings, rfl, ?_⟩, hsteps⟩
      rcases Platform.failure_of_choose hchoice with ⟨raised, rfl, escapes⟩ | ⟨fault, rfl, hfails⟩
      · refine .inl ⟨raised, rfl, escapes, ?_⟩
        rw [hsession, Platform.choose_eq_iff.2 (.escape escapes), prepare, Bool.or_false]
      · refine .inr ⟨fault, rfl, hfails, ?_⟩
        rw [hsession, prepare, Platform.prepares_of_database hchoice, Bool.or_true]

/-- A system with a known mime file whose one byte is no UTF-8. -/
def undecodableHost : Host :=
  { files := [("bad", .content ⟨#[0xff]⟩)], knownFiles := ["bad"] }

/-- An environment that sets a level to log at. -/
def debugEnvironment : Environment :=
  Dictionary.ofList [(Settings.levelVariable, "debug")]

/-- The first question of a run finds that mime file, and leaves the base logger with a level and a
handler. -/
theorem session_of_failed_demand_undecodable :
    ((start debugEnvironment).demand undecodableHost "").result =
        .error (.platform (.database (.undecodable ⟨"bad"⟩))) ∧
      ((start debugEnvironment).demand undecodableHost "").session =
        { start debugEnvironment with
          logger := ⟨10, [⟨Log.standardError, .plain⟩], false⟩, prepared := true } ∧
      ((start debugEnvironment).step undecodableHost "" (.ask (.typeOf "png"))).2.result =
        .error (.platform (.database (.undecodable ⟨"bad"⟩))) := by
  have hload : Settings.load debugEnvironment = .ok ⟨"system", some 10, false⟩ := by
    decide +kernel
  have hresult : ((start debugEnvironment).demand undecodableHost "").result =
      .error (.platform (.database (.undecodable ⟨"bad"⟩))) := rfl
  obtain ⟨-, -, hfault | ⟨settings, hsettings, hraised | hdatabase⟩, hsteps⟩ :=
    session_of_failed_demand undecodableHost "" (start debugEnvironment) hresult
  · obtain ⟨fault, hfault, -⟩ := hfault
    exact nomatch hload.symm.trans hfault
  · obtain ⟨raised, ⟨⟩, -⟩ := hraised
  · obtain ⟨fault, -, -, hsession⟩ := hdatabase
    obtain rfl := Except.ok.inj (hload.symm.trans hsettings)
    exact ⟨hresult, hsession, (hsteps _ (.ask (.typeOf "png"))).2⟩

/-- A build that fails does not always leave the base logger as it was. -/
theorem configuration_not_restored :
    ¬ ∀ (host : Host) (time : String) (env : Environment) (history : List Step)
      (failure : Failure),
      ((reached host time env history).demand host time).result = .error failure →
        ((reached host time env history).demand host time).session.current =
            (reached host time env history).current ∧
          ((reached host time env history).demand host time).session.logger =
            (reached host time env history).logger := by
  intro h
  obtain ⟨-, hlogger⟩ := h undecodableHost "" debugEnvironment []
    (.platform (.database (.undecodable ⟨"bad"⟩))) rfl
  have hlevel : ((reached undecodableHost "" debugEnvironment []).demand
      undecodableHost "").session.logger.level = 10 := by
    rfl
  rw [hlogger] at hlevel
  cases hlevel

end Session

end MediaTypes
