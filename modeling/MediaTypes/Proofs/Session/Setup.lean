import MediaTypes.Proofs.Log.Setup
import MediaTypes.Proofs.Session.Lifecycle
import MediaTypes.Proofs.Session.Streams

/-!
# Setups in a run

The base logger is set up by a step that asks for it, by the first logger that a configuring factory
hands out, and by the build of a default resolver from settings with a level. Which steps of a run
do so can be read off its history. The base logger that a run reaches is the one that these setups
leave, so that it never has a second handler, and a record is written at most once.

## Main definitions

- `Session.Unused` — a configuring factory that has not handed out a logger yet
- `Session.Causes` — a step causes a setup
- `Session.Setups` — all setups of a history

## Main statements

- `unused_iff` — the factories of a session are those that its history leaves
- `leftBy_reached` — the base logger is the one that the setups of the history leave
- `one_handler_configured_once` — one handler, configured once
-/

namespace MediaTypes

namespace Session

open Log (Setup)

/-- A factory of this name has been made to set up the base logger, and has not handed out a logger
since. -/
inductive Unused (id : String) : List Step → Setup → Prop where
  | made (earlier : List Step) (c : Setup) :
      Unused id (earlier ++ [.makeFactory id (.configuring c.format c.level c.stream false)]) c
  | still {earlier : List Step} {c : Setup} {x : Step} (h : Unused id earlier c)
      (make : ∀ f, x ≠ .makeFactory id f) (issue : ∀ name, x ≠ .issueLogger id name) :
      Unused id (earlier ++ [x]) c

/-- A step that follows a history causes a setup of the base logger. -/
inductive Causes (host : Host) (time : String) (env : Environment) (history : List Step) :
    Step → Setup → Prop where
  | asked (c : Setup) : Causes host time env history (.setupLogging c.format c.level c.stream) c
  | issued {id : String} {c : Setup} (h : Unused id history c) (name : Option String) :
      Causes host time env history (.issueLogger id name) c
  /-- A step needs a default resolver where there is none, and the settings have a level. The
  resolver may have a fault that is found later. -/
  | built {call : Step} {settings : Settings} {level : Int} (demands : call.Demands)
      (vacant : Vacant host time env history)
      (load : Settings.load (environmentAfter env history) = .ok settings)
      (hlevel : settings.logLevel = some level) :
      Causes host time env history call
        ⟨if settings.jsonLogs then .json else .plain, level, Log.standardError⟩

/-- The setups that the steps of a history cause, in order. -/
inductive Setups (host : Host) (time : String) (env : Environment) :
    List Step → List Setup → Prop where
  | start : Setups host time env [] []
  | call {earlier : List Step} {calls : List Setup} {x : Step} {c : Setup}
      (h : Setups host time env earlier calls) (causes : Causes host time env earlier x c) :
      Setups host time env (earlier ++ [x]) (calls ++ [c])
  | still {earlier : List Step} {calls : List Setup} {x : Step}
      (h : Setups host time env earlier calls) (quiet : ∀ c, ¬ Causes host time env earlier x c) :
      Setups host time env (earlier ++ [x]) calls

variable {host : Host} {time : String} {env : Environment} {history : List Step} {x : Step}
  {id : String} {c : Setup} {calls : List Setup}

theorem not_unused_nil : ¬ Unused id [] c := by
  intro h
  generalize hsteps : ([] : List Step) = steps at h
  cases h with
  | made => exact List.concat_ne_nil _ _ hsteps.symm
  | still => exact List.concat_ne_nil _ _ hsteps.symm

/-- A factory is unused if the last step has made it, or if it was before and the last step has
neither replaced nor used it. -/
theorem unused_concat_iff :
    Unused id (history ++ [x]) c ↔
      x = .makeFactory id (.configuring c.format c.level c.stream false) ∨
        Unused id history c ∧ (∀ f, x ≠ .makeFactory id f) ∧ ∀ name, x ≠ .issueLogger id name := by
  constructor
  · intro h
    generalize hsteps : history ++ [x] = steps at h
    cases h with
    | made earlier => exact .inl (List.append_singleton_inj.1 hsteps).2
    | still h make issue =>
      obtain ⟨rfl, rfl⟩ := List.append_singleton_inj.1 hsteps
      exact .inr ⟨h, make, issue⟩
  · rintro (rfl | ⟨h, make, issue⟩)
    · exact .made history c
    · exact h.still make issue

/-- A factory that has handed out a logger is not unused until it is replaced. -/
theorem not_unused_of_issued (name : Option String) {between : List Step}
    (make : ∀ f, .makeFactory id f ∉ between) :
    ¬ Unused id (history ++ .issueLogger id name :: between) c := by
  induction between using List.reverseRecOn with
  | nil =>
    rw [unused_concat_iff]
    rintro (h | ⟨-, -, issue⟩)
    · cases h
    · exact issue name rfl
  | append_singleton between x ih =>
    rw [← List.cons_append, ← List.append_assoc, unused_concat_iff]
    rintro (rfl | ⟨h, -⟩)
    · exact make _ (List.mem_append_right between (List.mem_singleton_self _))
    · exact ih (fun f hf => make f (List.mem_append_left [x] hf)) h

section

variable (host) (time) (s : Session)

theorem factories_demand : (s.demand host time).session.factories = s.factories := by
  cases h : s.current with
  | some i => rw [demand_of_some time h]
  | none => rw [demand_of_none time h, (output_build host time s).2]

theorem logging_of_demands {call : Step} (hcall : call.Demands) :
    (s.step host time call).1.logger = (s.demand host time).session.logger ∧
      (s.step host time call).1.factories = s.factories := by
  rw [← factories_demand host time s]
  cases hcall with
  | showDefault =>
    rw [step, showDefault]
    cases (s.demand host time).result <;> exact ⟨rfl, rfl⟩
  | ask question =>
    rw [step, answer]
    cases (s.demand host time).result <;> exact ⟨rfl, rfl⟩

theorem logging_of_make (source : Platform.Source) (tables : Option Tables) :
    (s.step host time (.make source tables)).1.logger = s.logger ∧
      (s.step host time (.make source tables)).1.factories = s.factories := by
  rw [step, make]
  cases (source.build (s.onHost host)).outcome <;> exact ⟨rfl, rfl⟩

/-- The factories that are still to set up the base logger, after one more step. -/
theorem get?_factories_step (x : Step) (id : String) (c : Setup) :
    (s.step host time x).1.factories.get? id =
        some (.configuring c.format c.level c.stream false) ↔
      x = .makeFactory id (.configuring c.format c.level c.stream false) ∨
        s.factories.get? id = some (.configuring c.format c.level c.stream false) ∧
          (∀ f, x ≠ .makeFactory id f) ∧ ∀ name, x ≠ .issueLogger id name := by
  cases x with
  | makeFactory id' f =>
    rw [step, Dictionary.get?_insert]
    by_cases hid : id' = id
    · simp [hid]
    · simp [hid]
  | issueLogger id' name =>
    rw [step, know, Dictionary.get?_insert]
    by_cases hid : id' = id
    · simp [hid, Log.Factory.factory_getLogger_ne]
    · simp [hid]
  | showDefault => simp [(logging_of_demands host time s .showDefault).2]
  | ask question => simp [(logging_of_demands host time s (.ask question)).2]
  | make source tables => simp [(logging_of_make host time s source tables).2]
  | _ => simp [step, reset, install, prepare, know]

end

/-- The factories that a session still has to set up the base logger are the unused ones. -/
theorem unused_iff (host : Host) (time : String) (env : Environment) :
    (reached host time env history).factories.get? id =
        some (.configuring c.format c.level c.stream false) ↔ Unused id history c := by
  induction history using List.reverseRecOn with
  | nil =>
    refine iff_of_false ?_ not_unused_nil
    simp [reached, run, start]
  | append_singleton history x ih =>
    rw [reached_concat, get?_factories_step, ih, unused_concat_iff]

theorem Unused.unique {c' : Setup} (h : Unused id history c) (h' : Unused id history c') :
    c = c' := by
  obtain ⟨format, level, stream⟩ := c
  obtain ⟨format', level', stream'⟩ := c'
  -- in a session a name has one factory at most
  have hfactory := (unused_iff {} "" Dictionary.empty).2 h
  rw [(unused_iff {} "" Dictionary.empty).2 h', Option.some.injEq,
    Log.Factory.configuring.injEq] at hfactory
  obtain ⟨rfl, rfl, rfl, -⟩ := hfactory
  rfl

/-- A step causes one setup at most. -/
theorem Causes.unique {c' : Setup} (h : Causes host time env history x c)
    (h' : Causes host time env history x c') : c = c' := by
  cases h with
  | asked =>
    obtain ⟨format, level, stream⟩ := c
    generalize hx : Step.setupLogging format level stream = call at h'
    cases h' with
    | asked c' =>
      obtain ⟨rfl, rfl, rfl⟩ := Step.setupLogging.inj hx
      rfl
    | issued => cases hx
    | built demands => subst hx; cases demands
  | issued h =>
    cases h' with
    | issued h' => exact h.unique h'
    | built demands => cases demands
  | built demands vacant load hlevel =>
    generalize hx : x = call at h'
    cases h' with
    | asked => subst hx; cases demands
    | issued => subst hx; cases demands
    | built _ _ load' hlevel' =>
      obtain rfl := Except.ok.inj (load.symm.trans load')
      obtain rfl := Option.some.inj (hlevel.symm.trans hlevel')
      rfl

theorem setups_nil_iff : Setups host time env [] calls ↔ calls = [] := by
  constructor
  · intro h
    generalize hsteps : ([] : List Step) = steps at h
    cases h with
    | start => rfl
    | call => exact absurd hsteps.symm (List.concat_ne_nil _ _)
    | still => exact absurd hsteps.symm (List.concat_ne_nil _ _)
  · rintro rfl
    exact .start

theorem setups_concat_iff :
    Setups host time env (history ++ [x]) calls ↔
      (∃ earlier c, Setups host time env history earlier ∧ Causes host time env history x c ∧
          calls = earlier ++ [c]) ∨
        Setups host time env history calls ∧ ∀ c, ¬ Causes host time env history x c := by
  constructor
  · intro h
    generalize hsteps : history ++ [x] = steps at h
    cases h with
    | start => exact absurd hsteps (List.concat_ne_nil _ _)
    | call h causes =>
      obtain ⟨rfl, rfl⟩ := List.append_singleton_inj.1 hsteps
      exact .inl ⟨_, _, h, causes, rfl⟩
    | still h quiet =>
      obtain ⟨rfl, rfl⟩ := List.append_singleton_inj.1 hsteps
      exact .inr ⟨h, quiet⟩
  · rintro (⟨earlier, c, h, causes, rfl⟩ | ⟨h, quiet⟩)
    · exact h.call causes
    · exact h.still quiet

/-- A history determines its setups. -/
theorem exists_setups (host : Host) (time : String) (env : Environment) (history : List Step) :
    ∃ calls, ∀ calls', Setups host time env history calls' ↔ calls' = calls := by
  induction history using List.reverseRecOn with
  | nil => exact ⟨[], fun _ => setups_nil_iff⟩
  | append_singleton history x ih =>
    obtain ⟨calls, hcalls⟩ := ih
    by_cases hx : ∃ c, Causes host time env history x c
    · obtain ⟨c, causes⟩ := hx
      refine ⟨calls ++ [c], fun calls' => ?_⟩
      simp only [setups_concat_iff, hcalls]
      constructor
      · rintro (⟨earlier, c', rfl, causes', rfl⟩ | ⟨-, quiet⟩)
        · rw [causes.unique causes']
        · exact absurd causes (quiet c)
      · rintro rfl
        exact .inl ⟨calls, c, rfl, causes, rfl⟩
    · refine ⟨calls, fun calls' => ?_⟩
      simp only [setups_concat_iff, hcalls]
      constructor
      · rintro (⟨-, c, -, causes, -⟩ | ⟨h, -⟩)
        · exact absurd ⟨c, causes⟩ hx
        · exact h
      · exact fun h => .inr ⟨h, not_exists.1 hx⟩

/-- Later steps add to the setups. -/
theorem Setups.append (h : Setups host time env history calls) (later : List Step) :
    ∃ more, Setups host time env (history ++ later) (calls ++ more) := by
  induction later using List.reverseRecOn with
  | nil => exact ⟨[], by rwa [List.append_nil, List.append_nil]⟩
  | append_singleton later x ih =>
    obtain ⟨more, hmore⟩ := ih
    rw [← List.append_assoc]
    by_cases hx : ∃ c, Causes host time env (history ++ later) x c
    · obtain ⟨c, causes⟩ := hx
      exact ⟨more ++ [c], by rw [← List.append_assoc]; exact hmore.call causes⟩
    · exact ⟨more, hmore.still (not_exists.1 hx)⟩

/-- A step that causes a setup sets up the base logger. -/
theorem Causes.logger (h : Causes host time env history x c) :
    (reached host time env (history ++ [x])).logger =
      (reached host time env history).logger.setup c.format c.level c.stream := by
  rw [reached_concat]
  cases h with
  | asked => rfl
  | issued h name =>
    rw [step, (unused_iff host time env).2 h]
    rfl
  | built demands vacant load hlevel =>
    rw [← environment_reached host time] at load
    rw [(logging_of_demands host time _ demands).1, demand_of_none time vacant.current_eq,
      logger_build time load, configured, hlevel]

/-- A demand for the default resolver that causes no setup leaves the base logger alone. -/
theorem logger_demand_of_quiet {call : Step} (demands : call.Demands)
    (quiet : ∀ c, ¬ Causes host time env history call c) :
    ((reached host time env history).demand host time).session.logger =
      (reached host time env history).logger := by
  cases hcurrent : (reached host time env history).current with
  | some i => rw [demand_of_some time hcurrent]
  | none =>
    rw [demand_of_none time hcurrent]
    cases load : Settings.load (reached host time env history).environment with
    | error fault => rw [build_of_fault host time load]
    | ok settings =>
      rw [logger_build time load, configured]
      rw [environment_reached] at load
      cases hlevel : settings.logLevel with
      | none => rfl
      | some level =>
        exact absurd (.built demands (current_eq_none_iff.1 hcurrent) load hlevel) (quiet _)

/-- A step that causes no setup leaves the base logger alone. -/
theorem logger_of_quiet (quiet : ∀ c, ¬ Causes host time env history x c) :
    (reached host time env (history ++ [x])).logger = (reached host time env history).logger := by
  rw [reached_concat]
  cases x with
  | setupLogging format level stream => exact absurd (.asked ⟨format, level, stream⟩) (quiet _)
  | issueLogger id name =>
    refine Log.Factory.base_getLogger_of_ne (fun c hfactory => ?_) _ name
    have hget : (reached host time env history).factories.get? id =
        some (.configuring c.format c.level c.stream false) := by
      cases hget : (reached host time env history).factories.get? id with
      | none => simp [hget] at hfactory
      | some f => rw [← hfactory, hget, Option.getD_some]
    exact quiet c (.issued ((unused_iff host time env).1 hget) name)
  | showDefault =>
    rw [(logging_of_demands host time _ .showDefault).1, logger_demand_of_quiet .showDefault quiet]
  | ask question =>
    rw [(logging_of_demands host time _ (.ask question)).1,
      logger_demand_of_quiet (.ask question) quiet]
  | make source tables => exact (logging_of_make host time _ source tables).1
  | _ => rfl

/-- The base logger is the one that the setups of the history leave. -/
theorem leftBy_reached (h : Setups host time env history calls) :
    Log.LeftBy calls (reached host time env history).logger := by
  induction h with
  | start => exact .nothing
  | @call earlier calls x c _ causes ih =>
    rw [causes.logger]
    exact ih.setup c
  | @still earlier calls x _ quiet ih =>
    rw [logger_of_quiet quiet]
    exact ih

/-- From the first setup on, the base logger has its handler and passes nothing on. -/
theorem handlers_of_head {first : Setup} (h : Setups host time env history calls)
    (head : calls.head? = some first) (later : List Step) :
    (reached host time env (history ++ later)).logger.handlers = [⟨first.stream, first.format⟩] ∧
      (reached host time env (history ++ later)).logger.propagate = false := by
  obtain ⟨more, hmore⟩ := h.append later
  exact (leftBy_reached hmore).of_head (by rw [List.head?_append, head, Option.some_or])

theorem length_handlers_reached_le (host : Host) (time : String) (env : Environment)
    (history : List Step) : (reached host time env history).logger.handlers.length ≤ 1 := by
  obtain ⟨calls, hcalls⟩ := exists_setups host time env history
  exact (leftBy_reached ((hcalls calls).2 rfl)).length_handlers_le

/-- Whatever logger a record is given to, it is written once at most. -/
theorem length_writeRecord_reached_le (host : Host) (time : String) (env : Environment)
    (history : List Step) (r : Log.Record) :
    ((reached host time env history).writeRecord time r).length ≤ 1 :=
  Log.BaseLogger.length_write_le (Log.BaseLogger.length_handlers_actingFor_le
    (length_handlers_reached_le host time env history) _ _) time r

theorem result_issueLogger (host : Host) (time : String) (s : Session) (id : String)
    (name : Option String) :
    (s.step host time (.issueLogger id name)).2.result =
      .ok (.issued (Log.loggerName name) (s.step host time (.issueLogger id name)).1.logger) := by
  simp only [step, know, Log.Factory.name_getLogger]

/-- **One handler, configured once.** In every run the base logger has one handler at most. It is
as at the start until the first setup; from then on it has the handler of this one and passes
nothing on, and its level is that of the latest one. A factory sets it up once at most. Every logger
handed out is the base logger or has a name under it, by which it is handed out again. So a record
is written once at most. -/
theorem one_handler_configured_once (host : Host) (time : String) (env : Environment)
    (history : List Step) :
    (∃ calls, (∀ calls', Setups host time env history calls' ↔ calls' = calls) ∧
      (calls = [] → (reached host time env history).logger = {}) ∧
      (∀ first, calls.head? = some first → ∀ later,
        (reached host time env (history ++ later)).logger.handlers =
            [⟨first.stream, first.format⟩] ∧
          (reached host time env (history ++ later)).logger.propagate = false) ∧
      ∀ last, calls.getLast? = some last →
        (reached host time env history).logger.level = last.level) ∧
    (reached host time env history).logger.handlers.length ≤ 1 ∧
    (∀ before id name between, history = before ++ .issueLogger id name :: between →
      (∀ f, .makeFactory id f ∉ between) →
      ∀ name' c, ¬ Causes host time env history (.issueLogger id name') c) ∧
    (∀ (f g : Log.Factory) base base' name name',
      ((f.getLogger base name).factory.getLogger base' name').base = base' ∧
      Log.UnderBase (f.getLogger base name).name ∧
      (g.getLogger base' (some (f.getLogger base name).name)).name =
        (f.getLogger base name).name) ∧
    (∀ id name, ∃ full, Log.UnderBase full ∧
      ((reached host time env history).step host time (.issueLogger id name)).2.result =
        .ok (.issued full (reached host time env (history ++ [.issueLogger id name])).logger) ∧
      ∀ later id',
        ((reached host time env (history ++ later)).step host time
            (.issueLogger id' (some full))).2.result =
          .ok (.issued full
            (reached host time env (history ++ later ++ [.issueLogger id' (some full)])).logger)) ∧
    ∀ r, ((reached host time env history).writeRecord time r).length ≤ 1 ∧
      ((reached host time env history).logger.write time r).length ≤ 1 := by
  obtain ⟨calls, hcalls⟩ := exists_setups host time env history
  have hsetups : Setups host time env history calls := (hcalls calls).2 rfl
  have hhandlers := length_handlers_reached_le host time env history
  refine ⟨⟨calls, hcalls, ?nothing, fun first head => handlers_of_head hsetups head,
      fun last => (leftBy_reached hsetups).of_getLast⟩,
    hhandlers, ?once, ?factories, ?names, fun r =>
      ⟨length_writeRecord_reached_le host time env history r,
        Log.BaseLogger.length_write_le hhandlers time r⟩⟩
  case nothing =>
    rintro rfl
    exact (leftBy_reached hsetups).eq_of_nil
  case once =>
    rintro before id name between rfl make name' c causes
    cases causes with
    | issued h => exact not_unused_of_issued name make h
    | built demands => cases demands
  case factories =>
    intro f g base base' name name'
    have hunder := Log.underBase_loggerName name
    refine ⟨f.getLogger_again base base' name name', ?_, ?_⟩
    · rwa [f.name_getLogger]
    · rw [f.name_getLogger, g.name_getLogger, Log.loggerName_of_underBase hunder]
  case names =>
    intro id name
    have hunder := Log.underBase_loggerName name
    refine ⟨Log.loggerName name, hunder, ?_, fun later id' => ?_⟩
    · rw [result_issueLogger, reached_concat]
    · rw [result_issueLogger, reached_concat, Log.loggerName_of_underBase hunder]

/-- A setup by hand, one by a factory, and one by the build of a resolver. -/
def setupSteps : List Step :=
  [.setupLogging .json 20 "out", .makeFactory "f" (.configuring .plain 40 "err" false),
    .issueLogger "f" (some "a"), .ask (.typeOf "png")]

theorem one_handler_configured_once_mixed :
    (reached {} "" debugEnvironment []).logger = {} ∧
    Setups {} "" debugEnvironment setupSteps
      [⟨.json, 20, "out"⟩, ⟨.plain, 40, "err"⟩, ⟨.plain, 10, Log.standardError⟩] ∧
    ((reached {} "" debugEnvironment (setupSteps ++ [.reset])).logger.handlers = [⟨"out", .json⟩] ∧
      (reached {} "" debugEnvironment (setupSteps ++ [.reset])).logger.propagate = false) ∧
    (reached {} "" debugEnvironment setupSteps).logger.level = 10 ∧
    ∀ c, ¬ Causes {} "" debugEnvironment setupSteps (.issueLogger "f" none) c := by
  have hvacant : Vacant {} "" debugEnvironment (setupSteps.take 3) :=
    ((Vacant.start.still (x := .setupLogging .json 20 "out") (by rintro ⟨⟩) (by rintro ⟨⟩)).still
      (x := .makeFactory "f" (.configuring .plain 40 "err" false)) (by rintro ⟨⟩)
        (by rintro ⟨⟩)).still (x := .issueLogger "f" (some "a")) (by rintro ⟨⟩) (by rintro ⟨⟩)
  have hload : Settings.load (environmentAfter debugEnvironment (setupSteps.take 3)) =
      .ok ⟨"system", some 10, false⟩ := by decide +kernel
  have hmade : Setups {} "" debugEnvironment (setupSteps.take 2) [⟨.json, 20, "out"⟩] :=
    (Setups.start.call (.asked ⟨.json, 20, "out"⟩)).still fun c causes => by
      cases causes with
      | built demands => cases demands
  have hsetups : Setups {} "" debugEnvironment setupSteps
      [⟨.json, 20, "out"⟩, ⟨.plain, 40, "err"⟩, ⟨.plain, 10, Log.standardError⟩] :=
    (hmade.call (.issued (.made [_] ⟨.plain, 40, "err"⟩) (some "a"))).call
      (.built (.ask (.typeOf "png")) hvacant hload rfl)
  obtain ⟨⟨calls₀, hcalls₀, nothing, -⟩, -⟩ := one_handler_configured_once {} "" debugEnvironment []
  obtain ⟨⟨calls, hcalls, -, handler, level⟩, -, once, -⟩ :=
    one_handler_configured_once {} "" debugEnvironment setupSteps
  obtain rfl := (hcalls _).1 hsetups
  refine ⟨nothing ((hcalls₀ []).1 .start).symm, hsetups, handler _ rfl [.reset], level _ rfl, ?_⟩
  exact once (setupSteps.take 2) "f" (some "a") [.ask (.typeOf "png")] rfl (by simp) none

end Session

end MediaTypes
