import MediaTypes.Proofs.Resolver.Tracing
import MediaTypes.Proofs.Session.Run
import MediaTypes.Proofs.Session.Streams
import Mathlib.Data.List.Forall2

/-!
# Logging does not influence answers

Two runs with the same steps may be in environments that differ in the variables of logging. Then
their sessions stay alike step by step: they have the same default resolver, and the same resolvers
are made in them. So each step has the same result in both, and it puts the same queries to the
platform; only what is written differs.

## Main definitions

- `Environment.SameButLogging` — two environments differ in the variables of logging at most
- `Session.SameRuns` — two rows of steps are the same, in environments of that kind
- `Session.Alike` — two sessions differ in logging at most

## Main statements

- `described_eq` — environments of that kind describe the same resolver
- `alike_step`, `alike_reached` — sessions stay alike in a step, and in a run
- `answers_independent_of_logging` — the same results and the same queries
-/

namespace MediaTypes

namespace Environment

open Settings (levelVariable jsonVariable traceVariable platformVariable)

/-- Two environments differ at most in the variables of traces and of the form of log lines, and in
the choice of a level among those that can be read. A level that cannot be read is the same. -/
structure SameButLogging (env env' : Environment) : Prop where
  others : ∀ name, name ≠ levelVariable → name ≠ jsonVariable → name ≠ traceVariable →
    env.get? name = env'.get? name
  level : env.get? levelVariable = env'.get? levelVariable ∨
    (∃ level, Settings.readLevel (env.get? levelVariable) = .ok level) ∧
      ∃ level, Settings.readLevel (env'.get? levelVariable) = .ok level

variable {env env' : Environment}

theorem get?_change (env : Environment) (c : String × Option String) (name : String) :
    (Session.change env c).get? name = if c.1 = name then c.2 else env.get? name := by
  obtain ⟨changed, _ | value⟩ := c
  · exact Dictionary.get?_erase env changed name
  · exact Dictionary.get?_insert env changed name value

namespace SameButLogging

/-- A change made in both environments is no difference. -/
theorem change (h : SameButLogging env env') (c : String × Option String) :
    SameButLogging (Session.change env c) (Session.change env' c) where
  others name hlevel hjson htrace := by
    rw [get?_change, get?_change, h.others name hlevel hjson htrace]
  level := by
    rw [get?_change, get?_change]
    split
    · exact .inl rfl
    · exact h.level

theorem step (h : SameButLogging env env') (x : Session.Step) :
    SameButLogging (x.environment env) (x.environment env') := by
  unfold Session.Step.environment
  split
  case h_1 changes =>
    induction changes generalizing env env' with
    | nil => exact h
    | cons c rest ih => exact ih (h.change c)
  case h_2 => exact h

theorem after (h : SameButLogging env env') (history : List Session.Step) :
    SameButLogging (Session.environmentAfter env history)
      (Session.environmentAfter env' history) := by
  induction history generalizing env env' with
  | nil => exact h
  | cons x rest ih => exact ih (h.step x)

/-- The settings have the same fault, or they name the same platform. -/
theorem platform_load (h : SameButLogging env env') :
    (Settings.load env).map (·.platform) = (Settings.load env').map (·.platform) := by
  have hplatform : env.get? platformVariable = env'.get? platformVariable :=
    h.others platformVariable (by decide) (by decide) (by decide)
  rw [Settings.load, Settings.load, hplatform]
  rcases h.level with hlevel | ⟨⟨level, hlevel⟩, level', hlevel'⟩
  · rw [hlevel]
    cases Settings.readLevel (env'.get? levelVariable) <;> rfl
  · rw [hlevel, hlevel']
    rfl

end SameButLogging

end Environment

namespace Session

/-- Environments that differ in logging describe the same resolver, or have the same fault. -/
theorem described_eq (host : Host) {env env' : Environment} (h : env.SameButLogging env') :
    described host env = described host env' ∧ preparedBy host env = preparedBy host env' := by
  have hload := h.platform_load
  rw [described, described, preparedBy, preparedBy]
  cases hsettings : Settings.load env with
  | error fault =>
    cases hsettings' : Settings.load env' with
    | error fault' =>
      simp only [hsettings, hsettings', Except.map, Except.error.injEq] at hload
      exact ⟨by rw [hload], rfl⟩
    | ok settings' => simp [hsettings, hsettings', Except.map] at hload
  | ok settings =>
    cases hsettings' : Settings.load env' with
    | error fault' => simp [hsettings, hsettings', Except.map] at hload
    | ok settings' =>
      simp only [hsettings, hsettings', Except.map, Except.ok.injEq] at hload
      simp only [hload, and_self]

/-- Two sessions differ in logging at most: they have the same default resolver, the same resolvers
have been made and shown in them, and in both of them or in none the process has prepared its own
table. -/
structure Alike (s s' : Session) : Prop where
  environment : s.environment.SameButLogging s'.environment
  current : s.current = s'.current
  instances : s.instances = s'.instances
  shown : s.shown = s'.shown
  prepared : s.prepared = s'.prepared

theorem alike_start {env env' : Environment} (h : env.SameButLogging env') :
    Alike (start env) (start env') :=
  ⟨h, rfl, rfl, rfl, rfl⟩

variable {host : Host} {s s' : Session}

theorem Alike.onHost_eq (h : Alike s s') (host : Host) : s.onHost host = s'.onHost host := by
  rw [onHost, onHost, h.prepared]

theorem Alike.prepare_eq (h : Alike s s') (choice : Platform.Choice) :
    (s.prepare choice).prepared = (s'.prepare choice).prepared := by
  rw [prepare, prepare, h.prepared]

theorem Alike.newInstance_eq (h : Alike s s') (r : Resolver) (standardTables : Bool) :
    s.newInstance r standardTables = s'.newInstance r standardTables := by
  rw [newInstance, newInstance, h.instances]

/-- Sessions that are alike describe the same resolver, or have the same fault, and a build leaves
the process with its own table in both of them or in none. -/
theorem Alike.described_eq (h : Alike s s') (host : Host) (time time' : String) :
    s.describedNow host = s'.describedNow host ∧
      (s.build host time).session.prepared = (s'.build host time').session.prepared := by
  obtain ⟨hdescribed, hprepared⟩ := Session.described_eq (s'.onHost host) h.environment
  rw [describedNow, describedNow, prepared_build, prepared_build, h.onHost_eq, h.prepared,
    hdescribed, hprepared]
  exact ⟨rfl, rfl⟩

/-- Sessions that are alike have the same resolver for a step that needs one, or none of them has
one, for the same reason. -/
theorem Alike.demand (h : Alike s s') (time time' : String) :
    (s.demand host time).result = (s'.demand host time').result ∧
      Alike (s.demand host time).session (s'.demand host time').session := by
  obtain ⟨henv, hshown⟩ := demand_frame host time s
  obtain ⟨henv', hshown'⟩ := demand_frame host time' s'
  suffices hsuffices : (s.demand host time).result = (s'.demand host time').result ∧
      (s.demand host time).session.current = (s'.demand host time').session.current ∧
      (s.demand host time).session.instances = (s'.demand host time').session.instances ∧
      (s.demand host time).session.prepared = (s'.demand host time').session.prepared by
    obtain ⟨hresult, hcurrent, hinstances, hprepared⟩ := hsuffices
    refine ⟨hresult, ?_, hcurrent, hinstances, ?_, hprepared⟩
    · rw [henv, henv']
      exact h.environment
    · rw [hshown, hshown', h.shown]
  cases hcurrent : s.current with
  | some i =>
    rw [demand_of_some time hcurrent, demand_of_some time' (h.current.symm.trans hcurrent)]
    exact ⟨rfl, h.current, h.instances, h.prepared⟩
  | none =>
    rw [demand_of_none time hcurrent, demand_of_none time' (h.current.symm.trans hcurrent)]
    obtain ⟨hdescribed, hprepared⟩ := h.described_eq host time time'
    cases hr : s'.describedNow host with
    | error e =>
      obtain ⟨hresult, hc, hi⟩ := build_of_described_error time (hdescribed.trans hr)
      obtain ⟨hresult', hc', hi'⟩ := build_of_described_error time' hr
      rw [hresult, hresult', hc, hc', hi, hi']
      exact ⟨rfl, h.current, h.instances, hprepared⟩
    | ok r =>
      obtain ⟨hresult, hc, hi⟩ := build_of_described_ok time (hdescribed.trans hr)
      obtain ⟨hresult', hc', hi'⟩ := build_of_described_ok time' hr
      rw [hresult, hresult', hc, hc', hi, hi', h.newInstance_eq, h.instances]
      exact ⟨rfl, rfl, rfl, hprepared⟩

/-- A question is answered in the same way with and without traces. -/
theorem Question.lookup_agree (q : Question) (r : Resolver) (tracing tracing' : Bool) :
    Lookup.Agree (q.lookup r tracing) (q.lookup r tracing') := by
  cases q with
  | typeOf extension =>
    rw [lookup, lookup]
    exact (r.findType_agree tracing tracing' true extension).andThen fun _ => .refl _
  | wellKnown extension =>
    rw [lookup, lookup]
    exact (r.findType_agree tracing tracing' false extension).andThen fun _ => .refl _
  | file path =>
    rw [lookup, lookup]
    exact (r.typeOfFile_agree tracing tracing' path).andThen fun _ => .refl _
  | extensions pattern =>
    rw [lookup, lookup]
    exact (r.extensionsOfType_agree tracing tracing' pattern).andThen fun _ => .refl _
  | preferred mediaType =>
    rw [lookup, lookup]
    exact .refl _

namespace Step

/-- The step shows how logging is set up, or what the environment says of it. -/
inductive ShowsLogging : Step → Prop where
  | settings : ShowsLogging .settings
  | setupLogging (format : Log.Format) (level : Int) (stream : String) :
      ShowsLogging (.setupLogging format level stream)
  | makeFactory (id : String) (factory : Log.Factory) : ShowsLogging (.makeFactory id factory)
  | issueLogger (id : String) (name : Option String) : ShowsLogging (.issueLogger id name)
  | isTracing : ShowsLogging .isTracing
  | showLogging : ShowsLogging .showLogging

/-- The steps are the same, or both of them change variables. -/
inductive Same : Step → Step → Prop where
  | same (x : Step) : Same x x
  | changes (changes changes' : List (String × Option String)) :
      Same (.variables changes) (.variables changes')

end Step

/-- Two steps have the same result and the same queries, and lead to sessions that are alike. -/
structure AlikeStep (next next' : Session × Reply) : Prop where
  session : Alike next.1 next'.1
  result : next.2.result = next'.2.result
  queries : next.2.queries = next'.2.queries

variable (host) in
theorem alike_showDefault (h : Alike s s') (time time' : String) :
    AlikeStep (s.showDefault host time) (s'.showDefault host time') := by
  obtain ⟨hresult, hnext⟩ := h.demand time time'
  rw [showDefault, showDefault, ← hresult]
  cases (s.demand host time).result with
  | error e => exact ⟨hnext, rfl, rfl⟩
  | ok i =>
    -- the resolver has the same place among those shown
    dsimp only
    rw [hnext.shown]
    exact ⟨⟨hnext.environment, hnext.current, hnext.instances, rfl, hnext.prepared⟩, rfl, rfl⟩

variable (host) in
theorem alike_answer (h : Alike s s') (time time' : String) (q : Question) :
    AlikeStep (s.answer host time q) (s'.answer host time' q) := by
  obtain ⟨hresult, hnext⟩ := h.demand time time'
  rw [answer, answer, ← hresult]
  cases (s.demand host time).result with
  | error e => exact ⟨hnext, rfl, rfl⟩
  | ok i =>
    obtain ⟨hanswer, hqueries⟩ := q.lookup_agree i.resolver
      (s.demand host time).session.tracing (s'.demand host time').session.tracing
    refine ⟨hnext, ?_, hqueries⟩
    simp only [replyOf, hanswer]

variable (host) in
theorem alike_make (h : Alike s s') (time time' : String) (source : Platform.Source)
    (tables : Option Tables) :
    AlikeStep (s.make host time source tables) (s'.make host time' source tables) := by
  rw [make, make, h.onHost_eq]
  have hprepared := h.prepare_eq (source.build (s'.onHost host))
  cases (source.build (s'.onHost host)).outcome with
  | error failure =>
    exact ⟨⟨h.environment, h.current, h.instances, h.shown, hprepared⟩, rfl, rfl⟩
  | ok platform =>
    refine ⟨⟨h.environment, h.current, ?_, h.shown, hprepared⟩, ?_, rfl⟩
    · simp only [keep, prepare, newInstance, h.instances]
    · simp only [prepare, newInstance, h.instances]

variable (host) in
/-- The same step in sessions that are alike leaves sessions that are alike. It asks the platform
the same and has the same result, unless it shows how logging is set up. -/
theorem alike_step (h : Alike s s') (time time' : String) (x : Step) :
    Alike (s.step host time x).1 (s'.step host time' x).1 ∧
      (s.step host time x).2.queries = (s'.step host time' x).2.queries ∧
      (¬ x.ShowsLogging →
        (s.step host time x).2.result = (s'.step host time' x).2.result) := by
  cases x with
  | showDefault =>
    have hstep := alike_showDefault host h time time'
    exact ⟨hstep.session, hstep.queries, fun _ => hstep.result⟩
  | ask question =>
    have hstep := alike_answer host h time time' question
    exact ⟨hstep.session, hstep.queries, fun _ => hstep.result⟩
  | make source tables =>
    have hstep := alike_make host h time time' source tables
    exact ⟨hstep.session, hstep.queries, fun _ => hstep.result⟩
  | install serial =>
    have hcurrent : (s.install serial).current = (s'.install serial).current := by
      rw [install, install, h.instances]
    exact ⟨⟨h.environment, hcurrent, h.instances, h.shown, h.prepared⟩, rfl, fun _ => rfl⟩
  | reset => exact ⟨⟨h.environment, rfl, h.instances, h.shown, h.prepared⟩, rfl, fun _ => rfl⟩
  | choosePlatform name =>
    rw [step, step, h.onHost_eq]
    exact ⟨⟨h.environment, h.current, h.instances, h.shown, h.prepare_eq _⟩, rfl, fun _ => rfl⟩
  -- these show what may differ
  | settings => exact ⟨h, rfl, fun hshows => absurd .settings hshows⟩
  | setupLogging format level stream =>
    exact ⟨⟨h.environment, h.current, h.instances, h.shown, h.prepared⟩, rfl,
      fun hshows => absurd (.setupLogging format level stream) hshows⟩
  | makeFactory id factory =>
    exact ⟨⟨h.environment, h.current, h.instances, h.shown, h.prepared⟩, rfl,
      fun hshows => absurd (.makeFactory id factory) hshows⟩
  | issueLogger id name =>
    exact ⟨⟨h.environment, h.current, h.instances, h.shown, h.prepared⟩, rfl,
      fun hshows => absurd (.issueLogger id name) hshows⟩
  | isTracing => exact ⟨h, rfl, fun hshows => absurd .isTracing hshows⟩
  | showLogging => exact ⟨h, rfl, fun hshows => absurd .showLogging hshows⟩
  | _ =>
    refine ⟨⟨?_, h.current, h.instances, h.shown, h.prepared⟩, rfl, fun _ => rfl⟩
    rw [environment_step, environment_step]
    exact h.environment.step _

/-- Two rows of the same steps, in environments that differ in logging at most: at the start, and
after any number of steps. -/
structure SameRuns (env env' : Environment) (steps steps' : List Step) : Prop where
  same : List.Forall₂ Step.Same steps steps'
  environments : ∀ n, (environmentAfter env (steps.take n)).SameButLogging
    (environmentAfter env' (steps'.take n))

/-- One row of steps in two such environments. -/
theorem SameRuns.of_steps {env env' : Environment} (h : env.SameButLogging env')
    (steps : List Step) : SameRuns env env' steps steps where
  same := List.forall₂_same.2 fun x _ => .same x
  environments n := h.after (steps.take n)

section

variable {env env' : Environment} {steps steps' : List Step}

theorem SameRuns.of_getElem? (h : SameRuns env env' steps steps') (n : Nat) :
    steps[n]? = none ∧ steps'[n]? = none ∨
      ∃ x x', steps[n]? = some x ∧ steps'[n]? = some x' ∧ x.Same x' := by
  have hlength := h.same.length_eq
  by_cases hn : n < steps.length
  · have hn' : n < steps'.length := by omega
    exact .inr ⟨_, _, List.getElem?_eq_getElem hn, List.getElem?_eq_getElem hn',
      h.same.get hn hn'⟩
  · left
    constructor
    · exact List.getElem?_eq_none (by omega)
    · exact List.getElem?_eq_none (by omega)

/-- Along two such runs the sessions are alike. -/
theorem alike_reached (host : Host) (h : SameRuns env env' steps steps')
    (time time' : String) (n : Nat) :
    Alike (reached host time env (steps.take n)) (reached host time' env' (steps'.take n)) := by
  induction n with
  | zero => exact alike_start (h.environments 0)
  | succ n ih =>
    rw [List.take_add_one, List.take_add_one]
    rcases h.of_getElem? n with ⟨hx, hx'⟩ | ⟨x, x', hx, hx', hsame⟩
    · simpa only [hx, hx', Option.toList_none, List.append_nil] using ih
    · have henv := h.environments (n + 1)
      rw [List.take_add_one, List.take_add_one, hx, hx', Option.toList_some, Option.toList_some]
        at henv
      rw [hx, hx', Option.toList_some, Option.toList_some, reached_concat, reached_concat]
      cases hsame with
      | same => exact (alike_step host ih time time' x).1
      | changes =>
        refine ⟨?_, ih.current, ih.instances, ih.shown, ih.prepared⟩
        rwa [← reached_concat, ← reached_concat, environment_reached, environment_reached]

end

/-- **Logging does not influence answers.** In two runs of the same steps, in environments that
differ in logging at most, every step puts the same queries to the platform and has the same result,
unless it shows how logging is set up. At every step the two runs have the same default resolver, or
neither has one, and they get the same one, or fail alike, when they need one. What they write goes
to the standard error stream, or to streams that the steps name. -/
theorem answers_independent_of_logging (host : Host) (time time' : String)
    {env env' : Environment} {steps steps' : List Step} (h : SameRuns env env' steps steps')
    {n : Nat} {x : Step} (hx : steps[n]? = some x) :
    ∃ reply reply',
      (run host time (start env) steps).2[n]? = some reply ∧
      (run host time' (start env') steps').2[n]? = some reply' ∧
      (¬ x.ShowsLogging → reply.result = reply'.result) ∧
      reply.queries = reply'.queries ∧
      (reached host time env (steps.take n)).current =
        (reached host time' env' (steps'.take n)).current ∧
      ((reached host time env (steps.take n)).demand host time).result =
        ((reached host time' env' (steps'.take n)).demand host time').result ∧
      (∀ o ∈ reply.output, StreamOf steps o.stream) ∧
      ∀ o ∈ reply'.output, StreamOf steps' o.stream := by
  have halike := alike_reached host h time time' n
  rcases h.of_getElem? n with ⟨hnone, -⟩ | ⟨y, x', hy, hx', hsame⟩
  · exact nomatch hnone.symm.trans hx
  obtain rfl := Option.some.inj (hy.symm.trans hx)
  have hreply := reply_of_getElem? host time env hy
  have hreply' := reply_of_getElem? host time' env' hx'
  refine ⟨_, _, hreply, hreply', ?result, ?queries, halike.current, (halike.demand time time').1,
    fun o => stream_of_run host time env (List.mem_of_getElem? hreply),
    fun o => stream_of_run host time' env' (List.mem_of_getElem? hreply')⟩
  case result =>
    intro hanswers
    cases hsame with
    | same => exact (alike_step host halike time time' y).2.2 hanswers
    | changes => rfl
  case queries =>
    cases hsame with
    | same => exact (alike_step host halike time time' y).2.1
    | changes => rfl

/-- An environment that sets up no logging. -/
def quietEnvironment : Environment :=
  Dictionary.ofList [(Settings.platformVariable, "none")]

/-- The same environment with traces as log lines in the JSON form. -/
def tracingEnvironment : Environment :=
  ((quietEnvironment.insert Settings.traceVariable "1").insert Settings.jsonVariable "1").insert
    Settings.levelVariable "debug"

theorem sameButLogging_tracing : quietEnvironment.SameButLogging tracingEnvironment where
  others name hlevel hjson htrace := by
    rw [tracingEnvironment, Dictionary.get?_insert, if_neg hlevel.symm, Dictionary.get?_insert,
      if_neg hjson.symm, Dictionary.get?_insert, if_neg htrace.symm]
  level := .inr ⟨⟨none, rfl⟩, some 10, rfl⟩

/-- A question is answered as it is without logging, although a trace of it is written. -/
theorem answers_independent_of_logging_traced :
    SameRuns quietEnvironment tracingEnvironment [.ask (.typeOf "png")] [.ask (.typeOf "png")] ∧
      ∃ reply reply',
        (run {} "" (start quietEnvironment) [.ask (.typeOf "png")]).2[0]? = some reply ∧
        (run {} "" (start tracingEnvironment) [.ask (.typeOf "png")]).2[0]? = some reply' ∧
        reply.result = reply'.result ∧ reply'.result = .ok (.text (some "image/png")) ∧
        reply.output = [] ∧ reply'.output.length = 1 := by
  have hruns := SameRuns.of_steps sameButLogging_tracing [.ask (.typeOf "png")]
  obtain ⟨reply, reply', hreply, hreply', hresult, -⟩ :=
    answers_independent_of_logging {} "" "" hruns
      (show [Step.ask (.typeOf "png")][0]? = some (.ask (.typeOf "png")) from rfl)
  refine ⟨hruns, reply, reply', hreply, hreply', hresult (by rintro ⟨⟩), ?_⟩
  obtain rfl := Option.some.inj hreply
  obtain rfl := Option.some.inj hreply'
  exact ⟨rfl, rfl, rfl⟩

end Session

end MediaTypes
