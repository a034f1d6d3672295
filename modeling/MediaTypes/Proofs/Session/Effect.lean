import MediaTypes.Proofs.Session.Build
import MediaTypes.Session.Step

/-!
# What a step does to the resolvers

A step that needs the default resolver uses the one that is there, or has one built. A reset drops
it, and an installation replaces it by the resolver of a given number. No other step touches it, but
a step may make a further resolver.

## Main definitions

- `Session.Step.Demands`, `Session.Step.Replaces` — the steps that need the default resolver, and
  those that put another one or none in its place
- `Session.Uses` — the reply to a step is that of a given resolver
- `Session.Effect` — what a step may do to the resolvers

## Main statements

- `step_effect` — every step has one of these effects
- `uses_of_some`, `uses_of_described`, `result_of_fault` — the replies to steps that need a resolver
-/

namespace MediaTypes

namespace Session

namespace Step

/-- The step needs the default resolver. -/
inductive Demands : Step → Prop where
  | showDefault : Demands .showDefault
  | ask (question : Question) : Demands (.ask question)

/-- The step puts another default resolver, or none, in the place of the one that is there. -/
inductive Replaces : Step → Prop where
  | reset : Replaces .reset
  | install (serial : Nat) : Replaces (.install serial)

/-- The environment after the step. -/
def environment (env : Environment) : Step → Environment
  | .variables changes => changes.foldl change env
  | _ => env

theorem Demands.not_replaces {call : Step} (h : call.Demands) : ¬ call.Replaces := by
  rintro (_ | _) <;> cases h

end Step

/-- The reply to a question is what a lookup answers, or the failure that it ends with, and the
queries are those that it puts. -/
structure Answered {α : Type} (l : Lookup α) (result : α → Result) (reply : Reply) : Prop where
  answer : ∀ a, l.answer = .ok a → reply.result = .ok (result a)
  failure : ∀ e, l.answer = .error e → reply.result = .error (.query e)
  queries : reply.queries = l.queries

/-- The reply to a step is what the resolver shows of itself, or what it answers to the question
asked and what it asks its platform for that. -/
inductive Uses (s : Session) (i : Instance) : Step → Reply → Prop where
  | shown {reply : Reply}
      (result : reply.result =
        .ok (.resolver (place s.shown i.serial).1 i.resolver.platform.kind i.standardTables)) :
      Uses s i .showDefault reply
  | typeOf {extension : String} {reply : Reply}
      (h : Answered (i.resolver.typeOfExtension s.tracing extension) .text reply) :
      Uses s i (.ask (.typeOf extension)) reply
  | wellKnown {extension : String} {reply : Reply}
      (h : Answered (i.resolver.wellKnownType s.tracing extension) .text reply) :
      Uses s i (.ask (.wellKnown extension)) reply
  | file {path : String} {reply : Reply}
      (h : Answered (i.resolver.typeOfFile s.tracing path) .text reply) :
      Uses s i (.ask (.file path)) reply
  | extensions {pattern : String} {reply : Reply}
      (h : Answered (i.resolver.extensionsOfType s.tracing pattern) .texts reply) :
      Uses s i (.ask (.extensions pattern)) reply
  | preferred {mediaType : Option String} {reply : Reply}
      (h : Answered (i.resolver.preferredExtension mediaType) .text reply) :
      Uses s i (.ask (.preferred mediaType)) reply

/-- What a step may do to the default resolver and to the resolvers made. -/
inductive Effect (host : Host) (s next : Session) : Step → Prop where
  | reset (current : next.current = none) (instances : next.instances = s.instances) :
      Effect host s next .reset
  /-- The resolver of that number, if there is one, becomes the default one. -/
  | installed {serial : Nat} (current : next.current = s.instances[serial]?)
      (instances : next.instances = s.instances) : Effect host s next (.install serial)
  | made {source : Platform.Source} {tables : Option Tables} {platform : Platform}
      (h : (source.build (s.onHost host)).outcome = .ok platform)
      (current : next.current = s.current)
      (instances : next.instances = s.instances ++
        [s.newInstance ⟨tables.getD Tables.standard, platform⟩ tables.isNone]) :
      Effect host s next (.make source tables)
  /-- The resolver that is there is used. -/
  | used {call : Step} {i : Instance} (demands : call.Demands) (h : s.current = some i)
      (current : next.current = some i) (instances : next.instances = s.instances) :
      Effect host s next call
  /-- There is none, and one is built. -/
  | built {call : Step} {r : Resolver} (demands : call.Demands) (vacant : s.current = none)
      (h : s.describedNow host = .ok r) (current : next.current = some (s.newInstance r true))
      (instances : next.instances = s.instances ++ [s.newInstance r true]) :
      Effect host s next call
  /-- There is none, and none can be built. -/
  | failed {call : Step} {e : Failure} (demands : call.Demands) (vacant : s.current = none)
      (h : s.describedNow host = .error e) (current : next.current = none)
      (instances : next.instances = s.instances) : Effect host s next call
  /-- Every other step leaves the resolvers as they are. -/
  | untouched {other : Step}
      (makes : ∀ source tables, other = .make source tables →
        ¬ ∃ platform, (source.build (s.onHost host)).outcome = .ok platform)
      (replaces : ¬ other.Replaces) (demands : ¬ other.Demands)
      (current : next.current = s.current) (instances : next.instances = s.instances) :
      Effect host s next other

namespace Effect

variable {host : Host} {s next : Session} {x : Step}

/-- No resolver that was made is lost. -/
theorem instances_kept (h : Effect host s next x) : s.instances <+: next.instances := by
  cases h with
  | made _ _ instances => exact instances ▸ List.prefix_append _ _
  | built _ _ _ _ instances => exact instances ▸ List.prefix_append _ _
  | reset _ instances | installed _ instances | used _ _ _ instances | failed _ _ _ _ instances
  | untouched _ _ _ _ instances => exact instances ▸ List.prefix_refl _

/-- A resolver that is there stays until it is replaced. -/
theorem of_some {i : Instance} (h : Effect host s next x) (hsome : s.current = some i)
    (replaces : ¬ x.Replaces) : next.current = some i := by
  cases h with
  | reset => exact absurd .reset replaces
  | installed => exact absurd (.install _) replaces
  | made _ current => exact current.trans hsome
  | used _ hsome' current => exact current.trans (hsome'.symm.trans hsome)
  -- nothing is built, and no build fails, where a resolver is there
  | built _ vacant => exact nomatch vacant.symm.trans hsome
  | failed _ vacant => exact nomatch vacant.symm.trans hsome
  | untouched _ _ _ current => exact current.trans hsome

/-- Without an installation or a build that succeeds there is still none where there was none. -/
theorem of_none (h : Effect host s next x) (vacant : s.current = none)
    (install : ¬ x.Replaces)
    (build : x.Demands → ∃ e, s.describedNow host = .error e) : next.current = none := by
  cases h with
  | reset current => exact current
  | installed => exact absurd (.install _) install
  | made _ current => exact current.trans vacant
  | used _ hsome => exact nomatch vacant.symm.trans hsome
  | built demands _ hdescribed =>
    obtain ⟨e, he⟩ := build demands
    exact nomatch he.symm.trans hdescribed
  | failed _ _ _ current => exact current
  | untouched _ _ _ current => exact current.trans vacant

/-- Where there is none, a step that needs one has the one described built. -/
theorem of_described {r : Resolver} (h : Effect host s next x) (demands : x.Demands)
    (vacant : s.current = none) (hdescribed : s.describedNow host = .ok r) :
    next.current = some (s.newInstance r true) ∧
      next.instances = s.instances ++ [s.newInstance r true] := by
  cases h with
  | reset => cases demands
  | installed => cases demands
  | made => cases demands
  | used _ hsome => exact nomatch vacant.symm.trans hsome
  | built _ _ hdescribed' current instances =>
    obtain rfl := Except.ok.inj (hdescribed.symm.trans hdescribed')
    exact ⟨current, instances⟩
  | failed _ _ hfault => exact nomatch hdescribed.symm.trans hfault
  | untouched _ _ hnot => exact absurd demands hnot

theorem of_make {source : Platform.Source} {tables : Option Tables} {platform : Platform}
    (h : Effect host s next (.make source tables))
    (hbuild : (source.build (s.onHost host)).outcome = .ok platform) :
    next.instances = s.instances ++
      [s.newInstance ⟨tables.getD Tables.standard, platform⟩ tables.isNone] := by
  cases h with
  | made hbuild' _ instances =>
    obtain rfl := Except.ok.inj (hbuild.symm.trans hbuild')
    exact instances
  | used demands | built demands | failed demands => cases demands
  | untouched makes => exact absurd ⟨platform, hbuild⟩ (makes _ _ rfl)

theorem of_install {serial : Nat} (h : Effect host s next (.install serial)) :
    next.current = s.instances[serial]? ∧ next.instances = s.instances := by
  cases h with
  | installed current instances => exact ⟨current, instances⟩
  | used demands | built demands | failed demands => cases demands
  | untouched _ replaces => exact absurd (.install serial) replaces

end Effect

variable (host : Host) (time : String) (s : Session)

/-- A step that needs the default resolver leaves what the demand for it leaves, but for the list
of the resolvers shown. -/
theorem step_of_demands {call : Step} (hcall : call.Demands) :
    (s.step host time call).1.current = (s.demand host time).session.current ∧
      (s.step host time call).1.instances = (s.demand host time).session.instances ∧
      (s.step host time call).1.environment = (s.demand host time).session.environment := by
  cases hcall with
  | showDefault =>
    rw [step, showDefault]
    cases (s.demand host time).result <;> exact ⟨rfl, rfl, rfl⟩
  | ask question =>
    rw [step, answer]
    cases (s.demand host time).result <;> exact ⟨rfl, rfl, rfl⟩

/-- A step changes the environment only by setting and removing variables. -/
theorem environment_step (x : Step) :
    (s.step host time x).1.environment = x.environment s.environment := by
  cases x with
  | showDefault =>
    rw [(step_of_demands host time s .showDefault).2.2, (demand_frame host time s).1]
    rfl
  | ask question =>
    rw [(step_of_demands host time s (.ask question)).2.2, (demand_frame host time s).1]
    rfl
  | make source tables =>
    rw [step, make]
    cases (source.build (s.onHost host)).outcome <;> rfl
  | _ => rfl

theorem effect_of_demands {call : Step} (hcall : call.Demands) :
    Effect host s (s.step host time call).1 call := by
  obtain ⟨hcurrent, hinstances, -⟩ := step_of_demands host time s hcall
  cases h : s.current with
  | some i =>
    rw [demand_of_some time h] at hcurrent hinstances
    exact .used hcall h (hcurrent.trans h) hinstances
  | none =>
    rw [demand_of_none time h] at hcurrent hinstances
    cases hdescribed : s.describedNow host with
    | error e =>
      obtain ⟨-, hc, hi⟩ := build_of_described_error time hdescribed
      exact .failed hcall h hdescribed (hcurrent.trans (hc.trans h)) (hinstances.trans hi)
    | ok r =>
      obtain ⟨-, hc, hi⟩ := build_of_described_ok time hdescribed
      exact .built hcall h hdescribed (hcurrent.trans hc) (hinstances.trans hi)

theorem effect_of_make (source : Platform.Source) (tables : Option Tables) :
    Effect host s (s.step host time (.make source tables)).1 (.make source tables) := by
  rw [step, make]
  cases h : (source.build (s.onHost host)).outcome with
  | error failure =>
    refine .untouched ?_ (by rintro ⟨⟩) (by rintro ⟨⟩) rfl rfl
    rintro _ _ ⟨⟩ ⟨platform, hplatform⟩
    exact nomatch h.symm.trans hplatform
  | ok platform => exact .made h rfl rfl

variable {host s} in
/-- A step that makes a resolver replies with its number, the next one. -/
theorem exists_platform_of_made {source : Platform.Source} {tables : Option Tables} {serial : Nat}
    (h : (s.step host time (.make source tables)).2.result = .ok (.made serial)) :
    ∃ platform, (source.build (s.onHost host)).outcome = .ok platform ∧
      s.instances.length = serial := by
  rw [step, make] at h
  cases hbuild : (source.build (s.onHost host)).outcome with
  | error failure =>
    simp only [hbuild] at h
    cases h
  | ok platform =>
    simp only [hbuild] at h
    exact ⟨platform, rfl, Result.made.inj (Except.ok.inj h)⟩

/-- Every step has one of the effects. -/
theorem step_effect (x : Step) : Effect host s (s.step host time x).1 x := by
  cases x with
  | reset => exact .reset rfl rfl
  | install serial => exact .installed rfl rfl
  | make source tables => exact effect_of_make host time s source tables
  | showDefault => exact effect_of_demands host time s .showDefault
  | ask question => exact effect_of_demands host time s (.ask question)
  | _ => exact .untouched nofun (by rintro ⟨⟩) (by rintro ⟨⟩) rfl rfl

variable {host s}

/-- A lookup whose answer is only put into a reply is answered by it. -/
theorem answered_replyOf {α : Type} (time : String) (before : List Log.Output) (l : Lookup α)
    (result : α → Result) :
    Answered l result (replyOf s time before (do return result (← l))) := by
  have hqueries : (l.andThen fun a => Lookup.done (result a)).queries = l.queries := by
    cases hanswer : l.answer with
    | error e => rw [Lookup.andThen_of_error hanswer]
    | ok a =>
      rw [Lookup.andThen_of_ok hanswer]
      exact List.append_nil _
  refine ⟨fun a ha => ?_, fun e he => ?_, hqueries⟩
  · simp only [replyOf, Lookup.bind_eq, Lookup.pure_eq, Lookup.andThen_of_ok ha]
    rfl
  · simp only [replyOf, Lookup.bind_eq, Lookup.andThen_of_error he]
    rfl

/-- A question is answered by the method of the resolver that it is about. -/
theorem uses_replyOf {next : Session} {i : Instance} (htracing : next.tracing = s.tracing)
    (before : List Log.Output) (question : Question) :
    Uses s i (.ask question)
      (replyOf next time before (question.lookup i.resolver next.tracing)) := by
  rw [htracing]
  cases question with
  | typeOf extension => exact .typeOf (answered_replyOf time before _ _)
  | wellKnown extension => exact .wellKnown (answered_replyOf time before _ _)
  | file path => exact .file (answered_replyOf time before _ _)
  | extensions pattern => exact .extensions (answered_replyOf time before _ _)
  | preferred mediaType => exact .preferred (answered_replyOf time before _ _)

/-- A step that gets the resolver it needs replies with what that one answers. -/
theorem uses_of_demand {call : Step} (hcall : call.Demands) {i : Instance}
    (h : (s.demand host time).result = .ok i) : Uses s i call (s.step host time call).2 := by
  obtain ⟨henv, hshown⟩ := demand_frame host time s
  cases hcall with
  | showDefault =>
    refine .shown ?_
    simp only [step, showDefault, h, hshown]
  | ask question =>
    have htracing : (s.demand host time).session.tracing = s.tracing := by
      rw [tracing, henv, tracing]
    simp only [step, answer, h]
    exact uses_replyOf time htracing _ question

theorem uses_of_some {call : Step} (hcall : call.Demands) {i : Instance}
    (h : s.current = some i) : Uses s i call (s.step host time call).2 :=
  uses_of_demand time hcall (by rw [demand_of_some time h])

theorem uses_of_described {call : Step} (hcall : call.Demands) {r : Resolver}
    (hvacant : s.current = none) (h : s.describedNow host = .ok r) :
    Uses s (s.newInstance r true) call (s.step host time call).2 :=
  uses_of_demand time hcall (by rw [demand_of_none time hvacant, (build_of_described_ok time h).1])

/-- A step that needs a resolver where none is there and none can be built hands on the fault. -/
theorem result_of_fault {call : Step} (hcall : call.Demands) {e : Failure}
    (hvacant : s.current = none) (h : s.describedNow host = .error e) :
    (s.step host time call).2.result = .error e := by
  have hdemand : (s.demand host time).result = .error e := by
    rw [demand_of_none time hvacant, (build_of_described_error time h).1]
  cases hcall with
  | showDefault => simp only [step, showDefault, hdemand]
  | ask question => simp only [step, answer, hdemand]

end Session

end MediaTypes
