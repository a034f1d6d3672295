import MediaTypes.Proofs.Session.FailedBuild

/-!
# Where a run writes

A run writes to the standard error stream, and to the streams that its steps name when they set up
logging or make a logger factory. It writes to no other stream.

## Main definitions

- `Session.Step.streams`, `Session.StreamOf` — the streams that a step names, and those that a row
  of steps may write to
- `Session.WritesTo` — a session has handlers and factories for allowed streams only

## Main statements

- `writesTo_step` — a step that names allowed streams only writes to allowed streams only
- `stream_of_run` — a run writes to the standard error stream and to those that its steps name
-/

namespace MediaTypes

/-! `allowed` are the streams that may be written to, and the standard error stream is one. -/

variable {allowed : String → Prop} {l : Log.BaseLogger}

namespace Log

/-- All handlers are for allowed streams. -/
def BaseLogger.WritesTo (allowed : String → Prop) (l : BaseLogger) : Prop :=
  ∀ h ∈ l.handlers, allowed h.stream

namespace BaseLogger

theorem WritesTo.setup (h : l.WritesTo allowed) {stream : String} (hstream : allowed stream)
    (format : Format) (level : Int) : (l.setup format level stream).WritesTo allowed := by
  rw [BaseLogger.setup]
  split
  · simpa [WritesTo] using hstream
  · exact h

/-- A logger that does not stand under the base logger has no handler. -/
theorem WritesTo.actingFor (h : l.WritesTo allowed) (known : List String) (name : String) :
    (l.actingFor known name).WritesTo allowed := by
  rw [BaseLogger.actingFor]
  split
  · exact h
  · exact List.forall_mem_nil _

theorem WritesTo.stream_of_write (h : l.WritesTo allowed) (herror : allowed standardError)
    {time : String} {r : Record} {o : Output} (ho : o ∈ l.write time r) : allowed o.stream := by
  rw [write] at ho
  split at ho
  · split at ho
    · -- without any handler the record is shown on the standard error stream
      split at ho
      · rw [List.mem_singleton.1 ho]
        exact herror
      · cases ho
    · obtain ⟨handler, hhandler, rfl⟩ := List.mem_map.1 ho
      rw [handle]
      split
      · exact h handler hhandler
      · exact herror
  · cases ho

end BaseLogger

/-- The factory sets up logging to an allowed stream, if at all. -/
def Factory.WritesTo (allowed : String → Prop) : Factory → Prop
  | .passive => True
  | .configuring _ _ stream _ => allowed stream

theorem Factory.WritesTo.getLogger {f : Factory} (hf : f.WritesTo allowed)
    (h : l.WritesTo allowed) (name : Option String) :
    (f.getLogger l name).factory.WritesTo allowed ∧
      (f.getLogger l name).base.WritesTo allowed := by
  rcases f with _ | ⟨format, level, stream, _ | _⟩
  · exact ⟨trivial, h⟩
  · exact ⟨hf, h.setup hf format level⟩
  · exact ⟨hf, h⟩

end Log

namespace Session

/-- The streams that a step names. -/
def Step.streams : Step → List String
  | .setupLogging _ _ stream => [stream]
  | .makeFactory _ (.configuring _ _ stream _) => [stream]
  | _ => []

/-- A row of steps may write to the standard error stream and to the streams it names. -/
def StreamOf (steps : List Step) (stream : String) : Prop :=
  stream = Log.standardError ∨ ∃ x ∈ steps, stream ∈ x.streams

/-- All handlers and all factories are for allowed streams. -/
structure WritesTo (allowed : String → Prop) (s : Session) : Prop where
  logger : s.logger.WritesTo allowed
  factories : ∀ id f, s.factories.get? id = some f → f.WritesTo allowed

theorem writesTo_start (env : Environment) : (start env).WritesTo allowed where
  logger := List.forall_mem_nil _
  factories _ _ h := by cases h

variable (host : Host) (time : String)

/-- What a build writes is written by the base logger that it leaves. -/
theorem output_build (s : Session) :
    (∃ events, (s.build host time).output =
        writeEvents (s.build host time).session.logger time "platform" events) ∧
      (s.build host time).session.factories = s.factories := by
  rw [build]
  cases Settings.load s.environment with
  | error fault => exact ⟨⟨[], rfl⟩, rfl⟩
  | ok settings =>
    dsimp only
    cases (Platform.choose (s.onHost host) settings.platform).outcome <;> exact ⟨⟨_, rfl⟩, rfl⟩

section

variable (herror : allowed Log.standardError) {s : Session} (hs : s.WritesTo allowed)
include herror hs

theorem stream_of_writeEvents {part : String} {events : List Log.Event} {o : Log.Output}
    (ho : o ∈ writeEvents s.logger time part events) : allowed o.stream := by
  obtain ⟨event, -, hevent⟩ := List.mem_flatMap.1 ho
  exact hs.logger.stream_of_write herror hevent

theorem stream_of_writeRecord {r : Log.Record} {o : Log.Output}
    (ho : o ∈ s.writeRecord time r) : allowed o.stream :=
  (hs.logger.actingFor s.loggers r.logger).stream_of_write herror ho

theorem writesTo_build : (s.build host time).session.WritesTo allowed := by
  refine ⟨?_, by rw [(output_build host time s).2]; exact hs.factories⟩
  cases hload : Settings.load s.environment with
  | error fault =>
    rw [build_of_fault host time hload]
    exact hs.logger
  | ok settings =>
    rw [logger_build time hload, configured]
    split
    · exact hs.logger
    · exact hs.logger.setup herror _ _

theorem writesTo_demand : (s.demand host time).session.WritesTo allowed ∧
    ∀ o ∈ (s.demand host time).output, allowed o.stream := by
  cases hcurrent : s.current with
  | some i =>
    rw [demand_of_some time hcurrent]
    exact ⟨hs, List.forall_mem_nil _⟩
  | none =>
    rw [demand_of_none time hcurrent]
    have hnext := writesTo_build host time herror hs
    obtain ⟨⟨events, houtput⟩, -⟩ := output_build host time s
    rw [houtput]
    exact ⟨hnext, fun _ => stream_of_writeEvents time herror hnext⟩

/-- A step that names allowed streams only writes to allowed streams only, and so will the steps
after it. -/
theorem writesTo_step {x : Step} (hx : ∀ stream ∈ x.streams, allowed stream) :
    (s.step host time x).1.WritesTo allowed ∧
      ∀ o ∈ (s.step host time x).2.output, allowed o.stream := by
  cases x with
  | showDefault =>
    obtain ⟨hnext, houtput⟩ := writesTo_demand host time herror hs
    rw [step, showDefault]
    cases (s.demand host time).result with
    | error e => exact ⟨hnext, houtput⟩
    | ok i => exact ⟨⟨hnext.logger, hnext.factories⟩, houtput⟩
  | ask question =>
    obtain ⟨hnext, houtput⟩ := writesTo_demand host time herror hs
    rw [step, answer]
    cases (s.demand host time).result with
    | error e => exact ⟨hnext, houtput⟩
    | ok i =>
      refine ⟨hnext, fun o ho => ?_⟩
      rcases List.mem_append.1 ho with ho | ho
      · exact houtput o ho
      · exact stream_of_writeEvents time herror hnext ho
  | make source tables =>
    have hprepared : (s.prepare (source.build (s.onHost host))).WritesTo allowed :=
      ⟨hs.logger, hs.factories⟩
    rw [step, make]
    cases (source.build (s.onHost host)).outcome with
    | error failure => exact ⟨hprepared, fun _ => stream_of_writeEvents time herror hprepared⟩
    | ok platform =>
      exact ⟨⟨hs.logger, hs.factories⟩, fun _ => stream_of_writeEvents time herror hprepared⟩
  | setupLogging format level stream =>
    exact ⟨⟨hs.logger.setup (hx stream (List.mem_singleton_self stream)) format level,
      hs.factories⟩, List.forall_mem_nil _⟩
  | makeFactory id factory =>
    refine ⟨⟨hs.logger, fun id' f hf => ?_⟩, List.forall_mem_nil _⟩
    rw [step, Dictionary.get?_insert] at hf
    split at hf
    · obtain rfl := Option.some.inj hf
      cases factory with
      | passive => trivial
      | configuring _ _ stream _ => exact hx stream (List.mem_singleton_self stream)
    · exact hs.factories id' f hf
  | issueLogger id name =>
    have hfactory : ((s.factories.get? id).getD .passive).WritesTo allowed := by
      cases hget : s.factories.get? id with
      | none => trivial
      | some f => exact hs.factories id f hget
    obtain ⟨hissued, hbase⟩ := hfactory.getLogger hs.logger name
    refine ⟨⟨hbase, fun id' f hf => ?_⟩, List.forall_mem_nil _⟩
    rw [step, know, Dictionary.get?_insert] at hf
    split at hf
    · obtain rfl := Option.some.inj hf
      exact hissued
    · exact hs.factories id' f hf
  | log name level message context =>
    exact ⟨⟨hs.logger, hs.factories⟩, fun _ => stream_of_writeRecord time herror hs⟩
  | trace name trace =>
    refine ⟨⟨hs.logger, hs.factories⟩, fun o ho => ?_⟩
    rw [step] at ho
    dsimp only at ho
    split at ho
    · exact stream_of_writeRecord time herror hs ho
    · cases ho
  | _ => exact ⟨⟨hs.logger, hs.factories⟩, List.forall_mem_nil _⟩

theorem writesTo_run {steps : List Step} (hsteps : ∀ x ∈ steps, ∀ stream ∈ x.streams,
    allowed stream) : ∀ reply ∈ (run host time s steps).2, ∀ o ∈ reply.output,
      allowed o.stream := by
  induction steps generalizing s with
  | nil => exact List.forall_mem_nil _
  | cons x rest ih =>
    obtain ⟨hnext, houtput⟩ := writesTo_step host time herror hs (hsteps x List.mem_cons_self)
    exact List.forall_mem_cons.2
      ⟨houtput, ih hnext fun y hy => hsteps y (List.mem_cons_of_mem x hy)⟩

end

theorem stream_of_run (env : Environment) {steps : List Step} {reply : Reply}
    (hreply : reply ∈ (run host time (start env) steps).2) {o : Log.Output}
    (ho : o ∈ reply.output) : StreamOf steps o.stream :=
  writesTo_run host time (.inl rfl) (writesTo_start env)
    (fun x hx _ hstream => .inr ⟨x, hx, hstream⟩) reply hreply o ho

end Session

end MediaTypes
