import MediaTypes.Proofs.Session.Run

/-!
# The resolver in force

At every point of a session one resolver is in force, or none is. An installation puts the resolver
of its number in force. A step that needs a resolver where none is in force has one built from the
environment of that moment, and if that succeeds then it is this one that is in force. What is in
force stays so, whatever happens to the environment, until a reset or the next installation.

Both notions are read off the history of steps. The default resolver that a session keeps is the one
in force, so that every step that needs a resolver is answered by the one in force.

## Main definitions

- `Session.Vacant` — the histories after which no resolver is in force
- `Session.InForce` — the resolver in force after a history
- `Session.Builds` — the histories after which a step has a resolver built

## Main statements

- `current_eq_some_iff`, `current_eq_none_iff` — the default resolver is the one in force
- `inForce_of_made` — a resolver that was made can be installed
- `not_builds_of_undisturbed` — at most one resolver is built between two resets or installations
- `default_resolver_lifecycle` — what the steps of a run are answered by
-/

namespace MediaTypes

namespace Session

/-- The resolver that the environment at the end of a history describes. -/
def describedAfter (host : Host) (time : String) (env : Environment) (history : List Step) :
    Except Failure Resolver :=
  described ((reached host time env history).onHost host) (environmentAfter env history)

/-- No resolver is in force: there was none at the start, or after a reset or an installation of
none, and since then nothing has been installed and every build has failed. -/
inductive Vacant (host : Host) (time : String) (env : Environment) : List Step → Prop where
  | start : Vacant host time env []
  | reset (earlier : List Step) : Vacant host time env (earlier ++ [.reset])
  /-- There is no resolver of that number. -/
  | unknown {earlier : List Step} {serial : Nat}
      (h : (reached host time env earlier).instances[serial]? = none) :
      Vacant host time env (earlier ++ [.install serial])
  | still {earlier : List Step} {x : Step} (h : Vacant host time env earlier)
      (replaces : ¬ x.Replaces)
      (build : x.Demands → ∃ e, describedAfter host time env earlier = .error e) :
      Vacant host time env (earlier ++ [x])

/-- A step that needs a resolver where none is in force has one built. -/
structure Builds (host : Host) (time : String) (env : Environment) (earlier : List Step)
    (call : Step) (r : Resolver) : Prop where
  demands : call.Demands
  vacant : Vacant host time env earlier
  describes : describedAfter host time env earlier = .ok r

/-- The resolver in force: the one installed or built most recently, if no reset has happened
since. -/
inductive InForce (host : Host) (time : String) (env : Environment) :
    List Step → Instance → Prop where
  | installed {earlier : List Step} {serial : Nat} {i : Instance}
      (h : (reached host time env earlier).instances[serial]? = some i) :
      InForce host time env (earlier ++ [.install serial]) i
  /-- The resolver built has the next number. -/
  | built {earlier : List Step} {call : Step} {r : Resolver}
      (h : Builds host time env earlier call r) :
      InForce host time env (earlier ++ [call]) ((reached host time env earlier).newInstance r true)
  | still {earlier : List Step} {x : Step} {i : Instance} (h : InForce host time env earlier i)
      (replaces : ¬ x.Replaces) : InForce host time env (earlier ++ [x]) i

variable {host : Host} {time : String} {env : Environment} {history : List Step}

/-- The environment at the end of a history is that of the session reached. -/
theorem describedNow_reached (host : Host) (time : String) (env : Environment)
    (history : List Step) :
    (reached host time env history).describedNow host = describedAfter host time env history := by
  rw [describedNow, environment_reached, describedAfter]

/-- Where no resolver is in force the session keeps none. -/
theorem Vacant.current_eq (h : Vacant host time env history) :
    (reached host time env history).current = none := by
  induction h with
  | start => rfl
  | reset earlier => rw [reached_concat]; rfl
  | @unknown earlier serial hnone =>
    exact ((effect_reached host time env earlier (.install serial)).of_install.1).trans hnone
  | @still earlier x _ replaces build ih =>
    rw [← describedNow_reached] at build
    exact (effect_reached host time env earlier x).of_none ih replaces build

/-- What a session looks like after a step that has a resolver built. -/
theorem Builds.effect {call : Step} {r : Resolver} (h : Builds host time env history call r) :
    (reached host time env (history ++ [call])).current =
        some ((reached host time env history).newInstance r true) ∧
      (reached host time env (history ++ [call])).instances =
        (reached host time env history).instances ++
          [(reached host time env history).newInstance r true] :=
  (effect_reached host time env history call).of_described h.demands h.vacant.current_eq
    ((describedNow_reached host time env history).trans h.describes)

/-- The session keeps the resolver in force. -/
theorem InForce.current_eq {i : Instance} (h : InForce host time env history i) :
    (reached host time env history).current = some i := by
  induction h with
  | @installed earlier serial i hsome =>
    exact ((effect_reached host time env earlier (.install serial)).of_install.1).trans hsome
  | built hbuilds => exact hbuilds.effect.1
  | @still earlier x i _ replaces ih =>
    exact (effect_reached host time env earlier x).of_some ih replaces

/-- After every history no resolver is in force, or one is. -/
theorem vacant_or_inForce (host : Host) (time : String) (env : Environment)
    (history : List Step) :
    Vacant host time env history ∨ ∃ i, InForce host time env history i := by
  -- the last step decides, together with what was in force before it
  induction history using List.reverseRecOn with
  | nil => exact .inl .start
  | append_singleton history x ih =>
    by_cases hreplaces : x.Replaces
    · rcases hreplaces with _ | serial
      · exact .inl (.reset history)
      · cases hi : (reached host time env history).instances[serial]? with
        | none => exact .inl (.unknown hi)
        | some i => exact .inr ⟨i, .installed hi⟩
    rcases ih with hvacant | ⟨i, hi⟩
    · cases hdescribed : describedAfter host time env history with
      | error e => exact .inl (hvacant.still hreplaces fun _ => ⟨e, hdescribed⟩)
      | ok r =>
        by_cases hcall : x.Demands
        · exact .inr ⟨_, .built ⟨hcall, hvacant, hdescribed⟩⟩
        · exact .inl (hvacant.still hreplaces fun h => absurd h hcall)
    · exact .inr ⟨i, hi.still hreplaces⟩

/-- The default resolver is the one in force. -/
theorem current_eq_some_iff {i : Instance} :
    (reached host time env history).current = some i ↔ InForce host time env history i := by
  refine ⟨fun h => ?_, fun h => h.current_eq⟩
  rcases vacant_or_inForce host time env history with hvacant | ⟨j, hj⟩
  · rw [hvacant.current_eq] at h
    cases h
  · obtain rfl := Option.some.inj (hj.current_eq.symm.trans h)
    exact hj

theorem current_eq_none_iff :
    (reached host time env history).current = none ↔ Vacant host time env history := by
  refine ⟨fun h => ?_, fun h => h.current_eq⟩
  rcases vacant_or_inForce host time env history with hvacant | ⟨i, hi⟩
  · exact hvacant
  · rw [hi.current_eq] at h
    cases h

/-- A step makes a resolver only where it says so, or has one built. -/
theorem makes_or_builds {x : Step}
    (h : (reached host time env (history ++ [x])).instances ≠
      (reached host time env history).instances) :
    (∃ source tables, x = .make source tables) ∨ ∃ r, Builds host time env history x r := by
  cases effect_reached host time env history x with
  | made => exact .inl ⟨_, _, rfl⟩
  | built demands vacant hdescribed =>
    exact .inr ⟨_, demands, current_eq_none_iff.1 vacant,
      (describedNow_reached host time env history).symm.trans hdescribed⟩
  | reset _ instances | installed _ instances | used _ _ _ instances | failed _ _ _ _ instances
  | untouched _ _ _ _ instances => exact absurd instances h

/-- The resolver that a step has made is put in force by the number that the step replied with, at
any later time. -/
theorem inForce_of_made {source : Platform.Source} {tables : Option Tables} {serial : Nat}
    (h : ((reached host time env history).step host time (.make source tables)).2.result =
      .ok (.made serial)) :
    ∃ i : Instance, i.resolver.tables = tables.getD Tables.standard ∧
      (source.build ((reached host time env history).onHost host)).outcome =
        .ok i.resolver.platform ∧
      ∀ later, InForce host time env (history ++ .make source tables :: later ++ [.install serial])
        i := by
  obtain ⟨platform, hbuild, rfl⟩ := exists_platform_of_made time h
  refine ⟨(reached host time env history).newInstance ⟨tables.getD Tables.standard, platform⟩
    tables.isNone, rfl, hbuild, fun later => .installed ?_⟩
  -- the resolver stays in its place
  have hprefix : history ++ [.make source tables] <+: history ++ .make source tables :: later :=
    ⟨later, by rw [List.append_assoc, List.singleton_append]⟩
  obtain ⟨further, hfurther⟩ := instances_kept host time env hprefix
  rw [← hfurther, (effect_reached host time env history (.make source tables)).of_make hbuild,
    List.append_assoc, List.getElem?_append_right (Nat.le_refl _), Nat.sub_self]
  rfl

/-- What is in force stays in force through steps that do not replace it. -/
theorem InForce.undisturbed {i : Instance} (h : InForce host time env history i)
    {later : List Step} (hlater : ∀ x ∈ later, ¬ x.Replaces) :
    InForce host time env (history ++ later) i := by
  induction later using List.reverseRecOn with
  | nil => exact (List.append_nil history).symm ▸ h
  | append_singleton later x ih =>
    rw [List.forall_mem_append, List.forall_mem_singleton] at hlater
    rw [← List.append_assoc]
    exact (ih hlater.1).still hlater.2

/-- After a resolver has been built none is built until the next reset or installation. -/
theorem not_builds_of_undisturbed {call : Step} {r : Resolver}
    (h : Builds host time env history call r) {later : List Step}
    (hlater : ∀ x ∈ later, ¬ x.Replaces) (next : Step) (r' : Resolver) :
    ¬ Builds host time env (history ++ call :: later) next r' := by
  intro hnext
  have hinForce := (InForce.built h).undisturbed hlater
  rw [List.append_assoc, List.singleton_append] at hinForce
  exact nomatch hnext.vacant.current_eq.symm.trans hinForce.current_eq

/-- A step that needs a resolver is answered by the one in force, which stays in force. -/
theorem InForce.uses {call : Step} (hcall : call.Demands) {i : Instance}
    (h : InForce host time env history i) :
    Uses (reached host time env history) i call
        ((reached host time env history).step host time call).2 ∧
      InForce host time env (history ++ [call]) i :=
  ⟨uses_of_some time hcall h.current_eq, h.still hcall.not_replaces⟩

/-- The resolver that a step has built answers it. No resolver that was there has its number. -/
theorem Builds.uses {call : Step} {r : Resolver} (h : Builds host time env history call r) :
    (∀ j ∈ (reached host time env history).instances,
        j.serial ≠ ((reached host time env history).newInstance r true).serial) ∧
      Uses (reached host time env history) ((reached host time env history).newInstance r true) call
        ((reached host time env history).step host time call).2 := by
  constructor
  · intro j hj
    obtain ⟨n, hn⟩ := List.mem_iff_getElem?.1 hj
    rw [serial_of_getElem? host time env hn]
    exact Nat.ne_of_lt (List.getElem?_eq_some_iff.1 hn).1
  · exact uses_of_described time h.demands h.vacant.current_eq
      ((describedNow_reached host time env history).trans h.describes)

/-- Where none is in force and none can be built, a step that needs one hands on the fault. -/
theorem Vacant.fault {call : Step} (hcall : call.Demands) {e : Failure}
    (h : Vacant host time env history)
    (hdescribed : describedAfter host time env history = .error e) :
    ((reached host time env history).step host time call).2.result = .error e ∧
      Vacant host time env (history ++ [call]) :=
  ⟨result_of_fault time hcall h.current_eq
      ((describedNow_reached host time env history).trans hdescribed),
    h.still hcall.not_replaces fun _ => ⟨e, hdescribed⟩⟩

/-- **The life cycle of the default resolver.** Every step of a run that needs a resolver is
answered by the one in force. Where none is in force it is answered by a new one, with a number that
no other resolver of the run has, which the environment of that moment describes and which is in
force from then on; or, where that environment describes none, its fault is handed on and none is in
force afterwards either. The default resolver is always the one in force, and after one was built
none is built before the next reset or installation. No resolver comes to the run but those built
and those that steps make, and the number that such a step replies with installs the resolver at any
later time. -/
theorem default_resolver_lifecycle (host : Host) (time : String) (env : Environment)
    (before after : List Step) {call : Step} (hcall : call.Demands) :
    (∃ reply,
      (run host time (start env) (before ++ call :: after)).2[before.length]? = some reply ∧
      (∀ i, InForce host time env before i →
        Uses (reached host time env before) i call reply ∧
          InForce host time env (before ++ [call]) i) ∧
      (Vacant host time env before → ∀ r, describedAfter host time env before = .ok r →
        ∃ i, i.resolver = r ∧ i.standardTables = true ∧
          (∀ j ∈ (reached host time env before).instances, j.serial ≠ i.serial) ∧
          Uses (reached host time env before) i call reply ∧
          InForce host time env (before ++ [call]) i) ∧
      (Vacant host time env before → ∀ e, describedAfter host time env before = .error e →
        reply.result = .error e ∧ Vacant host time env (before ++ [call]))) ∧
    (∀ i, (reached host time env before).current = some i ↔ InForce host time env before i) ∧
    ((reached host time env before).current = none ↔ Vacant host time env before) ∧
    (∀ r, Builds host time env before call r → ∀ later, (∀ x ∈ later, ¬ x.Replaces) →
      ∀ next r', ¬ Builds host time env (before ++ call :: later) next r') ∧
    (∀ x, (reached host time env (before ++ [x])).instances ≠
        (reached host time env before).instances →
      (∃ source tables, x = .make source tables) ∨ ∃ r, Builds host time env before x r) ∧
    ∀ source tables serial,
      ((reached host time env before).step host time (.make source tables)).2.result =
        .ok (.made serial) →
      ∃ i : Instance, i.resolver.tables = tables.getD Tables.standard ∧
        (source.build ((reached host time env before).onHost host)).outcome =
          .ok i.resolver.platform ∧
        ∀ later, InForce host time env (before ++ .make source tables :: later ++ [.install serial])
          i := by
  refine ⟨⟨_, reply_run host time env before after call, fun i hi => hi.uses hcall, ?built,
      fun hvacant e he => hvacant.fault hcall he⟩,
    fun i => current_eq_some_iff, current_eq_none_iff,
    fun r hbuilds later hlater => not_builds_of_undisturbed hbuilds hlater,
    fun x => makes_or_builds, fun source tables serial => inForce_of_made⟩
  intro hvacant r hr
  have hbuilds : Builds host time env before call r := ⟨hcall, hvacant, hr⟩
  obtain ⟨hnew, huses⟩ := hbuilds.uses
  exact ⟨_, rfl, rfl, hnew, huses, .built hbuilds⟩

/-- An environment whose level to log at is no level. -/
def loudEnvironment : Environment :=
  Dictionary.ofList [(Settings.levelVariable, "LOUD")]

/-- The variables that repair it; the platform is to be the one without entries. -/
def repair : Step :=
  .variables [(Settings.levelVariable, none), (Settings.platformVariable, some "none")]

/-- A question that fails, one that has the resolver built after a repair, and one that uses it
although the environment has changed again. -/
theorem default_resolver_lifecycle_repaired :
    (Vacant {} "" loudEnvironment [] ∧
      ∃ reply, (run {} "" (start loudEnvironment)
          ([] ++ .ask (.typeOf "png") :: [repair])).2[0]? = some reply ∧
        reply.result = .error (.settings (.unknownLevel "LOUD"))) ∧
    (Vacant {} "" loudEnvironment [.ask (.typeOf "png"), repair] ∧
      ∃ reply, (run {} "" (start loudEnvironment)
          ([.ask (.typeOf "png"), repair] ++ .ask (.typeOf "png") :: [])).2[2]? = some reply ∧
        ∃ i, i.resolver = ⟨Tables.standard, .silent⟩ ∧
          Uses (reached {} "" loudEnvironment [.ask (.typeOf "png"), repair]) i
            (.ask (.typeOf "png")) reply) ∧
    (InForce {} "" loudEnvironment
        [.ask (.typeOf "png"), repair, .ask (.typeOf "png"),
          .variables [(Settings.platformVariable, some "system")]]
        ⟨0, ⟨Tables.standard, .silent⟩, true⟩ ∧
      ∃ reply, (run {} "" (start loudEnvironment)
          ([.ask (.typeOf "png"), repair, .ask (.typeOf "png"),
            .variables [(Settings.platformVariable, some "system")]] ++ .showDefault :: [])).2[4]? =
          some reply ∧
        reply.result = .ok (.resolver 0 "none" true)) := by
  have hfault : describedAfter {} "" loudEnvironment [] =
      .error (.settings (.unknownLevel "LOUD")) := rfl
  have hrepaired : describedAfter {} "" loudEnvironment [.ask (.typeOf "png"), repair] =
      .ok ⟨Tables.standard, .silent⟩ := rfl
  have hstart : Vacant {} "" loudEnvironment [] := .start
  have hvacant : Vacant {} "" loudEnvironment [.ask (.typeOf "png"), repair] :=
    (hstart.still (x := .ask (.typeOf "png")) (by rintro ⟨⟩) fun _ => ⟨_, hfault⟩).still
      (by rintro ⟨⟩) (by rintro ⟨⟩)
  have hforce : InForce {} "" loudEnvironment
      [.ask (.typeOf "png"), repair, .ask (.typeOf "png"),
        .variables [(Settings.platformVariable, some "system")]]
      ⟨0, ⟨Tables.standard, .silent⟩, true⟩ :=
    .still (.built ⟨.ask (.typeOf "png"), hvacant, hrepaired⟩) (by rintro ⟨⟩)
  obtain ⟨⟨reply₀, hreply₀, -, -, fault⟩, -⟩ :=
    default_resolver_lifecycle {} "" loudEnvironment [] [repair] (.ask (.typeOf "png"))
  obtain ⟨⟨reply₂, hreply₂, -, built, -⟩, -⟩ :=
    default_resolver_lifecycle {} "" loudEnvironment [.ask (.typeOf "png"), repair] []
      (.ask (.typeOf "png"))
  obtain ⟨⟨reply₄, hreply₄, inForce, -, -⟩, -⟩ :=
    default_resolver_lifecycle {} "" loudEnvironment
      [.ask (.typeOf "png"), repair, .ask (.typeOf "png"),
        .variables [(Settings.platformVariable, some "system")]] [] .showDefault
  obtain ⟨i, hi, -, -, huses, -⟩ := built hvacant _ hrepaired
  refine ⟨⟨hstart, reply₀, hreply₀, (fault hstart _ hfault).1⟩,
    ⟨hvacant, reply₂, hreply₂, i, hi, huses⟩, hforce, reply₄, hreply₄, ?_⟩
  obtain ⟨hshown⟩ := (inForce _ hforce).1
  rw [hshown]
  rfl

end Session

end MediaTypes
