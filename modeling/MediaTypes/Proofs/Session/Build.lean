import MediaTypes.Session.Basic

/-!
# Building the default resolver

An environment describes a resolver, or it has a fault and describes none. A build follows the
environment of the session: it makes the resolver described a new one and the default one, or it
hands on the fault and makes none. Of the rest of the session it touches only the logger, and the
note that the process has prepared its own table of types.

## Main definitions

- `Session.described` — the resolver that an environment describes
- `Session.describedNow` — the one that the environment of a session describes

## Main statements

- `build_spec` — the two outcomes of a build
- `demand_of_some`, `demand_of_none` — a default resolver that is there is used as it is
-/

namespace MediaTypes

namespace Session

/-- The resolver that an environment describes, or the fault that keeps it from describing one. -/
def described (host : Host) (env : Environment) : Except Failure Resolver :=
  match Settings.load env with
  | .error e => .error (.settings e)
  | .ok settings =>
    match (Platform.choose host settings.platform).outcome with
    | .error failure => .error (.platform failure)
    | .ok platform => .ok ⟨Tables.standard, platform⟩

/-- The resolver that the environment of a session describes, on the host as it is by then. -/
def describedNow (host : Host) (s : Session) : Except Failure Resolver :=
  described (s.onHost host) s.environment

/-- A build in the environment asks for the system's database, so that the process prepares its own
table. -/
def preparedBy (host : Host) (env : Environment) : Bool :=
  match Settings.load env with
  | .error _ => false
  | .ok settings => (Platform.choose host settings.platform).prepares

variable (host : Host) (time : String) (s : Session)

theorem prepared_build : (s.build host time).session.prepared =
    (s.prepared || preparedBy (s.onHost host) s.environment) := by
  rw [build, preparedBy]
  cases Settings.load s.environment with
  | error e => exact (Bool.or_false _).symm
  | ok settings =>
    dsimp only
    cases (Platform.choose (s.onHost host) settings.platform).outcome <;> rfl

/-- A build makes the resolver described a new one of the session and the default one, or it hands
on the fault. -/
theorem build_spec :
    (s.build host time).session.environment = s.environment ∧
      (s.build host time).session.shown = s.shown ∧
      match s.describedNow host with
      | .error e =>
        (s.build host time).result = .error e ∧
          (s.build host time).session.current = s.current ∧
          (s.build host time).session.instances = s.instances
      | .ok r =>
        (s.build host time).result = .ok (s.newInstance r true) ∧
          (s.build host time).session.current = some (s.newInstance r true) ∧
          (s.build host time).session.instances = s.instances ++ [s.newInstance r true] := by
  rw [build, describedNow, described]
  cases Settings.load s.environment with
  | error e => exact ⟨rfl, rfl, rfl, rfl, rfl⟩
  | ok settings =>
    dsimp only
    cases (Platform.choose (s.onHost host) settings.platform).outcome with
    | error failure => exact ⟨rfl, rfl, rfl, rfl, rfl⟩
    | ok platform => exact ⟨rfl, rfl, rfl, rfl, rfl⟩

variable {host s}

theorem build_of_described_ok {r : Resolver} (h : s.describedNow host = .ok r) :
    (s.build host time).result = .ok (s.newInstance r true) ∧
      (s.build host time).session.current = some (s.newInstance r true) ∧
      (s.build host time).session.instances = s.instances ++ [s.newInstance r true] := by
  have hspec := (build_spec host time s).2.2
  rwa [h] at hspec

theorem build_of_described_error {e : Failure} (h : s.describedNow host = .error e) :
    (s.build host time).result = .error e ∧
      (s.build host time).session.current = s.current ∧
      (s.build host time).session.instances = s.instances := by
  have hspec := (build_spec host time s).2.2
  rwa [h] at hspec

theorem demand_of_some {i : Instance} (h : s.current = some i) :
    s.demand host time = ⟨s, [], .ok i⟩ := by
  rw [demand, h]

theorem demand_of_none (h : s.current = none) : s.demand host time = s.build host time := by
  rw [demand, h]

variable (host s) in
theorem demand_frame :
    (s.demand host time).session.environment = s.environment ∧
      (s.demand host time).session.shown = s.shown := by
  cases h : s.current with
  | some i =>
    rw [demand_of_some time h]
    exact ⟨rfl, rfl⟩
  | none =>
    rw [demand_of_none time h]
    exact ⟨(build_spec host time s).1, (build_spec host time s).2.1⟩

end Session

end MediaTypes
