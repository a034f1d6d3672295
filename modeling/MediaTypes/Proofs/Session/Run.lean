import MediaTypes.Proofs.Session.Effect
import Mathlib.Data.List.Induction

/-!
# Runs from the start

A run of two rows of steps is a run of the first row followed by one of the second. Hence each
reply of a run is the reply to its step in the session that the steps before it have reached, and
what every step keeps is kept by the whole run.

## Main definitions

- `Session.reached` — the session that a history of steps reaches from the start
- `Session.environmentAfter` — the environment that a history leaves

## Main statements

- `reply_run`, `reply_of_getElem?` — the reply at a place of a run
- `environment_reached` — the environment of the session reached
- `instances_kept` — the resolvers made stay, in their places
- `serial_of_getElem?` — the number of a resolver is its place
-/

namespace MediaTypes

namespace Session

theorem run_append (host : Host) (time : String) (s : Session) (xs ys : List Step) :
    run host time s (xs ++ ys) =
      ((run host time (run host time s xs).1 ys).1,
        (run host time s xs).2 ++ (run host time (run host time s xs).1 ys).2) := by
  induction xs generalizing s with
  | nil => rfl
  | cons x rest ih => simp only [List.cons_append, run, ih]

theorem length_replies (host : Host) (time : String) (s : Session) (steps : List Step) :
    (run host time s steps).2.length = steps.length := by
  induction steps generalizing s with
  | nil => rfl
  | cons x rest ih => simp only [run, List.length_cons, ih]

/-- The session that a history of steps reaches from the start. -/
def reached (host : Host) (time : String) (env : Environment) (history : List Step) : Session :=
  (run host time (start env) history).1

/-- The environment that a history of steps leaves. -/
def environmentAfter (env : Environment) (history : List Step) : Environment :=
  history.foldl Step.environment env

variable (host : Host) (time : String) (env : Environment)

theorem reached_concat (history : List Step) (x : Step) :
    reached host time env (history ++ [x]) =
      ((reached host time env history).step host time x).1 := by
  rw [reached, run_append]
  rfl

/-- The reply at a place of a run is the reply to its step in the session reached before. -/
theorem reply_run (before after : List Step) (x : Step) :
    (run host time (start env) (before ++ x :: after)).2[before.length]? =
      some ((reached host time env before).step host time x).2 := by
  rw [run_append, List.getElem?_append_right (Nat.le_of_eq (length_replies _ _ _ _)),
    length_replies, Nat.sub_self]
  rfl

theorem reply_of_getElem? {steps : List Step} {n : Nat} {x : Step} (hx : steps[n]? = some x) :
    (run host time (start env) steps).2[n]? =
      some ((reached host time env (steps.take n)).step host time x).2 := by
  obtain ⟨hn, rfl⟩ := List.getElem?_eq_some_iff.1 hx
  have hreply := reply_run host time env (steps.take n) (steps.drop (n + 1)) steps[n]
  rwa [← List.drop_eq_getElem_cons hn, List.take_append_drop,
    List.length_take_of_le (Nat.le_of_lt hn)] at hreply

/-- The environment of the session reached is the one that the history leaves. -/
theorem environment_reached (history : List Step) :
    (reached host time env history).environment = environmentAfter env history := by
  -- a step sees the environment that the history before it has left
  induction history using List.reverseRecOn with
  | nil => rfl
  | append_singleton history x ih =>
    rw [reached_concat, environment_step, ih, environmentAfter, environmentAfter,
      List.foldl_append]
    rfl

theorem effect_reached (history : List Step) (x : Step) :
    Effect host (reached host time env history) (reached host time env (history ++ [x])) x := by
  rw [reached_concat]
  exact step_effect host time _ x

/-- The resolvers made stay, in their places. -/
theorem instances_kept {earlier history : List Step} (h : earlier <+: history) :
    (reached host time env earlier).instances <+: (reached host time env history).instances := by
  obtain ⟨later, rfl⟩ := h
  induction later using List.reverseRecOn with
  | nil => simp only [List.append_nil, List.prefix_refl]
  | append_singleton later x ih =>
    rw [← List.append_assoc]
    exact ih.trans (effect_reached host time env (earlier ++ later) x).instances_kept

/-- The number of a resolver is its place. -/
theorem serial_of_getElem? {history : List Step} {n : Nat} {i : Instance}
    (h : (reached host time env history).instances[n]? = some i) : i.serial = n := by
  -- a step adds no resolver but one that has the next number
  have hnext : ∀ {s : Session} {r : Resolver} {standard : Bool},
      (s.instances[n]? = some i → i.serial = n) →
      (s.instances ++ [s.newInstance r standard])[n]? = some i → i.serial = n := by
    intro s r standard hold hn
    rw [List.getElem?_append] at hn
    split at hn
    · exact hold hn
    · rw [List.getElem?_singleton] at hn
      split at hn
      · obtain rfl := Option.some.inj hn
        simp only [newInstance]
        omega
      · cases hn
  induction history using List.reverseRecOn with
  | nil => cases h
  | append_singleton history x ih =>
    cases effect_reached host time env history x with
    | made _ _ instances | built _ _ _ _ instances => exact hnext ih (instances ▸ h)
    | reset _ instances | installed _ instances | used _ _ _ instances
    | failed _ _ _ _ instances | untouched _ _ _ _ instances => exact ih (instances ▸ h)

end Session

end MediaTypes
