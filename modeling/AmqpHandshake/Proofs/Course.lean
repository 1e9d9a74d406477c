import AmqpHandshake.Proofs.Findings

/-! Courses of an attempt: events are handled, and the verdict is asked for at any time. -/
namespace AmqpHandshake

/-- What is done to an attempt from outside. -/
inductive Action
  | handle (event : Event)
  /-- Ask for the verdict. -/
  | verify
deriving DecidableEq, Repr

namespace Attempt

def act (around : Surroundings) (attempt : Attempt) : Action → Attempt
  | .handle event => attempt.handle around event
  | .verify => attempt.verify.2

def actAll (around : Surroundings) (attempt : Attempt) (actions : List Action) : Attempt :=
  actions.foldl (act around) attempt

/-- The moments of all events among some actions. -/
def moments (around : Surroundings) (attempt : Attempt) : List Action → List Moment
  | [] => []
  | .handle event :: more => ⟨attempt, event⟩ :: (attempt.handle around event).moments around more
  | .verify :: more => attempt.verify.2.moments around more

theorem actAll_append (around : Surroundings) (attempt : Attempt) (first second : List Action) :
    attempt.actAll around (first ++ second) =
      (attempt.actAll around first).actAll around second :=
  List.foldl_append

/-- Events alone are a course in which no verdict is asked for. -/
theorem actAll_handle (around : Surroundings) (attempt : Attempt) (events : List Event) :
    attempt.actAll around (events.map .handle) = attempt.handleAll around events :=
  List.foldl_map

theorem handle_decided {attempt : Attempt} (decided : attempt.controller.verdict.isSome)
    (around : Surroundings) (event : Event) : attempt.handle around event = attempt := by
  unfold handle
  split
  · rfl
  · rename_i undecided
    simp [undecided] at decided

/-- What events and verdicts keep holds after every course. An event is either ignored, once there
is a verdict, or reacted to. -/
theorem actAll_induction {motive : List Moment → Attempt → Prop} {around : Surroundings}
    (ignore : ∀ log attempt event, attempt.controller.verdict.isSome → motive log attempt →
      motive (log ++ [⟨attempt, event⟩]) attempt)
    (react : ∀ log attempt event, attempt.controller.verdict = none → motive log attempt →
      motive (log ++ [⟨attempt, event⟩]) (attempt.react around event))
    (verify : ∀ log attempt, motive log attempt → motive log attempt.verify.2)
    {log : List Moment} {attempt : Attempt} (start : motive log attempt) (actions : List Action) :
    motive (log ++ attempt.moments around actions) (attempt.actAll around actions) := by
  induction actions generalizing log attempt with
  | nil => simpa [moments, actAll] using start
  | cons action rest ih =>
    cases action with
    | verify => exact ih (verify log attempt start)
    | handle event =>
      have next : motive (log ++ [⟨attempt, event⟩]) (attempt.handle around event) := by
        cases verdict : attempt.controller.verdict with
        | none =>
          rw [handle_undecided verdict]
          exact react log attempt event verdict start
        | some _ =>
          have decided : attempt.controller.verdict.isSome := by rw [verdict]; rfl
          rw [handle_decided decided]
          exact ignore log attempt event decided start
      rw [moments, List.append_cons]
      exact ih next

end Attempt

end AmqpHandshake
