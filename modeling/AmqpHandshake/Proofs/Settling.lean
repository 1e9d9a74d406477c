import AmqpHandshake.Proofs.Findings

/-! What a settled attempt can still come to. Only a protocol error settles it for good: after any
other failure, and after a success, later events can still change the verdict. -/
namespace AmqpHandshake

namespace Findings

/-- Whether findings end the wait. -/
def isSettled (findings : Findings) : Bool :=
  findings.protocolError.isSome || findings.savedFailure.isSome ||
    (findings.allOpened && findings.authenticated)

/-- Later findings tell no failure that counts for more than those found earlier. -/
def Spares (later earlier : Findings) : Prop :=
  earlier.protocolError.isSome ∨
    later.protocolError = .none ∧ (earlier.savedFailure.isSome ∨ later.savedFailure = .none)

theorem allOpened_add {earlier : Findings} (opened : earlier.allOpened = true)
    (later : Findings) : (earlier.add later).allOpened = true := by
  simp only [allOpened, Bool.and_eq_true] at opened
  simp [allOpened, add, opened]

theorem verdict_ne_transport {findings : Findings} (quiet : findings.protocolError = .none)
    (condition : ErrorCondition) : findings.verdict ≠ .error (.transportProtocol condition) := by
  intro blamed
  simp only [verdict, quiet] at blamed
  split at blamed
  · contradiction
  · cases blamed
  · split at blamed <;> cases blamed

/-- A protocol error is what the verdict stays at. -/
theorem verdict_add_of_protocolError {earlier : Findings}
    (found : earlier.protocolError = some condition) (later : Findings) :
    (earlier.add later).verdict = earlier.verdict := by
  have kept : (earlier.add later).protocolError = some condition := by simp [add, found]
  rw [verdict_of_protocolError found, verdict_of_protocolError kept]

/-- Any other failure is what the verdict stays at until there is a protocol error. -/
theorem verdict_add_of_savedFailure {earlier : Findings} (quiet : earlier.protocolError = .none)
    (found : earlier.savedFailure = some cause) (later : Findings) :
    (earlier.add later).verdict = earlier.verdict ↔ later.protocolError = .none := by
  have kept : (earlier.add later).savedFailure = some cause := by simp [add, found]
  cases told : later.protocolError with
  | none =>
    have stillQuiet : (earlier.add later).protocolError = .none := by simp [add, quiet, told]
    rw [verdict_of_savedFailure quiet found, verdict_of_savedFailure stillQuiet kept]
    simp
  | some condition =>
    have first : (earlier.add later).protocolError = some condition := by simp [add, quiet, told]
    rw [verdict_of_protocolError first]
    simpa using (verdict_ne_transport quiet condition).symm

/-- A success stays one until there is a failure. -/
theorem verdict_add_of_opened {earlier : Findings} (quiet : earlier.protocolError = .none)
    (sound : earlier.savedFailure = .none) (opened : earlier.allOpened = true)
    (later : Findings) :
    (earlier.add later).verdict = earlier.verdict ↔
      later.protocolError = .none ∧ later.savedFailure = .none := by
  have success : earlier.verdict = .ok () := by rw [verdict_of_sound quiet sound, if_pos opened]
  rw [success]
  cases told : later.protocolError with
  | some condition =>
    have first : (earlier.add later).protocolError = some condition := by simp [add, quiet, told]
    simp [verdict_of_protocolError first]
  | none =>
    have stillQuiet : (earlier.add later).protocolError = .none := by simp [add, quiet, told]
    cases failure : later.savedFailure with
    | some cause =>
      have first : (earlier.add later).savedFailure = some cause := by simp [add, sound, failure]
      simp [verdict_of_savedFailure stillQuiet first]
    | none =>
      have stillSound : (earlier.add later).savedFailure = .none := by simp [add, sound, failure]
      simp [verdict_of_sound stillQuiet stillSound, allOpened_add opened later]

/-- Settled findings keep their verdict under exactly those later ones that spare them. -/
theorem verdict_add_iff {earlier : Findings} (settled : earlier.isSettled = true)
    (later : Findings) :
    (earlier.add later).verdict = earlier.verdict ↔ later.Spares earlier := by
  cases quiet : earlier.protocolError with
  | some condition =>
    simp [verdict_add_of_protocolError quiet, Spares, quiet]
  | none =>
    cases sound : earlier.savedFailure with
    | some cause =>
      simp [verdict_add_of_savedFailure quiet sound, Spares, quiet, sound]
    | none =>
      simp only [isSettled, quiet, sound, Option.isSome_none, Bool.false_or,
        Bool.and_eq_true] at settled
      simp [verdict_add_of_opened quiet sound settled.1, Spares, quiet, sound]

end Findings

/-- As long as nothing is decided, whether an attempt is settled is a matter of findings. -/
theorem Controller.isSettled_eq {controller : Controller} (undecided : controller.verdict = none) :
    controller.isSettled = controller.findings.isSettled := by
  simp only [Controller.isSettled, undecided]
  rfl

namespace Attempt

/-- A history tells no failure that counts for more than those that an attempt has met. -/
structure SparedBy (around : Surroundings) (attempt : Attempt) (history : List Moment) : Prop where
  quiet : ∀ moment ∈ history, moment.condition? = none
  sound : attempt.controller.state.savedFailure = none →
    ∀ moment ∈ history, moment.cause? around = none

theorem spares_iff {around : Surroundings} {attempt : Attempt} {history : List Moment} :
    (Findings.ofHistory around history).Spares attempt.controller.findings ↔
      attempt.controller.protocolError.isSome ∨ attempt.SparedBy around history := by
  simp only [Findings.Spares, Findings.ofHistory, Controller.findings, List.findSome?_eq_none_iff]
  refine or_congr Iff.rfl ⟨?_, fun spared => ⟨spared.quiet, ?_⟩⟩
  · rintro ⟨quiet, sound⟩
    refine ⟨quiet, fun unsaved => ?_⟩
    simpa [unsaved] using sound
  · cases saved : attempt.controller.state.savedFailure with
    | some cause => exact .inl rfl
    | none => exact .inr (spared.sound saved)

/-- The verdict on a settled attempt stands exactly under those events that tell no failure of
more weight. It stands under all events exactly if a protocol error has settled the attempt. -/
theorem settled_verdict_stands_iff {around : Surroundings} {attempt : Attempt}
    (reached : Reached around attempt) (settled : attempt.controller.isSettled = true) :
    (∀ more, (attempt.handleAll around more).verify.1 = attempt.verify.1 ↔
      attempt.controller.protocolError.isSome ∨
        attempt.SparedBy around (attempt.history around more)) ∧
    ((∀ more, (attempt.handleAll around more).verify.1 = attempt.verify.1) ↔
      attempt.controller.protocolError.isSome) := by
  have stands (more : List Event) : (attempt.handleAll around more).verify.1 = attempt.verify.1 ↔
      attempt.controller.protocolError.isSome ∨
        attempt.SparedBy around (attempt.history around more) := by
    rw [verify_undecided reached.undecided, verify_undecided (reached.handleAll more).undecided,
      findings_handleAll reached.undecided, ← spares_iff]
    exact Findings.verdict_add_iff (Controller.isSettled_eq reached.undecided ▸ settled) _
  refine ⟨stands, fun always => ?_, fun final more => (stands more).mpr (.inl final)⟩
  -- An error that the engine observes next would be told of in any case.
  rcases (stands [.transportError ⟨"", none⟩]).mp (always _) with final | spared
  · exact final
  · have told := spared.quiet _ (List.mem_singleton.mpr rfl)
    cases told

/-- A success is settled, and the hub takes it back by closing the connection with an error. -/
theorem settled_success_taken_back :
    ∃ attempt, Reached Sample.around attempt ∧ attempt.controller.isSettled = true ∧
      attempt.verify.1 = .ok () ∧
      ¬ (attempt.handleAll Sample.around
        [.connectionRemoteClose (some ⟨"amqp:connection:forced", none⟩)]).verify.1 =
          attempt.verify.1 := by
  have reached := Sample.reached.handleAll [.connectionRemoteOpen, .linkRemoteOpen ⟨2⟩,
    .linkRemoteOpen ⟨3⟩, .cbsResponse ⟨3⟩ 200 none, .sessionRemoteOpen ⟨4⟩, .linkRemoteOpen ⟨5⟩]
  refine ⟨_, reached, rfl, rfl, fun stands => ?_⟩
  rcases ((settled_verdict_stands_iff reached rfl).1 _).mp stands with final | spared
  · cases final
  · have told := spared.quiet _ (List.mem_singleton.mpr rfl)
    cases told

/-- Being settled does not keep the verdict: a protocol error after a failed claims exchange is
still told of. -/
theorem settled_verdict_not_final :
    ¬ ∀ around attempt, Reached around attempt → attempt.controller.isSettled = true →
      ∀ more, (attempt.handleAll around more).verify.1 = attempt.verify.1 := by
  intro final
  have failed := Sample.reached.handleAll [.connectionRemoteOpen, .sessionRemoteClose ⟨1⟩ none]
  have same := final Sample.around _ failed rfl [.transportError ⟨"amqp:internal-error", none⟩]
  cases same

end Attempt

end AmqpHandshake
