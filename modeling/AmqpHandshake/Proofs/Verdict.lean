import AmqpHandshake.Proofs.Findings
import AmqpHandshake.Proofs.Layers

/-! The verdict is a function of the history. A protocol error wins over any other failure and
that over a missing confirmation, in whatever order they came; among failures of one kind the
first one wins. -/
namespace AmqpHandshake

/-- The stage that a verdict blames, unless it is a success. -/
def Verdict.stage? : Verdict → Option Stage
  | .ok () => none
  | .error error => some error.stage

/-- The peer has opened the connection, and a session and a link outside the claims exchange. -/
structure Confirmed (history : List Moment) : Prop where
  connection : ∃ moment ∈ history, moment.event = .connectionRemoteOpen
  session : ∃ moment ∈ history, moment.openedSession?.isSome
  link : ∃ moment ∈ history, moment.openedLink?.isSome

/-- How a history decides an attempt, and at which stage the attempt failed if it did. -/
inductive Decided (around : Surroundings) (history : List Moment) :
    Verdict → Option Stage → Prop where
  | transport (first : history.findSome? Moment.condition? = some condition) :
      Decided around history (.error (.transportProtocol condition)) (some .transport)
  | setup (quiet : history.findSome? Moment.condition? = none)
      (first : history.findSome? (Moment.cause? around) = some cause)
      (source : ∃ moment ∈ history, moment.setupFault? around = some cause) :
      Decided around history (.error (.connectionFailed cause)) (some .setup)
  | authentication (quiet : history.findSome? Moment.condition? = none)
      (first : history.findSome? (Moment.cause? around) = some (.authentication error)) :
      Decided around history (.error (.connectionFailed (.authentication error)))
        (some .authentication)
  | timeout (quiet : history.findSome? Moment.condition? = none)
      (sound : history.findSome? (Moment.cause? around) = none) (missing : ¬ Confirmed history) :
      Decided around history (.error .timeout) (some .timeout)
  | success (quiet : history.findSome? Moment.condition? = none)
      (sound : history.findSome? (Moment.cause? around) = none) (confirmed : Confirmed history) :
      Decided around history (.ok ()) none

theorem ConnectionConfig.setupFault?_stage {read : FileReader} {config : ConnectionConfig}
    (fault : config.setupFault? read = some cause) :
    (HandshakeError.connectionFailed cause).stage = .setup := by
  unfold setupFault? at fault
  split at fault
  · rename_i failed
    cases fault
    obtain ⟨reason, rfl⟩ | ⟨reason, rfl⟩ := layers_error failed <;> rfl
  · cases fault
    rfl
  · cases fault

/-- A cause comes from binding the transport, or is one of authentication. -/
theorem Moment.cause?_cases {moment : Moment} (told : moment.cause? around = some cause) :
    moment.setupFault? around = some cause ∨ ∃ error, cause = .authentication error := by
  simp only [Moment.cause?, Option.or_eq_some_iff] at told
  rcases told with fault | ⟨_, told⟩
  · exact .inl fault
  · obtain ⟨outcome, _, failure⟩ := Option.bind_eq_some_iff.mp told
    cases outcome with
    | succeeded => cases failure
    | failed error => exact .inr ⟨error, (Option.some.inj failure).symm⟩

theorem Moment.setupFault?_stage {moment : Moment}
    (fault : moment.setupFault? around = some cause) :
    (HandshakeError.connectionFailed cause).stage = .setup := by
  unfold Moment.setupFault? at fault
  split at fault
  · exact ConnectionConfig.setupFault?_stage fault
  · cases fault

theorem confirmed_iff (around : Surroundings) {history : List Moment} :
    Confirmed history ↔ (Findings.ofHistory around history).allOpened = true := by
  simp only [Findings.allOpened, Findings.ofHistory, Bool.and_eq_true, List.any_eq_true,
    decide_eq_true_eq]
  constructor
  · intro confirmed
    exact ⟨⟨confirmed.connection, confirmed.session⟩, confirmed.link⟩
  · rintro ⟨⟨connection, session⟩, link⟩
    exact ⟨connection, session, link⟩

/-- A history decides for exactly one verdict: that of what it lets find out. -/
theorem decided_iff {around : Surroundings} {history : List Moment} {verdict : Verdict}
    {stage : Option Stage} :
    Decided around history verdict stage ↔
      verdict = (Findings.ofHistory around history).verdict ∧ stage = Verdict.stage? verdict := by
  constructor
  · intro decided
    cases decided with
    | transport first => exact ⟨(Findings.verdict_of_protocolError first).symm, rfl⟩
    | setup quiet first source =>
      obtain ⟨moment, _, fault⟩ := source
      exact ⟨(Findings.verdict_of_savedFailure quiet first).symm,
        congrArg some (Moment.setupFault?_stage fault).symm⟩
    | authentication quiet first =>
      exact ⟨(Findings.verdict_of_savedFailure quiet first).symm, rfl⟩
    | timeout quiet sound missing =>
      rw [confirmed_iff around] at missing
      exact ⟨by rw [Findings.verdict_of_sound quiet sound, if_neg missing], rfl⟩
    | success quiet sound confirmed =>
      rw [confirmed_iff around] at confirmed
      exact ⟨by rw [Findings.verdict_of_sound quiet sound, if_pos confirmed], rfl⟩
  · rintro ⟨rfl, rfl⟩
    cases quiet : history.findSome? Moment.condition? with
    | some condition =>
      rw [Findings.verdict_of_protocolError quiet]
      exact .transport quiet
    | none =>
      cases sound : history.findSome? (Moment.cause? around) with
      | some cause =>
        rw [Findings.verdict_of_savedFailure quiet sound]
        obtain ⟨moment, member, told⟩ := List.exists_of_findSome?_eq_some sound
        rcases Moment.cause?_cases told with fault | ⟨error, rfl⟩
        · have blamed := Moment.setupFault?_stage fault
          simpa [Verdict.stage?, blamed] using Decided.setup quiet sound ⟨moment, member, fault⟩
        · exact .authentication quiet sound
      | none =>
        rw [Findings.verdict_of_sound quiet sound]
        by_cases confirmed : Confirmed history
        · rw [if_pos ((confirmed_iff around).mp confirmed)]
          exact .success quiet sound confirmed
        · rw [if_neg (mt (confirmed_iff around).mpr confirmed)]
          exact .timeout quiet sound confirmed

theorem decided_start_iff {around : Surroundings}
    (begun : Attempt.start config containerId = .ok attempt) (events : List Event)
    {verdict : Verdict} {stage : Option Stage} :
    Decided around (attempt.history around events) verdict stage ↔
      verdict = (attempt.handleAll around events).verify.1 ∧ stage = Verdict.stage? verdict := by
  obtain ⟨_, rfl⟩ := Attempt.start_eq_ok_iff.mp begun
  rw [decided_iff, Attempt.verify_undecided (Attempt.undecided_handleAll rfl around events),
    Attempt.findings_handleAll rfl]
  exact Iff.of_eq (by rw [show Controller.findings _ = Findings.none from rfl, Findings.none_add])

/-- The first decision on an attempt that has only taken events is the one for its history. -/
theorem decided_handleAll {config : ConnectionConfig} (valid : config.validate = .ok ())
    (containerId : Uuid) (around : Surroundings) (events : List Event) :
    ∃ attempt, Attempt.start config containerId = .ok attempt ∧ ∀ verdict stage,
      Decided around (attempt.history around events) verdict stage ↔
        verdict = (attempt.handleAll around events).verify.1 ∧ stage = Verdict.stage? verdict := by
  have begun := Attempt.start_eq_ok_iff.mpr ⟨valid, Eq.refl (Attempt.fresh config containerId)⟩
  exact ⟨_, begun, fun verdict stage => decided_start_iff begun events⟩

/-- The failed claims exchange came before either protocol error, and still the first of those
decides. -/
theorem decided_protocolError_over_earlier_failure :
    Sample.config.validate = .ok () ∧
      Decided Sample.around (Sample.start.history Sample.around
        [.connectionRemoteOpen, .sessionRemoteClose ⟨1⟩ none, .transportError ⟨"amqp:first", none⟩,
          .connectionRemoteClose (some ⟨"amqp:second", none⟩)])
        (.error (.transportProtocol ⟨"amqp:first", none⟩)) (some .transport) := by
  refine ⟨rfl, ?_⟩
  obtain ⟨attempt, begun, decided⟩ := decided_handleAll Sample.config_valid ⟨0⟩ Sample.around
    [.connectionRemoteOpen, .sessionRemoteClose ⟨1⟩ none, .transportError ⟨"amqp:first", none⟩,
      .connectionRemoteClose (some ⟨"amqp:second", none⟩)]
  cases begun.symm.trans Sample.begun
  exact (decided _ _).mpr ⟨rfl, rfl⟩

end AmqpHandshake
