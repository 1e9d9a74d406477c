import AmqpHandshake.Proofs.Calls
import AmqpHandshake.Proofs.CutOff
import AmqpHandshake.Proofs.Settling
import AmqpHandshake.Proofs.WriteOnce

/-! The first failure ends a run. An attempt by itself would go on after a failure, and it puts
failures of one kind before those of another. But a run hands no event to an attempt that has
failed, and no event tells two failures. -/
namespace AmqpHandshake

/-- Whether an error tells of a failure of the connection, and not of a bad argument or of time. -/
def HandshakeError.isFailure : HandshakeError → Bool
  | .transportProtocol _ | .connectionFailed _ => true
  | _ => false

namespace Findings

/-- The failures among some findings, the one that decides first. -/
def failures (findings : Findings) : List HandshakeError :=
  (findings.protocolError.map .transportProtocol).toList ++
    (findings.savedFailure.map .connectionFailed).toList

theorem failures_eq_nil_iff {findings : Findings} :
    findings.failures = [] ↔ findings.protocolError = .none ∧ findings.savedFailure = .none := by
  simp [failures]

theorem failures_add {earlier : Findings} (sound : earlier.failures = []) (later : Findings) :
    (earlier.add later).failures = later.failures := by
  obtain ⟨protocolError, savedFailure⟩ := failures_eq_nil_iff.mp sound
  simp [failures, add, protocolError, savedFailure]

theorem verdict_of_failures {findings : Findings} (failed : findings.failures = error :: more) :
    findings.verdict = .error error := by
  cases blamed : findings.protocolError with
  | some condition =>
    simp only [failures, blamed, Option.map_some, Option.toList_some, List.cons_append] at failed
    rw [verdict_of_protocolError blamed, (List.cons.inj failed).1]
  | none =>
    cases saved : findings.savedFailure with
    | some cause =>
      simp only [failures, blamed, saved, Option.map_none, Option.map_some, Option.toList_some,
        Option.toList_none, List.nil_append] at failed
      rw [verdict_of_savedFailure blamed saved, (List.cons.inj failed).1]
    | none => simp [failures, blamed, saved] at failed

/-- A verdict that tells of a failure is about a failure that was found. -/
theorem failures_ne_nil_of_verdict {findings : Findings} (decided : findings.verdict = .error error)
    (failure : error.isFailure = true) : findings.failures ≠ [] := by
  intro sound
  obtain ⟨protocolError, savedFailure⟩ := failures_eq_nil_iff.mp sound
  rw [verdict_of_sound protocolError savedFailure] at decided
  split at decided
  · cases decided
  · cases decided
    cases failure

theorem failures_of_unsettled {findings : Findings} (unsettled : findings.isSettled = false) :
    findings.failures = [] := by
  simp only [isSettled, Bool.or_eq_false_iff, Option.isSome_eq_false_iff,
    Option.isNone_iff_eq_none] at unsettled
  exact failures_eq_nil_iff.mpr unsettled.1

end Findings

/-- An event that tells of a protocol error lets nothing else fail. -/
theorem Moment.condition?_eq_none_or_cause?_eq_none (around : Surroundings) (moment : Moment) :
    moment.condition? = none ∨ moment.cause? around = none := by
  obtain ⟨attempt, event⟩ := moment
  cases event with
  | transportError | connectionRemoteClose => exact .inr rfl
  | sessionRemoteClose session condition =>
    cases own : attempt.controller.isCbsSession session with
    | true => exact .inl (by simp [condition?, own])
    | false =>
      rw [Controller.isCbsSession_eq, Option.isSome_eq_false_iff, Option.isNone_iff_eq_none] at own
      exact .inr (by simp [cause?, setupFault?, outcome?, own])
  | linkRemoteClose link condition =>
    cases own : attempt.controller.isCbsLink link with
    | true => exact .inl (by simp [condition?, own])
    | false =>
      rw [Controller.isCbsLink_eq, Option.isSome_eq_false_iff, Option.isNone_iff_eq_none] at own
      exact .inr (by simp [cause?, setupFault?, outcome?, own])
  | _ => exact .inl rfl

theorem Findings.failures_ofMoment (around : Surroundings) (moment : Moment) :
    (Findings.ofMoment around moment).failures.length ≤ 1 := by
  have apart := moment.condition?_eq_none_or_cause?_eq_none around
  simp only [failures, ofMoment, List.length_append]
  rcases apart with quiet | sound
  · rw [quiet]
    cases moment.cause? around <;> simp
  · rw [sound]
    cases moment.condition? <;> simp

theorem Credentials.validate_error {credentials : Credentials}
    (invalid : credentials.validate = .error error) : error.isFailure = false := by
  cases credentials with
  | sharedAccessSignature userName sasToken =>
    simp only [validate] at invalid
    split at invalid
    · cases invalid
      rfl
    · split at invalid
      · cases invalid
        rfl
      · cases invalid
  | tokenProvider => cases invalid

theorem ProxyOptions.validate_error {proxy : ProxyOptions}
    (invalid : proxy.validate = .error error) : error.isFailure = false := by
  simp only [validate] at invalid
  split at invalid
  · cases invalid
    rfl
  · split at invalid
    · cases invalid
      rfl
    · cases invalid

/-- A configuration is refused for a bad argument alone. -/
theorem ConnectionConfig.validate_error {config : ConnectionConfig}
    (invalid : config.validate = .error error) : error.isFailure = false := by
  simp only [validate] at invalid
  split at invalid
  · cases invalid
    rfl
  · cases valid : config.credentials.validate with
    | error fault =>
      rw [valid] at invalid
      cases invalid
      exact Credentials.validate_error valid
    | ok _ =>
      rw [valid] at invalid
      cases through : config.proxy with
      | none =>
        rw [through] at invalid
        cases invalid
      | some proxy =>
        rw [through] at invalid
        exact ProxyOptions.validate_error invalid

theorem Attempt.start_error (refused : Attempt.start config containerId = .error error) :
    error.isFailure = false := by
  cases valid : config.validate with
  | ok _ =>
    rw [Attempt.start_eq_ok_iff.mpr ⟨valid, rfl⟩] at refused
    cases refused
  | error fault =>
    simp only [start, Controller.start, valid] at refused
    cases refused
    exact ConnectionConfig.validate_error valid

namespace Attempt

/-- The last of some events records a failure, the only one, and no event before it records any. -/
structure FailsLast (around : Surroundings) (attempt : Attempt) (events : List Event)
    (error : HandshakeError) : Prop where
  last : ∃ earlier event, events = earlier ++ [event]
  sound : ∀ moment ∈ attempt.history around events,
    moment.attempt.controller.findings.failures = []
  failed : (attempt.handleAll around events).controller.findings.failures = [error]

variable {around : Surroundings} {attempt : Attempt}

theorem failures_of_unsettled (undecided : attempt.controller.verdict = none)
    (unsettled : attempt.controller.isSettled = false) :
    attempt.controller.findings.failures = [] :=
  Findings.failures_of_unsettled (Controller.isSettled_eq undecided ▸ unsettled)

/-- One event records at most one failure. -/
theorem failures_handle (undecided : attempt.controller.verdict = none)
    (sound : attempt.controller.findings.failures = []) (around : Surroundings) (event : Event) :
    (attempt.handle around event).controller.findings.failures.length ≤ 1 := by
  rw [handle_undecided undecided, findings_react, Findings.failures_add sound]
  exact Findings.failures_ofMoment around ⟨attempt, event⟩

theorem verify_of_conclusion (reported : (attempt.conclusion endMs).result = .error error) :
    attempt.verify.1 = .error error := by
  simp only [conclusion] at reported
  cases decided : attempt.verify.1 with
  | ok _ =>
    rw [decided] at reported
    cases reported
  | error fault =>
    rw [decided] at reported
    exact congrArg Except.error (Except.error.inj reported)

/-- A failure is the last thing that is handled, where only unsettled attempts handle anything. -/
theorem failsLast_of_unsettled (undecided : attempt.controller.verdict = none)
    (sound : attempt.controller.findings.failures = [])
    (unsettled : ∀ moment ∈ attempt.history around events,
      moment.attempt.controller.isSettled = false)
    (decided : (attempt.handleAll around events).verify.1 = .error error)
    (failure : error.isFailure = true) : attempt.FailsLast around events error := by
  have soundAll : ∀ moment ∈ attempt.history around events,
      moment.attempt.controller.findings.failures = [] := by
    intro moment member
    obtain ⟨earlier, later, split, met⟩ := mem_history_iff.mp member
    apply failures_of_unsettled
    · rw [met]
      exact undecided_handleAll undecided around earlier
    · exact unsettled moment member
  rw [verify_undecided (undecided_handleAll undecided around events)] at decided
  have failed := Findings.failures_ne_nil_of_verdict decided failure
  rcases List.eq_nil_or_concat events with rfl | ⟨earlier, event, split⟩
  · exact absurd sound failed
  · obtain rfl := split.trans List.concat_eq_append
    refine ⟨⟨earlier, event, rfl⟩, soundAll, ?_⟩
    have undecidedThen := undecided_handleAll undecided around earlier
    have member : ⟨attempt.handleAll around earlier, event⟩ ∈
        attempt.history around (earlier ++ [event]) :=
      mem_history_iff.mpr ⟨earlier, [], rfl, rfl⟩
    have single : (attempt.handleAll around
        (earlier ++ [event])).controller.findings.failures.length ≤ 1 := by
      rw [handleAll_append]
      exact failures_handle undecidedThen (soundAll _ member) around event
    cases found : (attempt.handleAll around (earlier ++ [event])).controller.findings.failures with
    | nil => exact absurd found failed
    | cons first more =>
      rw [found, List.length_cons] at single
      obtain rfl : more = [] := List.length_eq_zero_iff.mp (by omega)
      rw [Findings.verdict_of_failures found] at decided
      rw [Except.error.inj decided]

/-- A transport without TLS is a failure, and nothing but a tunnel is asked for behind it. -/
structure Secured (attempt : Attempt) : Prop where
  calls : attempt.trace.calls.Pairwise fun call later =>
    call = .setTls none → ∃ layer, later = .addTransportLayer (.proxy layer)
  failed : .setTls none ∈ attempt.trace.calls → attempt.controller.state.savedFailure ≠ none

theorem secured_fresh (config : ConnectionConfig) (containerId : Uuid) :
    (fresh config containerId).Secured :=
  ⟨.nil, nofun⟩

/-- Among the calls of one event, too, only a tunnel comes behind TLS without a context. -/
theorem Asks.pairwise (asks : attempt.Asks around event made) :
    made.Pairwise fun call later =>
      call = .setTls none → ∃ layer, later = .addTransportLayer (.proxy layer) := by
  cases asks with
  | dress | bare =>
    rename_i plan _ _ _
    obtain ⟨webSocket, mechanism, proxy⟩ := plan
    cases webSocket <;> cases proxy <;> simp [LayerPlan.dressing]
  | begin => simp [CbsSession.opening]
  | serve => simp [serving]
  | connect | introduce | claim | nothing => simp [Endpoint.connect]

theorem Asks.unsecured (asks : attempt.Asks around event made) (unsecured : .setTls none ∈ made) :
    (attempt.react around event).controller.state.savedFailure ≠ none := by
  cases asks with
  | bare planned unresolved =>
    simp only [react, onConnectionBound_of_unresolved planned around unresolved]
    exact Option.some_ne_none _
  | dress => simp [LayerPlan.dressing] at unsecured
  | begin => simp [CbsSession.opening] at unsecured
  | serve => simp [serving] at unsecured
  | connect | introduce | claim | nothing => simp [Endpoint.connect] at unsecured

theorem secured_handle (secured : attempt.Secured) (anchored : attempt.Anchored)
    (undecided : attempt.controller.verdict = none)
    (sound : attempt.controller.findings.failures = []) (event : Event) :
    (attempt.handle around event).Secured := by
  rw [handle_undecided undecided]
  obtain ⟨made, asks, called⟩ := exists_asks anchored.agrees around event
  have unsaved := (Findings.failures_eq_nil_iff.mp sound).2
  have before : .setTls none ∉ attempt.trace.calls := fun member =>
    absurd unsaved (secured.failed member)
  constructor
  · rw [called, List.pairwise_append]
    refine ⟨secured.calls, asks.pairwise, ?_⟩
    intro call member later _ bare
    exact absurd (bare ▸ member) before
  · intro member
    rw [called] at member
    rcases List.mem_append.mp member with member | member
    · exact absurd member before
    · exact asks.unsecured member

theorem secured_handleAll (secured : attempt.Secured) (anchored : attempt.Anchored)
    (undecided : attempt.controller.verdict = none) {events : List Event}
    (unsettled : ∀ moment ∈ attempt.history around events,
      moment.attempt.controller.isSettled = false) :
    (attempt.handleAll around events).Secured := by
  induction events generalizing attempt with
  | nil => exact secured
  | cons event rest ih =>
    have here : attempt.controller.isSettled = false := unsettled _ List.mem_cons_self
    have sound := failures_of_unsettled undecided here
    have securedNext : (attempt.handle around event).Secured :=
      secured_handle secured anchored undecided sound event
    have anchoredNext : (attempt.handle around event).Anchored :=
      (extends_handleAll anchored around [event]).1
    have undecidedNext : (attempt.handle around event).controller.verdict = none :=
      undecided_handleAll undecided around [event]
    exact ih securedNext anchoredNext undecidedNext fun moment member =>
      unsettled moment (List.mem_cons_of_mem _ member)

/-- Where a layer cannot be planned, nothing is called from the binding of the transport on. -/
theorem trace_of_unplanned (undecided : attempt.controller.verdict = none)
    (unplanned : attempt.controller.config.layers = .error cause) {events : List Event}
    (unsettled : ∀ moment ∈ attempt.history around events,
      moment.attempt.controller.isSettled = false)
    (member : moment ∈ attempt.history around events) (binds : moment.event = .connectionBound) :
    (attempt.handleAll around events).trace = moment.attempt.trace := by
  obtain ⟨earlier, later, split, met⟩ := mem_history_iff.mp member
  have terms := terms_handleAll around attempt earlier
  have undecidedThen := undecided_handleAll undecided around earlier
  rw [← met] at terms undecidedThen
  have unplannedThen : moment.attempt.controller.config.layers = .error cause := by
    rw [show moment.attempt.controller.config = attempt.controller.config from congrArg (·.1) terms]
    exact unplanned
  have fails : moment.attempt.handle around .connectionBound =
      moment.attempt.update (·.fail cause) := by
    rw [handle_undecided undecidedThen]
    exact onConnectionBound_of_unplanned unplannedThen around
  have reaches : attempt.handleAll around (earlier ++ [.connectionBound]) =
      moment.attempt.update (·.fail cause) := by
    rw [handleAll_append, ← met]
    exact fails
  rw [binds] at split
  cases later with
  | nil => rw [split, reaches, update]
  | cons next rest =>
    -- The next event would be met by an attempt that has failed already.
    have after := unsettled ⟨moment.attempt.update (·.fail cause), next⟩
      (mem_history_iff.mpr ⟨earlier ++ [.connectionBound], rest, by simp [split], reaches.symm⟩)
    simp [Controller.isSettled, update, Controller.fail, HandshakeState.saveFailure] at after

end Attempt

/-- A run that reports a failure reports the first one, which the last event that it handles has
recorded. No attempt of a run holds two failures. Behind TLS without a context nothing but a tunnel
is asked for, and nothing at all once a layer could not be planned; so no claim is sent then. -/
theorem first_failure_ends_run {peer : Peer} {feed : Feed}
    (done : establishWithin? turns peer config containerId feed timeoutMs = some establishment) :
    (∀ error, Attempt.start config containerId = .error error →
      error.isFailure = false ∧ establishment = ⟨.error error, 0, {}⟩) ∧
    ∀ attempt, Attempt.start config containerId = .ok attempt → ∃ taken left endMs,
      CutOff peer feed.held timeoutMs attempt (.ofFeed feed) taken left endMs ∧
      establishment = (attempt.handleAll peer.around (taken.map Prod.snd)).conclusion endMs ∧
      (∀ error, establishment.result = .error error → error.isFailure = true →
        attempt.FailsLast peer.around (taken.map Prod.snd) error) ∧
      (establishment.trace.calls.Pairwise fun call later =>
        call = .setTls none → ∃ layer, later = .addTransportLayer (.proxy layer)) ∧
      (∀ cause, config.layers = .error cause →
        ∀ moment ∈ attempt.history peer.around (taken.map Prod.snd),
          moment.event = .connectionBound → establishment.trace = moment.attempt.trace) := by
  constructor
  · intro error refused
    simp only [establishWithin?, refused] at done
    exact ⟨Attempt.start_error refused, (Option.some.inj done).symm⟩
  · intro attempt begun
    obtain ⟨taken, left, endMs, cut, rfl⟩ := cutOff_of_establishWithin? begun done
    obtain ⟨_, rfl⟩ := Attempt.start_eq_ok_iff.mp begun
    refine ⟨taken, left, endMs, cut, rfl, ?_, ?_, ?_⟩
    · intro error reported failure
      exact Attempt.failsLast_of_unsettled rfl rfl cut.unsettled
        (Attempt.verify_of_conclusion reported) failure
    · exact (Attempt.secured_handleAll (Attempt.secured_fresh config containerId)
        (Attempt.anchored_fresh config containerId) rfl cut.unsettled).calls
    · intro cause unplanned moment member binds
      exact Attempt.trace_of_unplanned rfl unplanned cut.unsettled member binds

/-- The bundle of certificates is missing, and the run ends there: the connection is not opened, and
the error of the engine that is queued behind is not handled. -/
theorem first_failure_ends_run_without_certificates :
    ∃ establishment taken error,
      establishWithin? 8 ⟨Sample.around, fun _ _ => [], fun _ => true⟩
        (Sample.config.withBundle "missing.pem") ⟨0⟩
        ⟨[.reactorInit, .connectionBound, .connectionInit,
          .transportError ⟨"amqp:internal-error", none⟩], [], false⟩ 0 = some establishment ∧
      establishment.trace.calls = [.connectToHost "hub.example.net" 5671,
        .setSaslMechanisms ["ANONYMOUS"], .setTls none] ∧
      establishment.result = .error error ∧
      Attempt.FailsLast Sample.around (.fresh (Sample.config.withBundle "missing.pem") ⟨0⟩) taken
        error := by
  have ends : (establishWithin? 8 ⟨Sample.around, fun _ _ => [], fun _ => true⟩
      (Sample.config.withBundle "missing.pem") ⟨0⟩
      ⟨[.reactorInit, .connectionBound, .connectionInit,
        .transportError ⟨"amqp:internal-error", none⟩], [], false⟩ 0).map
        (fun establishment => (establishment.trace.calls, establishment.result)) =
      some ([.connectToHost "hub.example.net" 5671, .setSaslMechanisms ["ANONYMOUS"],
        .setTls none], .error (.connectionFailed (.tls
          (TlsFault.unopened "missing.pem" .notFound).message))) := rfl
  obtain ⟨establishment, done, same⟩ := Option.map_eq_some_iff.mp ends
  obtain ⟨calls, failed⟩ := Prod.mk.inj same
  obtain ⟨taken, _, _, _, _, reports, _⟩ :=
    (first_failure_ends_run done).2 (.fresh _ ⟨0⟩) rfl
  exact ⟨establishment, _, _, done, calls, failed, reports _ failed rfl⟩

end AmqpHandshake
