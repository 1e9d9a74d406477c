import AmqpHandshake.Proofs.Calls
import AmqpHandshake.Proofs.Dialogue
import AmqpHandshake.Proofs.Merging
import AmqpHandshake.Proofs.WriteOnce

/-! A plan is shown without a connection and carried out with one, on two separate ways. Both go to
the same endpoint and put on the same layers, whatever an attempt has been through before. -/
namespace AmqpHandshake

/-- The event that a call from outside brings. -/
def PublicCall.event? : PublicCall → Option Event
  | .handle event | .direct event => some event
  | _ => none

/-- An attempt has made some calls and has met a fault, if there was one. What the peer has
confirmed, what the engine has observed and the claims exchange are as before. -/
structure Enacts (earlier later : Attempt) (made : List Call) (fault? : Option FailureCause) :
    Prop where
  calls : later.trace.calls = earlier.trace.calls ++ made
  tokenRequests : later.trace.tokenRequests = earlier.trace.tokenRequests
  failure : later.controller.state.savedFailure =
    earlier.controller.state.savedFailure.or fault?
  connectionOpened : later.controller.state.connectionOpened =
    earlier.controller.state.connectionOpened
  sessionOpened : later.controller.state.sessionOpened = earlier.controller.state.sessionOpened
  linkOpened : later.controller.state.linkOpened = earlier.controller.state.linkOpened
  protocolError : later.controller.protocolError = earlier.controller.protocolError
  cbs : later.controller.cbs = earlier.controller.cbs
  authenticated : later.controller.authenticated = earlier.controller.authenticated

namespace Attempt

variable {attempt : Attempt}

/-- Only the start of the reactor chooses an endpoint. -/
theorem endpoint_react (attempt : Attempt) (around : Surroundings) {event : Event}
    (other : event ≠ .reactorInit) :
    (attempt.react around event).controller.endpoint = attempt.controller.endpoint := by
  have reaction := reaction_react around attempt event
  generalize attempt.react around event = next at reaction
  cases reaction with
  | connect starts => exact absurd starts other
  | begin opens closed =>
    exact congrArg Channel.endpoint (channel_onConnectionRemoteOpen closed around)
  | hear found told =>
    obtain ⟨_, _, _, _, same⟩ := channel_accept_eq around _ _
    exact congrArg Channel.endpoint same
  | apart unheard same => exact congrArg Channel.endpoint same

theorem endpoint_serve (attempt : Attempt) (around : Surroundings) {call : PublicCall}
    (other : call.event? ≠ some .reactorInit) :
    (attempt.serve around call).controller.endpoint = attempt.controller.endpoint := by
  cases call with
  | handle event =>
    have otherEvent : event ≠ .reactorInit := fun same => other (congrArg some same)
    simp only [serve, handle]
    split
    · rfl
    · exact endpoint_react attempt around otherEvent
  | direct event =>
    have otherEvent : event ≠ .reactorInit := fun same => other (congrArg some same)
    exact endpoint_react attempt around otherEvent
  | authenticationSucceeded | authenticationFailed => rfl
  | verify => exact congrArg Channel.endpoint (channel_verify attempt)

theorem endpoint_serveAll (attempt : Attempt) {calls : List (Surroundings × PublicCall)}
    (others : ∀ call ∈ calls, call.2.event? ≠ some .reactorInit) :
    (attempt.serveAll calls).controller.endpoint = attempt.controller.endpoint := by
  induction calls generalizing attempt with
  | nil => rfl
  | cons call rest ih =>
    obtain ⟨other, othersThen⟩ := List.forall_mem_cons.mp others
    exact (ih (attempt.serve call.1 call.2) othersThen).trans
      (endpoint_serve attempt call.1 other)

theorem config_serve (attempt : Attempt) (around : Surroundings) (call : PublicCall) :
    (attempt.serve around call).controller.config = attempt.controller.config := by
  cases call with
  | handle event => exact congrArg (·.1) (terms_handle around attempt event)
  | direct event => exact congrArg (·.1) (terms_react around attempt event)
  | authenticationSucceeded | authenticationFailed => rfl
  | verify => exact config_verify attempt

theorem config_serveAll (attempt : Attempt) (calls : List (Surroundings × PublicCall)) :
    (attempt.serveAll calls).controller.config = attempt.controller.config := by
  induction calls generalizing attempt with
  | nil => rfl
  | cons call rest ih => exact (ih (attempt.serve call.1 call.2)).trans (config_serve ..)

theorem enacts_connect (undecided : attempt.controller.verdict = none)
    (nowhere : attempt.controller.endpoint = none) (around : Surroundings) :
    Enacts attempt (attempt.handle around .reactorInit)
      [attempt.controller.config.endpoint.connect] none := by
  have connects : attempt.handle around .reactorInit =
      ⟨{ attempt.controller with endpoint := some attempt.controller.config.endpoint },
        attempt.trace.recordAll [attempt.controller.config.endpoint.connect]⟩ := by
    rw [handle_undecided undecided]
    simp only [react, onReactorInit, nowhere]
    rfl
  rw [connects]
  constructor
  case failure => exact (Option.or_none).symm
  all_goals rfl

theorem enacts_fail (attempt : Attempt) (cause : FailureCause) (made : List Call) :
    Enacts attempt ⟨attempt.controller.fail cause, attempt.trace.recordAll made⟩ made
      (some cause) := by
  constructor
  case failure => cases saved : attempt.controller.state.savedFailure <;>
    simp [Controller.fail, HandshakeState.saveFailure, saved]
  all_goals rfl

theorem enacts_bound (attempt : Attempt) (made : List Call) :
    Enacts attempt ⟨attempt.controller.bound, attempt.trace.recordAll made⟩ made none := by
  unfold Controller.bound
  split
  all_goals
    constructor
    case failure => exact (Option.or_none).symm
    all_goals rfl

/-- A layer that cannot be planned is all that binding the transport comes to. -/
theorem enacts_unplanned (undecided : attempt.controller.verdict = none)
    (unplanned : attempt.controller.config.layers = .error cause) (around : Surroundings) :
    Enacts attempt (attempt.handle around .connectionBound) [] (some cause) := by
  have fails := enacts_fail attempt cause []
  rw [handle_undecided undecided]
  show Enacts attempt (attempt.onConnectionBound around) [] (some cause)
  rw [onConnectionBound_of_unplanned unplanned]
  simpa [Trace.recordAll, update] using fails

theorem enacts_resolved (undecided : attempt.controller.verdict = none)
    (planned : attempt.controller.config.layers = .ok plan) (around : Surroundings)
    (resolved : attempt.controller.config.tls.resolve around.read = .ok context) :
    Enacts attempt (attempt.handle around .connectionBound) (plan.dressing (some context))
      none := by
  rw [handle_undecided undecided]
  show Enacts attempt (attempt.onConnectionBound around) _ none
  rw [onConnectionBound_of_resolved planned around resolved]
  exact enacts_bound attempt _

/-- Without a TLS context the layers are put on all the same. -/
theorem enacts_unresolved (undecided : attempt.controller.verdict = none)
    (planned : attempt.controller.config.layers = .ok plan) (around : Surroundings)
    (unresolved : attempt.controller.config.tls.resolve around.read = .error fault) :
    Enacts attempt (attempt.handle around .connectionBound) (plan.dressing none)
      (some (.tls fault.message)) := by
  rw [handle_undecided undecided]
  show Enacts attempt (attempt.onConnectionBound around) _ _
  rw [onConnectionBound_of_unresolved planned around unresolved]
  exact enacts_fail attempt _ _

end Attempt

/-- A plan that is shown holds the endpoint, the layers and the TLS fault of its configuration. -/
theorem PlanReport.ofSettings_ok {settings : Settings} {config : ConnectionConfig}
    {read : FileReader} {key : Nonce} {report : PlanReport}
    (configured : settings.toConnectionConfig = .ok config)
    (shown : ofSettings read key settings = .ok report) :
    report.endpoint = config.endpoint ∧ config.layers = .ok report.layers ∧
      ∀ fault, report.tlsFault = some fault ↔ config.tls.resolve read = .error fault := by
  obtain ⟨_, valid, shown⟩ := ofSettings_eq_ok_iff.mp shown
  obtain rfl := Except.ok.inj (configured.symm.trans valid)
  exact ⟨shown.endpoint, shown.layers, shown.tlsFault⟩

/-- Whatever has been called on an attempt before, as long as there is no verdict: the first start
of the reactor connects to the endpoint of the configuration, and binding the transport puts on
exactly the layers that are planned, with TLS between them, or nothing if one cannot be planned.
Without a TLS context the layers are put on and the fault is kept. What a plan of the same settings
shows is that endpoint, those layers and that fault. -/
theorem plan_enacted (begun : Attempt.start config containerId = .ok attempt)
    (calls : List (Surroundings × PublicCall))
    (undecided : (attempt.serveAll calls).controller.verdict = none) (around : Surroundings) :
    let reached := attempt.serveAll calls
    ((∀ call ∈ calls, call.2.event? ≠ some .reactorInit) →
      Enacts reached (reached.handle around .reactorInit)
        [.connectToHost config.endpoint.host config.endpoint.port] none) ∧
    (∀ plan, config.layers = .ok plan →
      (∀ context, config.tls.resolve around.read = .ok context →
        Enacts reached (reached.handle around .connectionBound) (plan.dressing (some context))
          none) ∧
      (∀ fault, config.tls.resolve around.read = .error fault →
        Enacts reached (reached.handle around .connectionBound) (plan.dressing none)
          (some (.tls fault.message))) ∧
      plan.webSocket.isSome = config.protocol.isWebSocket ∧
      plan.saslMechanism = anonymousMechanism ∧ plan.proxy.isSome = config.proxy.isSome) ∧
    (∀ cause, config.layers = .error cause →
      Enacts reached (reached.handle around .connectionBound) [] (some cause)) ∧
    ∀ (settings : Settings) (key : Nonce) (report : PlanReport),
      settings.toConnectionConfig = .ok config →
      PlanReport.ofSettings around.read key settings = .ok report →
      report.endpoint = config.endpoint ∧ config.layers = .ok report.layers ∧
        ∀ fault, report.tlsFault = some fault ↔ config.tls.resolve around.read = .error fault := by
  intro reached
  obtain ⟨_, rfl⟩ := Attempt.start_eq_ok_iff.mp begun
  have configured : reached.controller.config = config := Attempt.config_serveAll _ calls
  refine ⟨?_, ?_, ?_, ?_⟩
  · intro first
    have nowhere : reached.controller.endpoint = none := Attempt.endpoint_serveAll _ first
    have connects := Attempt.enacts_connect undecided nowhere around
    rw [configured] at connects
    exact connects
  · intro plan planned
    have plannedThen : reached.controller.config.layers = .ok plan := by rw [configured, planned]
    refine ⟨?_, ?_, ConnectionConfig.layers_ok planned⟩
    · intro context resolved
      apply Attempt.enacts_resolved undecided plannedThen
      rw [configured, resolved]
    · intro fault unresolved
      apply Attempt.enacts_unresolved undecided plannedThen
      rw [configured, unresolved]
  · intro cause unplanned
    apply Attempt.enacts_unplanned undecided
    rw [configured, unplanned]
  · intro settings key report made shown
    exact PlanReport.ofSettings_ok made shown

/-- The sample hub on a web socket through a proxy, with a bundle that is not there. -/
def Sample.tunnelled : ConnectionConfig where
  hostName := "hub.example.net"
  protocol := .amqpsWs
  proxy := some (.plain "proxy.example.net" 8080)
  tls := .bundle "missing.pem"
  credentials := Sample.config.credentials
  serviceLink := none

/-- The connection is open and the peer has closed the exchange before the transport is bound. The
web socket and the tunnel are put on all the same, without TLS, and the first failure is kept. -/
theorem plan_enacted_after_failure :
    let calls := [(Sample.around, .handle .connectionRemoteOpen),
      (Sample.around, .direct (.sessionRemoteClose ⟨1⟩ none))]
    let reached := (Attempt.fresh Sample.tunnelled ⟨0⟩).serveAll calls
    Enacts reached (reached.handle Sample.around .reactorInit)
        [.connectToHost "proxy.example.net" 8080] none ∧
      Enacts reached (reached.handle Sample.around .connectionBound)
        [.addTransportLayer
            (.webSocket ⟨"hub.example.net", "/$iothub/websocket", 443, "AMQPWSB10"⟩),
          .setSaslMechanisms ["ANONYMOUS"], .setTls none,
          .addTransportLayer (.proxy ⟨"hub.example.net:443", none⟩)]
        (some (.tls (TlsFault.unopened "missing.pem" .notFound).message)) ∧
      (reached.handle Sample.around .connectionBound).controller.state.savedFailure =
        some (.authentication (.linkClosed CbsSession.closedEarly)) := by
  intro calls reached
  have begun : Attempt.start Sample.tunnelled ⟨0⟩ = .ok (.fresh Sample.tunnelled ⟨0⟩) := rfl
  have undecided : reached.controller.verdict = none := rfl
  obtain ⟨connects, binds, _⟩ := plan_enacted begun calls undecided Sample.around
  have bound := (binds _ rfl).2.1 _ rfl
  refine ⟨connects ?_, bound, ?_⟩
  · simp [calls, PublicCall.event?]
  · have saved : reached.controller.state.savedFailure =
      some (.authentication (.linkClosed CbsSession.closedEarly)) := rfl
    rw [bound.failure, saved]
    rfl

end AmqpHandshake
