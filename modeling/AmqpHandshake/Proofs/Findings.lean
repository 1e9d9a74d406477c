import AmqpHandshake.Proofs.History

/-! What has been found out about an attempt, and how one event adds to it. All that a verdict
rests on is here; the phase and the trace of calls are not. -/
namespace AmqpHandshake

/-- What has been found out about an attempt: the first failure of each kind, and what has been
confirmed. -/
@[ext]
structure Findings where
  protocolError : Option ErrorCondition
  savedFailure : Option FailureCause
  connectionOpened : Bool
  sessionOpened : Bool
  linkOpened : Bool
  authenticated : Bool

namespace Findings

/-- Nothing found out yet. -/
def none : Findings := ⟨.none, .none, false, false, false, false⟩

/-- Add later findings. Of two failures of one kind the earlier one is kept. -/
def add (earlier later : Findings) : Findings where
  protocolError := earlier.protocolError.or later.protocolError
  savedFailure := earlier.savedFailure.or later.savedFailure
  connectionOpened := earlier.connectionOpened || later.connectionOpened
  sessionOpened := earlier.sessionOpened || later.sessionOpened
  linkOpened := earlier.linkOpened || later.linkOpened
  authenticated := earlier.authenticated || later.authenticated

@[simp] theorem add_none (findings : Findings) : findings.add none = findings := by
  simp [add, none]

@[simp] theorem none_add (findings : Findings) : none.add findings = findings := by
  simp [add, none]

theorem add_assoc (first second third : Findings) :
    (first.add second).add third = first.add (second.add third) := by
  simp [add, Option.or_assoc, Bool.or_assoc]

/-- A cause of failure alone. -/
def ofCause (cause? : Option FailureCause) : Findings := { none with savedFailure := cause? }

/-- What the claims exchange lets find out by the outcome it tells, if it tells one. -/
def ofOutcome (outcome? : Option AuthOutcome) : Findings :=
  { none with
    savedFailure := outcome?.bind AuthOutcome.failure?
    authenticated := outcome? = some .succeeded }

/-- What a close lets find out, given the claims exchange if it closes something of that. -/
def ofClose (owner : Option CbsSession) (condition : Option ErrorCondition) : Findings :=
  { ofOutcome (owner.bind fun cbs => (cbs.onClosed condition).1) with
    protocolError := if owner.isSome then .none else condition }

/-- What an event lets find out. -/
def ofMoment (around : Surroundings) (moment : Moment) : Findings where
  protocolError := moment.condition?
  savedFailure := moment.cause? around
  connectionOpened := moment.event = .connectionRemoteOpen
  sessionOpened := moment.openedSession?.isSome
  linkOpened := moment.openedLink?.isSome
  authenticated := moment.outcome? around = some .succeeded

theorem ofMoment_connectionBound (around : Surroundings) (attempt : Attempt) :
    ofMoment around ⟨attempt, .connectionBound⟩ =
      ofCause (attempt.controller.config.setupFault? around.read) := by
  simp [ofMoment, ofCause, none, Moment.condition?, Moment.cause?, Moment.setupFault?,
    Moment.outcome?, Moment.openedSession?, Moment.openedLink?]

theorem ofMoment_sessionRemoteOpen (around : Surroundings) (attempt : Attempt)
    (session : SessionId) :
    ofMoment around ⟨attempt, .sessionRemoteOpen session⟩ =
      { none with sessionOpened := !attempt.controller.isCbsSession session } := by
  simp only [ofMoment, Moment.openedSession?]
  cases attempt.controller.isCbsSession session <;> rfl

theorem ofMoment_linkRemoteOpen_own (around : Surroundings) {attempt : Attempt} {link : LinkId}
    (owning : attempt.controller.cbsOwning? link = some cbs) :
    ofMoment around ⟨attempt, .linkRemoteOpen link⟩ =
      ofOutcome (cbs.onLinkOpen around link attempt.trace).1 := by
  have own : attempt.controller.isCbsLink link = true := by
    rw [Controller.isCbsLink_eq, owning]
    rfl
  simp [ofMoment, ofOutcome, none, Moment.condition?, Moment.cause?, Moment.setupFault?,
    Moment.outcome?, Moment.openedSession?, Moment.openedLink?, owning, own]

theorem ofMoment_linkRemoteOpen_other (around : Surroundings) {attempt : Attempt} {link : LinkId}
    (owning : attempt.controller.cbsOwning? link = .none) :
    ofMoment around ⟨attempt, .linkRemoteOpen link⟩ = { none with linkOpened := true } := by
  have other : attempt.controller.isCbsLink link = false := by
    rw [Controller.isCbsLink_eq, owning]
    rfl
  simp [ofMoment, none, Moment.condition?, Moment.cause?, Moment.setupFault?,
    Moment.outcome?, Moment.openedSession?, Moment.openedLink?, owning, other]

theorem ofMoment_sessionRemoteClose (around : Surroundings) (attempt : Attempt)
    (session : SessionId) (condition : Option ErrorCondition) :
    ofMoment around ⟨attempt, .sessionRemoteClose session condition⟩ =
      ofClose (attempt.controller.cbs.filter (·.session = session)) condition := by
  simp only [ofMoment, ofClose, Moment.condition?, Controller.isCbsSession_eq]
  rfl

theorem ofMoment_linkRemoteClose (around : Surroundings) (attempt : Attempt) (link : LinkId)
    (condition : Option ErrorCondition) :
    ofMoment around ⟨attempt, .linkRemoteClose link condition⟩ =
      ofClose (attempt.controller.cbsOwning? link) condition := by
  simp only [ofMoment, ofClose, Moment.condition?, Controller.isCbsLink_eq]
  rfl

/-- What a history lets find out. -/
def ofHistory (around : Surroundings) (history : List Moment) : Findings where
  protocolError := history.findSome? Moment.condition?
  savedFailure := history.findSome? (Moment.cause? around)
  connectionOpened := history.any (·.event = .connectionRemoteOpen)
  sessionOpened := history.any (·.openedSession?.isSome)
  linkOpened := history.any (·.openedLink?.isSome)
  authenticated := history.any (·.outcome? around = some .succeeded)

private theorem findSome?_cons_eq_or (told : α → Option β) (item : α) (items : List α) :
    (item :: items).findSome? told = (told item).or (items.findSome? told) := by
  rw [List.findSome?_cons]
  cases told item <;> rfl

theorem ofHistory_cons (around : Surroundings) (moment : Moment) (history : List Moment) :
    ofHistory around (moment :: history) =
      (ofMoment around moment).add (ofHistory around history) := by
  simp [ofHistory, ofMoment, add, findSome?_cons_eq_or]

/-- Whether connection, session and link have been confirmed. -/
def allOpened (findings : Findings) : Bool :=
  findings.connectionOpened && findings.sessionOpened && findings.linkOpened

/-- The verdict that findings come to. -/
def verdict (findings : Findings) : Verdict :=
  match findings.protocolError, findings.savedFailure with
  | some condition, _ => .error (.transportProtocol condition)
  | .none, some cause => .error (.connectionFailed cause)
  | .none, .none => if findings.allOpened then .ok () else .error .timeout

theorem verdict_of_protocolError {findings : Findings}
    (found : findings.protocolError = some condition) :
    findings.verdict = .error (.transportProtocol condition) := by
  simp [verdict, found]

theorem verdict_of_savedFailure {findings : Findings} (quiet : findings.protocolError = .none)
    (found : findings.savedFailure = some cause) :
    findings.verdict = .error (.connectionFailed cause) := by
  simp [verdict, quiet, found]

theorem verdict_of_sound {findings : Findings} (quiet : findings.protocolError = .none)
    (sound : findings.savedFailure = .none) :
    findings.verdict = if findings.allOpened then .ok () else .error .timeout := by
  simp [verdict, quiet, sound]

end Findings

namespace Controller

/-- What a controller holds of what has been found out. -/
def findings (controller : Controller) : Findings where
  protocolError := controller.protocolError
  savedFailure := controller.state.savedFailure
  connectionOpened := controller.state.connectionOpened
  sessionOpened := controller.state.sessionOpened
  linkOpened := controller.state.linkOpened
  authenticated := controller.authenticated

theorem assess_eq (controller : Controller) : controller.assess = controller.findings.verdict := rfl

@[simp] theorem findings_fail (controller : Controller) (cause : FailureCause) :
    (controller.fail cause).findings = controller.findings.add (.ofCause (some cause)) := by
  simp [fail, HandshakeState.saveFailure, findings, Findings.add, Findings.ofCause, Findings.none]

@[simp] theorem findings_onTransportError (controller : Controller) (condition : ErrorCondition) :
    (controller.onTransportError condition).findings =
      controller.findings.add { Findings.none with protocolError := some condition } := by
  unfold onTransportError
  split <;> rename_i found <;> simp [findings, Findings.add, Findings.none, found]

theorem findings_deliver (controller : Controller) (outcome : AuthOutcome) :
    (outcome.deliver listener controller).findings =
      controller.findings.add (.ofOutcome (some outcome)) := by
  cases outcome with
  | succeeded =>
    simp [AuthOutcome.deliver, listener, onAuthenticationSucceeded, findings, Findings.add,
      Findings.ofOutcome, Findings.none, AuthOutcome.failure?]
  | failed error => exact findings_fail controller (.authentication error)

end Controller

namespace Attempt

@[simp] theorem update_controller (attempt : Attempt) (change : Controller → Controller) :
    (attempt.update change).controller = change attempt.controller := rfl

@[simp] theorem call_controller (attempt : Attempt) (call : Call) :
    (attempt.call call).controller = attempt.controller := rfl

@[simp] theorem putOnLayer_controller (attempt : Attempt) (layer : Option TransportLayer) :
    (attempt.putOnLayer layer).controller = attempt.controller := by
  cases layer <;> rfl

@[simp] theorem findings_withCbs (attempt : Attempt) (cbs : CbsSession) :
    (attempt.withCbs cbs).controller.findings = attempt.controller.findings := rfl

theorem findings_openServiceLink (around : Surroundings) (attempt : Attempt) :
    (attempt.openServiceLink around).controller.findings = attempt.controller.findings := by
  unfold openServiceLink
  split <;> rfl

theorem findings_accept (around : Surroundings) (outcome? : Option AuthOutcome)
    (attempt : Attempt) :
    (attempt.accept around outcome?).controller.findings =
      attempt.controller.findings.add (.ofOutcome outcome?) := by
  cases outcome? with
  | none => exact (Findings.add_none _).symm
  | some outcome =>
    have told := Controller.findings_deliver attempt.controller outcome
    simp only [accept]
    split
    · rw [findings_openServiceLink]
      exact told
    · exact told

theorem findings_onReactorInit (attempt : Attempt) :
    attempt.onReactorInit.controller.findings = attempt.controller.findings := by
  unfold onReactorInit
  split <;> rfl

theorem findings_putOnTls (around : Surroundings) (attempt : Attempt) (plan : LayerPlan)
    (planned : attempt.controller.config.layers = .ok plan) :
    (attempt.putOnTls around).controller.findings = attempt.controller.findings.add
      (.ofCause (attempt.controller.config.setupFault? around.read)) := by
  unfold putOnTls ConnectionConfig.setupFault?
  rw [planned]
  cases attempt.controller.config.tls.resolve around.read with
  | ok context => simp [Findings.ofCause, Findings.none, Findings.add]
  | error fault => simp

theorem findings_onConnectionBound (around : Surroundings) (attempt : Attempt) :
    (attempt.onConnectionBound around).controller.findings = attempt.controller.findings.add
      (.ofCause (attempt.controller.config.setupFault? around.read)) := by
  unfold onConnectionBound
  cases planned : attempt.controller.config.layers with
  | error cause => simp [ConnectionConfig.setupFault?, planned]
  | ok plan =>
    have dressed := findings_putOnTls around
      ((attempt.putOnLayer (plan.webSocket.map .webSocket)).call
        (.setSaslMechanisms [plan.saslMechanism])) plan (by simpa using planned)
    simp only [call_controller, putOnLayer_controller] at dressed
    simp only [update_controller, putOnLayer_controller, ← dressed]
    split <;> rfl

theorem findings_onConnectionRemoteOpen (around : Surroundings) (attempt : Attempt) :
    (attempt.onConnectionRemoteOpen around).controller.findings =
      attempt.controller.findings.add { Findings.none with connectionOpened := true } := by
  simp only [onConnectionRemoteOpen]
  split
  · rename_i opened
    simp [Findings.add, Findings.none, Controller.findings, opened]
  · rw [Controller.advance_eq, Controller.advance_eq]
    simp [Findings.add, Findings.none, Controller.findings]

theorem findings_onSessionRemoteOpen (session : SessionId) (attempt : Attempt) :
    (attempt.onSessionRemoteOpen session).controller.findings =
      attempt.controller.findings.add { Findings.none with
        sessionOpened := !attempt.controller.isCbsSession session } := by
  simp only [onSessionRemoteOpen, update_controller]
  split <;> rename_i own <;> simp [Findings.add, Findings.none, Controller.findings, own]

theorem findings_onCbsResponse (around : Surroundings) (link : LinkId) (status : UInt16)
    (description : Option String) (attempt : Attempt) :
    (attempt.onCbsResponse around link status description).controller.findings =
      attempt.controller.findings.add (.ofOutcome
        (Moment.outcome? around ⟨attempt, .cbsResponse link status description⟩)) := by
  unfold onCbsResponse Moment.outcome?
  cases exchange : attempt.controller.cbs with
  | none => exact (Findings.add_none _).symm
  | some cbs => simp only [findings_accept, findings_withCbs, Option.bind_eq_bind, Option.bind_some]

theorem findings_onClose (condition : Option ErrorCondition) (attempt : Attempt) :
    (attempt.onClose condition).controller.findings =
      attempt.controller.findings.add { Findings.none with protocolError := condition } := by
  cases condition with
  | none => simp [onClose, Findings.add, Findings.none]
  | some condition => exact Controller.findings_onTransportError attempt.controller condition

theorem findings_onCbsClose (around : Surroundings) (cbs : CbsSession)
    (condition : Option ErrorCondition) (attempt : Attempt) :
    (attempt.onCbsClose around cbs condition).controller.findings =
      attempt.controller.findings.add (.ofOutcome (cbs.onClosed condition).1) := by
  simp only [onCbsClose, findings_accept, findings_withCbs]

theorem findings_onLinkRemoteOpen (around : Surroundings) (link : LinkId) (attempt : Attempt) :
    (attempt.onLinkRemoteOpen around link).controller.findings =
      attempt.controller.findings.add (.ofMoment around ⟨attempt, .linkRemoteOpen link⟩) := by
  unfold onLinkRemoteOpen
  cases owning : attempt.controller.cbsOwning? link with
  | none =>
    rw [Findings.ofMoment_linkRemoteOpen_other around owning]
    simp [Controller.findings, Findings.add, Findings.none]
  | some cbs =>
    rw [Findings.ofMoment_linkRemoteOpen_own around owning]
    simp only [findings_accept, findings_withCbs]

theorem findings_closed (around : Surroundings) (owner : Option CbsSession)
    (condition : Option ErrorCondition) (attempt : Attempt) :
    (match owner with
      | some cbs => attempt.onCbsClose around cbs condition
      | none => attempt.onClose condition).controller.findings =
      attempt.controller.findings.add (.ofClose owner condition) := by
  cases owner with
  | none => exact findings_onClose condition attempt
  | some cbs => exact findings_onCbsClose around cbs condition attempt

/-- One event adds what its moment tells, and nothing else. -/
theorem findings_react (around : Surroundings) (attempt : Attempt) (event : Event) :
    (attempt.react around event).controller.findings =
      attempt.controller.findings.add (.ofMoment around ⟨attempt, event⟩) := by
  cases event with
  | reactorInit =>
    exact (findings_onReactorInit attempt).trans (Findings.add_none _).symm
  | connectionBound =>
    rw [Findings.ofMoment_connectionBound]
    exact findings_onConnectionBound around attempt
  | connectionInit => exact (Findings.add_none _).symm
  | connectionRemoteOpen => exact findings_onConnectionRemoteOpen around attempt
  | sessionRemoteOpen session =>
    rw [Findings.ofMoment_sessionRemoteOpen]
    exact findings_onSessionRemoteOpen session attempt
  | linkRemoteOpen link => exact findings_onLinkRemoteOpen around link attempt
  | cbsResponse link status description => exact findings_onCbsResponse ..
  | transportError condition =>
    exact Controller.findings_onTransportError attempt.controller condition
  | connectionRemoteClose condition => exact findings_onClose condition attempt
  | sessionRemoteClose session condition =>
    rw [Findings.ofMoment_sessionRemoteClose]
    exact findings_closed around _ condition attempt
  | linkRemoteClose link condition =>
    rw [Findings.ofMoment_linkRemoteClose]
    exact findings_closed around _ condition attempt

end Attempt

namespace Controller

/-- What no event changes. -/
def terms (controller : Controller) : ConnectionConfig × Uuid × Option Verdict :=
  (controller.config, controller.containerId, controller.verdict)

@[simp] theorem terms_onTransportError (controller : Controller) (condition : ErrorCondition) :
    (controller.onTransportError condition).terms = controller.terms := by
  unfold onTransportError
  split <;> rfl

end Controller

namespace Attempt

theorem terms_openServiceLink (around : Surroundings) (attempt : Attempt) :
    (attempt.openServiceLink around).controller.terms = attempt.controller.terms := by
  unfold openServiceLink
  split <;> rfl

theorem terms_accept (around : Surroundings) (outcome? : Option AuthOutcome) (attempt : Attempt) :
    (attempt.accept around outcome?).controller.terms = attempt.controller.terms := by
  cases outcome? with
  | none => rfl
  | some outcome =>
    have told : (outcome.deliver Controller.listener attempt.controller).terms =
        attempt.controller.terms := by cases outcome <;> rfl
    simp only [accept]
    split
    · exact (terms_openServiceLink ..).trans told
    · exact told

theorem terms_onConnectionBound (around : Surroundings) (attempt : Attempt) :
    (attempt.onConnectionBound around).controller.terms = attempt.controller.terms := by
  have dressed (attempt : Attempt) :
      (attempt.putOnTls around).controller.terms = attempt.controller.terms := by
    unfold putOnTls
    split <;> rfl
  unfold onConnectionBound
  split
  · rfl
  · rename_i plan planned
    have worn := dressed ((attempt.putOnLayer (plan.webSocket.map .webSocket)).call
      (.setSaslMechanisms [plan.saslMechanism]))
    simp only [call_controller, putOnLayer_controller] at worn
    simp only [update_controller, putOnLayer_controller, ← worn]
    split <;> rfl

theorem terms_onClose (condition : Option ErrorCondition) (attempt : Attempt) :
    (attempt.onClose condition).controller.terms = attempt.controller.terms := by
  cases condition with
  | none => rfl
  | some condition => exact Controller.terms_onTransportError attempt.controller condition

/-- Neither the configuration nor the identity nor a verdict changes with an event. -/
theorem terms_react (around : Surroundings) (attempt : Attempt) (event : Event) :
    (attempt.react around event).controller.terms = attempt.controller.terms := by
  cases event with
  | reactorInit =>
    simp only [react, onReactorInit]
    split <;> rfl
  | connectionBound => exact terms_onConnectionBound around attempt
  | connectionInit => rfl
  | connectionRemoteOpen =>
    simp only [react, onConnectionRemoteOpen]
    split
    · rfl
    · rw [Controller.advance_eq, Controller.advance_eq]
      rfl
  | sessionRemoteOpen session =>
    simp only [react, onSessionRemoteOpen, update_controller]
    split <;> rfl
  | linkRemoteOpen link =>
    simp only [react, onLinkRemoteOpen]
    split
    · exact terms_accept ..
    · rfl
  | cbsResponse link status description =>
    simp only [react, onCbsResponse]
    split
    · exact terms_accept ..
    · rfl
  | transportError condition => exact Controller.terms_onTransportError attempt.controller condition
  | connectionRemoteClose condition => exact terms_onClose condition attempt
  | sessionRemoteClose session condition =>
    simp only [react, onSessionRemoteClose]
    split
    · exact terms_accept ..
    · exact terms_onClose condition attempt
  | linkRemoteClose link condition =>
    simp only [react, onLinkRemoteClose]
    split
    · exact terms_accept ..
    · exact terms_onClose condition attempt

theorem handle_undecided {attempt : Attempt} (undecided : attempt.controller.verdict = none)
    (around : Surroundings) (event : Event) :
    attempt.handle around event = attempt.react around event := by
  simp only [handle, undecided]

theorem terms_handle (around : Surroundings) (attempt : Attempt) (event : Event) :
    (attempt.handle around event).controller.terms = attempt.controller.terms := by
  unfold handle
  split
  · rfl
  · exact terms_react around attempt event

theorem terms_handleAll (around : Surroundings) (attempt : Attempt) (events : List Event) :
    (attempt.handleAll around events).controller.terms = attempt.controller.terms := by
  induction events generalizing attempt with
  | nil => rfl
  | cons event rest ih => exact (ih _).trans (terms_handle around attempt event)

theorem undecided_handleAll {attempt : Attempt} (undecided : attempt.controller.verdict = none)
    (around : Surroundings) (events : List Event) :
    (attempt.handleAll around events).controller.verdict = none :=
  (congrArg (·.2.2) (terms_handleAll around attempt events)).trans undecided

theorem Reached.undecided {around : Surroundings} {attempt : Attempt}
    (reached : Reached around attempt) : attempt.controller.verdict = none := by
  induction reached with
  | start begun =>
    rw [(start_eq_ok_iff.mp begun).2]
    rfl
  | handle earlier event ih => exact undecided_handleAll ih around [event]

/-- A run adds what its history tells. -/
theorem findings_handleAll {attempt : Attempt} (undecided : attempt.controller.verdict = none)
    (around : Surroundings) (events : List Event) :
    (attempt.handleAll around events).controller.findings =
      attempt.controller.findings.add (.ofHistory around (attempt.history around events)) := by
  induction events generalizing attempt with
  | nil => exact (Findings.add_none _).symm
  | cons event rest ih =>
    have next : (attempt.handle around event).controller.verdict = none :=
      undecided_handleAll undecided around [event]
    have told : (attempt.handle around event).controller.findings =
        attempt.controller.findings.add (.ofMoment around ⟨attempt, event⟩) := by
      rw [handle_undecided undecided, findings_react]
    rw [handleAll_cons, ih next, told, Findings.add_assoc, history, Findings.ofHistory_cons]

theorem verify_undecided {attempt : Attempt} (undecided : attempt.controller.verdict = none) :
    attempt.verify.1 = attempt.controller.findings.verdict := by
  simp [verify, Controller.verify, undecided, Controller.assess_eq]

end Attempt

end AmqpHandshake
