import AmqpHandshake.Proofs.Layers
import AmqpHandshake.Proofs.Reaction

/-! What each event makes an attempt ask of its engine. -/
namespace AmqpHandshake

/-- The calls that put the layers of a plan on a transport, with TLS between them. -/
def LayerPlan.dressing (plan : LayerPlan) (context : Option TlsContext) : List Call :=
  (plan.webSocket.map fun layer => .addTransportLayer (.webSocket layer)).toList ++
    [.setSaslMechanisms [plan.saslMechanism], .setTls context] ++
    (plan.proxy.map fun layer => .addTransportLayer (.proxy layer)).toList

/-- Calls are made behind those made so far. -/
def Trace.recordAll (trace : Trace) (made : List Call) : Trace :=
  { trace with calls := trace.calls ++ made }

/-- The transport is bound. Only a fresh attempt goes on to that phase. -/
def Controller.bound (controller : Controller) : Controller :=
  if controller.phase = .initial then { controller with phase := .transportBound } else controller

namespace Attempt

/-- The ids that the engine has for an application link and a session of its own. -/
def serviceIds (around : Surroundings) (attempt : Attempt) (link : ServiceLink) :
    SessionId × LinkId :=
  let (session, trace) := attempt.trace.openSession around.engine
  (session, (trace.openLink around.engine session link.spec).1)

/-- The calls that open an application link on a session of its own. -/
def serving (around : Surroundings) (attempt : Attempt) (link : ServiceLink) : List Call :=
  let (session, id) := attempt.serviceIds around link
  [.openSession session, .openLink session link.spec id]

/-- The calls that an event makes an attempt make. -/
inductive Asks (around : Surroundings) (attempt : Attempt) : Event → List Call → Prop
  | connect (nowhere : attempt.controller.endpoint = none) :
      Asks around attempt .reactorInit [attempt.controller.config.endpoint.connect]
  | dress (planned : attempt.controller.config.layers = .ok plan)
      (resolved : attempt.controller.config.tls.resolve around.read = .ok context) :
      Asks around attempt .connectionBound (plan.dressing (some context))
  | bare (planned : attempt.controller.config.layers = .ok plan)
      (unresolved : attempt.controller.config.tls.resolve around.read = .error fault) :
      Asks around attempt .connectionBound (plan.dressing none)
  | introduce : Asks around attempt .connectionInit
      [.setHostname attempt.controller.config.hostName,
        .openConnection attempt.controller.containerId]
  | begin (closed : attempt.controller.state.connectionOpened = false) :
      Asks around attempt .connectionRemoteOpen (attempt.newExchange around).opening
  | claim (found : attempt.controller.cbs = some cbs)
      (heard : event.notice? cbs = some (.linkOpen link)) (completes : cbs.Completes link) :
      Asks around attempt event [.sendClaim cbs.sender claim refusal]
  | serve (accepted : Moment.outcome? around ⟨attempt, event⟩ = some .succeeded)
      (configured : attempt.controller.config.serviceLink = some link)
      (free : attempt.controller.serviceLink = none) :
      Asks around attempt event (attempt.serving around link)
  | nothing : Asks around attempt event []

variable {attempt : Attempt}

theorem onConnectionBound_of_unplanned
    (unplanned : attempt.controller.config.layers = .error cause) (around : Surroundings) :
    attempt.onConnectionBound around = attempt.update (·.fail cause) := by
  simp only [onConnectionBound, unplanned]

theorem onConnectionBound_of_resolved (planned : attempt.controller.config.layers = .ok plan)
    (around : Surroundings)
    (resolved : attempt.controller.config.tls.resolve around.read = .ok context) :
    attempt.onConnectionBound around =
      ⟨attempt.controller.bound, attempt.trace.recordAll (plan.dressing (some context))⟩ := by
  obtain ⟨webSocket, mechanism, proxy⟩ := plan
  cases webSocket <;> cases proxy <;>
    simp [onConnectionBound, planned, putOnLayer, putOnTls, resolved, call, update,
      Controller.bound, Trace.record, Trace.recordAll, LayerPlan.dressing]

theorem onConnectionBound_of_unresolved (planned : attempt.controller.config.layers = .ok plan)
    (around : Surroundings)
    (unresolved : attempt.controller.config.tls.resolve around.read = .error fault) :
    attempt.onConnectionBound around =
      ⟨attempt.controller.fail (.tls fault.message),
        attempt.trace.recordAll (plan.dressing none)⟩ := by
  obtain ⟨webSocket, mechanism, proxy⟩ := plan
  cases webSocket <;> cases proxy <;>
    simp [onConnectionBound, planned, putOnLayer, putOnTls, unresolved, call, update,
      Controller.fail, Trace.record, Trace.recordAll, LayerPlan.dressing]

theorem onConnectionInit_eq (attempt : Attempt) :
    attempt.onConnectionInit = ⟨attempt.controller, attempt.trace.recordAll
      [.setHostname attempt.controller.config.hostName,
        .openConnection attempt.controller.containerId]⟩ := by
  simp [onConnectionInit, call, Trace.record, Trace.recordAll]

/-- The connection opens for the first time. An attempt that has failed keeps its phase. -/
theorem onConnectionRemoteOpen_of_closed
    (closed : attempt.controller.state.connectionOpened = false) (around : Surroundings) :
    attempt.onConnectionRemoteOpen around =
      ⟨{ attempt.controller with
          state := { attempt.controller.state with connectionOpened := true }
          phase := (attempt.controller.advance .authenticating).phase
          cbs := some (attempt.newExchange around) },
        attempt.trace.recordAll (attempt.newExchange around).opening⟩ := by
  simp only [onConnectionRemoteOpen, closed, Controller.advance]
  by_cases failed : attempt.controller.phase = .failed <;>
    simp [failed, newExchange, CbsSession.start, CbsSession.opening, Trace.openSession,
      Trace.openLink, Trace.record, Trace.recordAll]

theorem calls_onConnectionBound (attempt : Attempt) (around : Surroundings) :
    ∃ made, attempt.Asks around .connectionBound made ∧
      (attempt.onConnectionBound around).trace = attempt.trace.recordAll made := by
  cases planned : attempt.controller.config.layers with
  | error cause =>
    refine ⟨[], .nothing, ?_⟩
    rw [onConnectionBound_of_unplanned planned around]
    simp [update, Trace.recordAll]
  | ok plan =>
    cases resolved : attempt.controller.config.tls.resolve around.read with
    | error fault =>
      rw [onConnectionBound_of_unresolved planned around resolved]
      exact ⟨_, .bare planned resolved, rfl⟩
    | ok context =>
      rw [onConnectionBound_of_resolved planned around resolved]
      exact ⟨_, .dress planned resolved, rfl⟩

theorem calls_onReactorInit (attempt : Attempt) (around : Surroundings) :
    ∃ made, attempt.Asks around .reactorInit made ∧
      attempt.onReactorInit.trace.calls = attempt.trace.calls ++ made := by
  cases nowhere : attempt.controller.endpoint with
  | none => exact ⟨_, .connect nowhere, by simp only [onReactorInit, nowhere]; rfl⟩
  | some endpoint => exact ⟨[], .nothing, by simp [onReactorInit, nowhere]⟩

theorem calls_onConnectionRemoteOpen (attempt : Attempt) (around : Surroundings) :
    ∃ made, attempt.Asks around .connectionRemoteOpen made ∧
      (attempt.onConnectionRemoteOpen around).trace.calls = attempt.trace.calls ++ made := by
  cases opened : attempt.controller.state.connectionOpened with
  | false =>
    rw [onConnectionRemoteOpen_of_closed opened]
    exact ⟨_, .begin opened, rfl⟩
  | true => exact ⟨[], .nothing, by simp [onConnectionRemoteOpen, opened]⟩

theorem openServiceLink_of_free (configured : attempt.controller.config.serviceLink = some link)
    (free : attempt.controller.serviceLink = none) (around : Surroundings) :
    attempt.openServiceLink around =
      ⟨{ attempt.controller with
          serviceSession := some (attempt.serviceIds around link).1
          serviceLink := some (attempt.serviceIds around link).2 },
        attempt.trace.recordAll (attempt.serving around link)⟩ := by
  simp [openServiceLink, configured, free, serving, serviceIds, Trace.openSession, Trace.openLink,
    Trace.record, Trace.recordAll]

theorem trace_accept_of_ungranted {told : Option AuthOutcome} (ungranted : told ≠ some .succeeded)
    (around : Surroundings) (attempt : Attempt) :
    (attempt.accept around told).trace = attempt.trace := by
  rcases told with _ | _ | error
  · rfl
  · exact absurd rfl ungranted
  · rfl

theorem calls_openServiceLink (around : Surroundings) (attempt : Attempt) :
    (attempt.openServiceLink around).trace = attempt.trace ∨
      ∃ link, attempt.controller.config.serviceLink = some link ∧
        attempt.controller.serviceLink = none ∧
        (attempt.openServiceLink around).trace =
          attempt.trace.recordAll (attempt.serving around link) := by
  cases configured : attempt.controller.config.serviceLink with
  | none => exact .inl (by simp only [openServiceLink, configured])
  | some link =>
    cases free : attempt.controller.serviceLink with
    | none => exact .inr ⟨link, rfl, rfl, by rw [openServiceLink_of_free configured free]⟩
    | some _ => exact .inl (by simp only [openServiceLink, configured, free])

theorem serving_congr {later : Attempt} (same : later.trace = attempt.trace)
    (around : Surroundings) (link : ServiceLink) :
    later.serving around link = attempt.serving around link := by
  simp only [serving, serviceIds, same]

/-- The exchange sends its claim, or an accepted claim opens the application link. -/
theorem calls_hear (found : attempt.controller.cbs = some cbs) (agrees : cbs.Agrees)
    (heard : event.notice? cbs = some notice) (around : Surroundings) :
    ∃ made, attempt.Asks around event made ∧
      (attempt.hear around cbs notice).trace.calls = attempt.trace.calls ++ made := by
  obtain ⟨told, next, turn⟩ := Exchange.exists_turn around ⟨cbs, attempt.trace⟩ notice
  have outcome : Moment.outcome? around ⟨attempt, event⟩ = told := by
    rw [Moment.outcome?_eq found, heard, Option.bind_some, turn.hear_eq agrees]
  rw [hear_eq_accept attempt agrees turn]
  by_cases granted : told = some .succeeded
  · subst granted
    obtain ⟨-, quiet, -⟩ := turn.of_succeeded
    have same : ((attempt.heard next).update Controller.onAuthenticationSucceeded).trace =
        attempt.trace := quiet
    rcases calls_openServiceLink around
        ((attempt.heard next).update Controller.onAuthenticationSucceeded) with
      silent | ⟨link, configured, free, called⟩
    · have calls := congrArg Trace.calls (silent.trans same)
      exact ⟨[], .nothing, calls.trans (List.append_nil _).symm⟩
    · rw [same, serving_congr same] at called
      exact ⟨_, .serve outcome configured free, congrArg Trace.calls called⟩
  · rw [trace_accept_of_ungranted granted]
    cases turn with
    | mark | withhold | disregard | answer | stay | close =>
      exact ⟨[], .nothing, (List.append_nil _).symm⟩
    | send completes | bounce completes => exact ⟨_, .claim found heard completes, rfl⟩

theorem trace_onClose (condition : Option ErrorCondition) (attempt : Attempt) :
    (attempt.onClose condition).trace = attempt.trace := by
  cases condition <;> rfl

theorem calls_closed (agrees : ∀ cbs, attempt.controller.cbs = some cbs → cbs.Agrees)
    (around : Surroundings) (event : Event) (isOwn : CbsSession → Bool)
    (condition : Option ErrorCondition)
    (told : ∀ cbs, event.notice? cbs = if isOwn cbs then some (.closed condition) else none) :
    ∃ made, attempt.Asks around event made ∧
      (match attempt.controller.cbs.filter isOwn with
        | some cbs => attempt.onCbsClose around cbs condition
        | none => attempt.onClose condition).trace.calls = attempt.trace.calls ++ made := by
  split
  · rename_i cbs owning
    obtain ⟨found, owns⟩ := Option.filter_eq_some_iff.mp owning
    have heard : event.notice? cbs = some (.closed condition) := by rw [told, if_pos owns]
    exact calls_hear found (agrees cbs found) heard around
  · exact ⟨[], .nothing, by rw [trace_onClose, List.append_nil]⟩

/-- An event makes the calls that it asks for, behind those made so far. -/
theorem exists_asks (agrees : ∀ cbs, attempt.controller.cbs = some cbs → cbs.Agrees)
    (around : Surroundings) (event : Event) :
    ∃ made, attempt.Asks around event made ∧
      (attempt.react around event).trace.calls = attempt.trace.calls ++ made := by
  cases event with
  | reactorInit => exact calls_onReactorInit attempt around
  | connectionBound =>
    obtain ⟨made, asks, trace⟩ := calls_onConnectionBound attempt around
    exact ⟨made, asks, congrArg Trace.calls trace⟩
  | connectionInit =>
    rw [react, onConnectionInit_eq]
    exact ⟨_, .introduce, rfl⟩
  | connectionRemoteOpen => exact calls_onConnectionRemoteOpen attempt around
  | linkRemoteOpen link =>
    simp only [react, onLinkRemoteOpen]
    split
    · rename_i cbs owning
      obtain ⟨found, owns⟩ := Option.filter_eq_some_iff.mp owning
      exact calls_hear found (agrees cbs found) (Event.notice?_linkRemoteOpen owns) around
    · exact ⟨[], .nothing, (List.append_nil _).symm⟩
  | cbsResponse link status description =>
    simp only [react, onCbsResponse]
    split
    · rename_i cbs found
      have heard : Event.notice? cbs (.cbsResponse link status description) =
        some (.response link status description) := rfl
      exact calls_hear found (agrees cbs found) heard around
    · exact ⟨[], .nothing, (List.append_nil _).symm⟩
  | sessionRemoteOpen | transportError => exact ⟨[], .nothing, (List.append_nil _).symm⟩
  | connectionRemoteClose condition =>
    exact ⟨[], .nothing, by rw [react, trace_onClose, List.append_nil]⟩
  | sessionRemoteClose session condition =>
    exact calls_closed agrees around _ _ condition fun cbs => by simp [Event.notice?]
  | linkRemoteClose link condition => exact calls_closed agrees around _ _ condition fun cbs => rfl

end Attempt

end AmqpHandshake
