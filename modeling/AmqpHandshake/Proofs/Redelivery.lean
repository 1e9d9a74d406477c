import AmqpHandshake.Proofs.Confirmations
import AmqpHandshake.Proofs.StandAlone

/-! An event delivered twice in a row. The second delivery changes nothing in the controller. It
asks nothing of the engine either, with two exceptions: the layers are put on again, and the
connection is opened again. -/
namespace AmqpHandshake

namespace CbsSession

theorem markOpen_markOpen (cbs : CbsSession) (link : LinkId) :
    (cbs.markOpen link).markOpen link = cbs.markOpen link := by
  simp [markOpen_eq]

theorem completes_markOpen_iff {cbs : CbsSession} {link : LinkId} :
    (cbs.markOpen link).Completes link ↔ cbs.Completes link := by
  have phase : (cbs.markOpen link).phase = cbs.phase := by rw [markOpen_eq]
  have owns : (cbs.markOpen link).ownsLink link = cbs.ownsLink link := by
    rw [markOpen_eq, ownsLink, ownsLink]
  constructor
  · rintro ⟨own, waits, sender, receiver⟩
    rw [markOpen_markOpen] at sender receiver
    exact ⟨owns ▸ own, phase ▸ waits, sender, receiver⟩
  · rintro ⟨own, waits, sender, receiver⟩
    refine ⟨owns.trans own, phase.trans waits, ?_, ?_⟩
    all_goals rwa [markOpen_markOpen]

/-- Presenting a token leaves the stage of opening links, whatever comes of it. -/
theorem present_leaves (around : Surroundings) (cbs : CbsSession) (trace : Trace) :
    ∃ phase slot, phase ≠ .openingLinks ∧
      (cbs.present around trace).2.1 = { cbs with phase, slot } := by
  unfold present
  split
  · exact ⟨.done, _, by decide, rfl⟩
  · dsimp only
    split
    · exact ⟨.awaitingResponse, cbs.slot, by decide, rfl⟩
    · exact ⟨.done, _, by decide, rfl⟩

end CbsSession

namespace Exchange

/-- A notice is heard once: given again, it changes nothing, tells nothing and asks for nothing. -/
theorem hear_again (around : Surroundings) (exchange : Exchange) (notice : CbsNotice)
    (trace : Trace) :
    hear around ⟨(exchange.hear around notice).2.cbs, trace⟩ notice =
      (none, ⟨(exchange.hear around notice).2.cbs, trace⟩) := by
  cases notice with
  | linkOpen link =>
    by_cases completes : exchange.cbs.Completes link
    · rw [hear_linkOpen_of_completes around completes]
      obtain ⟨phase, slot, left, next⟩ :=
        (exchange.cbs.markOpen link).present_leaves around exchange.trace
      rw [next, hear_linkOpen_of_not_completes around fun again => left again.waits]
      simp [CbsSession.markOpen_eq]
    · rw [hear_linkOpen_of_not_completes around completes]
      have waiting : ¬ (exchange.cbs.markOpen link).Completes link :=
        mt CbsSession.completes_markOpen_iff.mp completes
      rw [hear_linkOpen_of_not_completes around waiting]
      exact congrArg (fun cbs => (none, Exchange.mk cbs trace)) (CbsSession.markOpen_markOpen _ _)
  | response link status description =>
    by_cases awaited : link = exchange.cbs.receiver ∧ exchange.cbs.phase = .awaitingResponse
    · simp [hear, CbsSession.onResponse, awaited, CbsSession.finish]
    · simp [hear, CbsSession.onResponse, awaited]
  | closed condition =>
    by_cases ended : exchange.cbs.phase = .done
    · simp [hear, CbsSession.onClosed, ended]
    · simp [hear, CbsSession.onClosed, ended, CbsSession.finish]

end Exchange

/-- What an event tells an exchange is a matter of the ids that the exchange is on. -/
theorem Event.notice?_of_ids {cbs next : CbsSession} (same : next.ids = cbs.ids) (event : Event) :
    event.notice? next = event.notice? cbs := by
  simp only [CbsSession.ids, Prod.mk.injEq, List.cons.injEq, and_true] at same
  obtain ⟨session, sender, receiver⟩ := same
  cases event <;> simp [notice?, session, sender, receiver]

namespace Controller

/-- The calls that an event asks for at each delivery. A decided attempt makes none. -/
def callsAnew (around : Surroundings) (controller : Controller) (event : Event) : List Call :=
  match controller.verdict, event with
  | none, .connectionBound =>
    match controller.config.layers with
    | .ok plan => plan.dressing (controller.config.tls.resolve around.read).toOption
    | .error _ => []
  | none, .connectionInit =>
    [.setHostname controller.config.hostName, .openConnection controller.containerId]
  | _, _ => []

theorem callsAnew_eq_nil_iff (around : Surroundings) (controller : Controller) (event : Event) :
    controller.callsAnew around event = [] ↔ controller.verdict.isSome ∨
      event ≠ .connectionInit ∧
        (event = .connectionBound → ∃ cause, controller.config.layers = .error cause) := by
  cases decided : controller.verdict with
  | some verdict => simp [callsAnew, decided]
  | none =>
    cases event with
    | connectionBound =>
      cases planned : controller.config.layers with
      | error cause => simp [callsAnew, decided, planned]
      | ok plan => simp [callsAnew, decided, planned, LayerPlan.dressing]
    | _ => simp [callsAnew, decided]

theorem fail_fail (controller : Controller) (cause : FailureCause) :
    (controller.fail cause).fail cause = controller.fail cause := by
  simp [fail, HandshakeState.saveFailure]

theorem bound_bound (controller : Controller) : controller.bound.bound = controller.bound := by
  by_cases initial : controller.phase = .initial
  · simp [bound, initial]
  · simp [bound, initial]

theorem onTransportError_again (controller : Controller) (condition : ErrorCondition) :
    (controller.onTransportError condition).onTransportError condition =
      controller.onTransportError condition := by
  cases found : controller.protocolError <;> simp [onTransportError, found]

end Controller

namespace Attempt

variable {attempt : Attempt}

theorem onReactorInit_again (attempt : Attempt) :
    attempt.onReactorInit.onReactorInit = attempt.onReactorInit := by
  cases nowhere : attempt.controller.endpoint with
  | some endpoint => simp only [onReactorInit, nowhere]
  | none => simp only [onReactorInit, nowhere, update_controller]

theorem onConnectionRemoteOpen_again (around : Surroundings) (attempt : Attempt) :
    (attempt.onConnectionRemoteOpen around).onConnectionRemoteOpen around =
      attempt.onConnectionRemoteOpen around := by
  cases opened : attempt.controller.state.connectionOpened with
  | true => simp [onConnectionRemoteOpen, opened]
  | false =>
    rw [onConnectionRemoteOpen_of_closed opened]
    simp [onConnectionRemoteOpen]

theorem onClose_again (condition : Option ErrorCondition) (attempt : Attempt) :
    (attempt.onClose condition).onClose condition = attempt.onClose condition := by
  cases condition with
  | none => rfl
  | some condition =>
    exact congrArg (Attempt.mk · attempt.trace)
      (Controller.onTransportError_again attempt.controller condition)

theorem cbs_onClose (condition : Option ErrorCondition) (attempt : Attempt) :
    (attempt.onClose condition).controller.cbs = attempt.controller.cbs :=
  congrArg Channel.cbs (channel_onClose condition attempt)

/-- What the exchange has heard, it does not hear again. -/
theorem hear_again (around : Surroundings) (cbs : CbsSession) (notice : CbsNotice)
    (attempt : Attempt) :
    (attempt.hear around cbs notice).hear around
      (Exchange.hear around ⟨cbs, attempt.trace⟩ notice).2.cbs notice =
        attempt.hear around cbs notice := by
  have held := cbs_hear around cbs notice attempt
  generalize attempt.hear around cbs notice = once at held
  rw [hear, Exchange.hear_again]
  simp only [accept, heard, withCbs, update, ← held]

theorem react_again_of_heard (found : attempt.controller.cbs = some cbs)
    (told : event.notice? cbs = some notice) (around : Surroundings) :
    (attempt.react around event).react around event = attempt.react around event := by
  rw [react_eq_hear found told]
  have ids := (Exchange.ids_hear around ⟨cbs, attempt.trace⟩ notice).1
  rw [react_eq_hear (cbs_hear around cbs notice attempt)
    ((Event.notice?_of_ids ids event).trans told)]
  exact hear_again around cbs notice attempt

/-- A close outside the exchange is the same outside it when it is told again. -/
theorem closed_again (isOwn : CbsSession → Bool) (condition : Option ErrorCondition)
    (around : Surroundings) (event : Event)
    (told : ∀ cbs, event.notice? cbs = if isOwn cbs then some (.closed condition) else none)
    (reacts : ∀ attempt : Attempt, attempt.react around event =
      match attempt.controller.cbs.filter isOwn with
      | some cbs => attempt.onCbsClose around cbs condition
      | none => attempt.onClose condition) (attempt : Attempt) :
    (attempt.react around event).react around event = attempt.react around event := by
  cases owning : attempt.controller.cbs.filter isOwn with
  | some cbs =>
    obtain ⟨found, owns⟩ := Option.filter_eq_some_iff.mp owning
    exact react_again_of_heard found ((told cbs).trans (if_pos owns)) around
  | none =>
    have once : attempt.react around event = attempt.onClose condition := by
      rw [reacts, owning]
    rw [once, reacts, cbs_onClose, owning]
    exact onClose_again condition attempt

theorem onSessionRemoteOpen_again (session : SessionId) (attempt : Attempt) :
    (attempt.onSessionRemoteOpen session).onSessionRemoteOpen session =
      attempt.onSessionRemoteOpen session := by
  rw [onSessionRemoteOpen_eq, onSessionRemoteOpen_eq, confirm_confirm]
  simp [confirm, Controller.confirm, Controller.isCbsSession]

theorem onLinkRemoteOpen_again (around : Surroundings) (link : LinkId) (attempt : Attempt) :
    (attempt.react around (.linkRemoteOpen link)).react around (.linkRemoteOpen link) =
      attempt.react around (.linkRemoteOpen link) := by
  cases own : attempt.controller.isCbsLink link with
  | true =>
    rw [Controller.isCbsLink_eq] at own
    obtain ⟨cbs, owning⟩ := Option.isSome_iff_exists.mp own
    obtain ⟨found, owns⟩ := Option.filter_eq_some_iff.mp owning
    exact react_again_of_heard found (Event.notice?_linkRemoteOpen owns) around
  | false =>
    have foreign : (attempt.confirm false true).controller.isCbsLink link = false := own
    simp only [react, onLinkRemoteOpen_of_foreign own, onLinkRemoteOpen_of_foreign foreign]
    exact confirm_confirm ..

/-- Binding the transport again puts the same layers on again. -/
theorem onConnectionBound_again (undecided : attempt.controller.verdict = none)
    (around : Surroundings) :
    (attempt.onConnectionBound around).onConnectionBound around =
      ⟨(attempt.onConnectionBound around).controller,
        (attempt.onConnectionBound around).trace.recordAll
          (attempt.controller.callsAnew around .connectionBound)⟩ := by
  have config : (attempt.onConnectionBound around).controller.config =
      attempt.controller.config := congrArg (·.1) (terms_onConnectionBound around attempt)
  simp only [Controller.callsAnew, undecided]
  cases planned : attempt.controller.config.layers with
  | error cause =>
    rw [onConnectionBound_of_unplanned (config ▸ planned),
      onConnectionBound_of_unplanned planned]
    simp [update, Controller.fail_fail, Trace.recordAll]
  | ok plan =>
    cases resolved : attempt.controller.config.tls.resolve around.read with
    | error fault =>
      rw [onConnectionBound_of_unresolved (config ▸ planned) around (config ▸ resolved),
        onConnectionBound_of_unresolved planned around resolved, Controller.fail_fail]
      rfl
    | ok context =>
      rw [onConnectionBound_of_resolved (config ▸ planned) around (config ▸ resolved),
        onConnectionBound_of_resolved planned around resolved, Controller.bound_bound]
      rfl

/-- All other events are absorbed when they come again. -/
theorem react_again_of_other (around : Surroundings) (attempt : Attempt) {event : Event}
    (unbound : event ≠ .connectionBound) (uninitialized : event ≠ .connectionInit) :
    (attempt.react around event).react around event = attempt.react around event := by
  cases event with
  | connectionBound => exact absurd rfl unbound
  | connectionInit => exact absurd rfl uninitialized
  | reactorInit => exact onReactorInit_again attempt
  | connectionRemoteOpen => exact onConnectionRemoteOpen_again around attempt
  | sessionRemoteOpen session => exact onSessionRemoteOpen_again session attempt
  | linkRemoteOpen link => exact onLinkRemoteOpen_again around link attempt
  | cbsResponse link status description =>
    cases found : attempt.controller.cbs with
    | some cbs => exact react_again_of_heard found rfl around
    | none => simp only [react, onCbsResponse, found]
  | transportError condition => exact onClose_again (some condition) attempt
  | connectionRemoteClose condition => exact onClose_again condition attempt
  | sessionRemoteClose session condition =>
    apply closed_again (·.session = session) condition
    · intro cbs
      simp [Event.notice?]
    · intro attempt
      rfl
  | linkRemoteClose link condition =>
    apply closed_again (·.ownsLink link) condition
    · intro cbs
      rfl
    · intro attempt
      rfl

theorem react_again (undecided : attempt.controller.verdict = none) (around : Surroundings)
    (event : Event) :
    (attempt.react around event).react around event =
      ⟨(attempt.react around event).controller,
        (attempt.react around event).trace.recordAll
          (attempt.controller.callsAnew around event)⟩ := by
  by_cases bound : event = .connectionBound
  · subst bound
    exact onConnectionBound_again undecided around
  · by_cases initialized : event = .connectionInit
    · subst initialized
      simp only [react, onConnectionInit_eq, Controller.callsAnew, undecided]
    · have silent : attempt.controller.callsAnew around event = [] := by
        apply (Controller.callsAnew_eq_nil_iff ..).mpr
        exact .inr ⟨initialized, fun same => absurd same bound⟩
      rw [react_again_of_other around attempt bound initialized, silent]
      simp [Trace.recordAll]

/-- A second delivery changes nothing but the calls made, and of those it makes only the ones that
an event asks for each time. -/
theorem handle_again (around : Surroundings) (attempt : Attempt) (event : Event) :
    (attempt.handle around event).handle around event =
      ⟨(attempt.handle around event).controller,
        (attempt.handle around event).trace.recordAll
          (attempt.controller.callsAnew around event)⟩ := by
  cases found : attempt.controller.verdict with
  | some verdict =>
    have decided : attempt.controller.verdict.isSome := Option.isSome_of_eq_some found
    have silent : attempt.controller.callsAnew around event = [] :=
      (Controller.callsAnew_eq_nil_iff ..).mpr (.inl decided)
    rw [handle_decided decided, handle_decided decided, silent]
    simp [Trace.recordAll]
  | none =>
    have undecided := undecided_handleAll found around [event]
    have once : attempt.handleAll around [event] = attempt.react around event :=
      handle_undecided found around event
    rw [once] at undecided
    rw [handle_undecided found, handle_undecided undecided]
    exact react_again found around event

/-- An event delivered again leaves the controller as it is, and makes the calls that it asks for
anew. It makes none exactly if the attempt is decided, or the event neither opens the connection nor
binds a transport whose layers can be planned. -/
theorem redelivery_absorbed_iff (around : Surroundings) (attempt : Attempt) (event : Event) :
    let once := attempt.handle around event
    let twice := once.handle around event
    twice.controller = once.controller ∧
      twice.trace = once.trace.recordAll (attempt.controller.callsAnew around event) ∧
      (twice = once ↔ attempt.controller.verdict.isSome ∨ event ≠ .connectionInit ∧
        (event = .connectionBound → ∃ cause, attempt.controller.config.layers = .error cause)) := by
  intro once twice
  have again : twice = ⟨once.controller, once.trace.recordAll _⟩ :=
    handle_again around attempt event
  refine ⟨by rw [again], by rw [again], ?_⟩
  rw [← Controller.callsAnew_eq_nil_iff around, again]
  constructor
  · intro same
    have calls := congrArg (·.trace.calls) same
    exact List.append_right_eq_self.mp calls
  · intro silent
    rw [silent]
    simp [Trace.recordAll]

/-- A connection that is told to open twice is opened twice. -/
theorem connection_opened_again :
    ¬ ∀ around attempt event, Reached around attempt →
      (attempt.handle around event).handle around event = attempt.handle around event := by
  intro absorbed
  have same := absorbed Sample.around Sample.start .connectionInit Sample.reached
  have calls := congrArg (·.trace.calls.length) same
  exact absurd calls (by decide)

end Attempt

end AmqpHandshake
