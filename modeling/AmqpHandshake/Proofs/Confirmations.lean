import AmqpHandshake.Proofs.Calls
import AmqpHandshake.Proofs.WriteOnce

/-! Confirmations to the application commute with everything else that happens. Where and how often
they come makes no difference; only whether a session and a link are confirmed at all does. -/
namespace AmqpHandshake

/-- Note a session, a link or both as confirmed to the application. -/
def HandshakeState.confirm (session link : Bool) (state : HandshakeState) : HandshakeState :=
  { state with
    sessionOpened := state.sessionOpened || session
    linkOpened := state.linkOpened || link }

namespace Controller

def confirm (session link : Bool) (controller : Controller) : Controller :=
  { controller with state := controller.state.confirm session link }

@[simp] theorem confirm_none (controller : Controller) :
    controller.confirm false false = controller := by
  simp [confirm, HandshakeState.confirm]

@[simp] theorem confirm_confirm (controller : Controller) (session link more moreLinks : Bool) :
    (controller.confirm session link).confirm more moreLinks =
      controller.confirm (session || more) (link || moreLinks) := by
  simp [confirm, HandshakeState.confirm, Bool.or_assoc]

theorem advance_confirm (controller : Controller) (session link : Bool) (phase : Phase) :
    (controller.confirm session link).advance phase =
      (controller.advance phase).confirm session link := by
  unfold advance
  by_cases failed : controller.phase = .failed
  · rw [if_pos failed, if_pos (by exact failed)]
  · rw [if_neg failed, if_neg (by exact failed)]
    rfl

theorem bound_confirm (controller : Controller) (session link : Bool) :
    (controller.confirm session link).bound = controller.bound.confirm session link := by
  unfold bound
  by_cases initial : controller.phase = .initial
  · rw [if_pos initial, if_pos (by exact initial)]
    rfl
  · rw [if_neg initial, if_neg (by exact initial)]

theorem onTransportError_confirm (controller : Controller) (session link : Bool)
    (condition : ErrorCondition) :
    (controller.confirm session link).onTransportError condition =
      (controller.onTransportError condition).confirm session link := by
  obtain ⟨_, _, _, _, _, protocolError, _, _, _, _, _⟩ := controller
  cases protocolError <;> rfl

end Controller

namespace Attempt

def confirm (session link : Bool) (attempt : Attempt) : Attempt :=
  attempt.update (·.confirm session link)

variable (session link : Bool) (attempt : Attempt)

theorem confirm_none : attempt.confirm false false = attempt := by
  simp [confirm, update]

theorem confirm_confirm (more moreLinks : Bool) :
    (attempt.confirm session link).confirm more moreLinks =
      attempt.confirm (session || more) (link || moreLinks) := by
  simp [confirm, update]

/-- A change of the controller that commutes with confirmations does so in an attempt. -/
theorem update_confirm (change : Controller → Controller)
    (commutes : change (attempt.controller.confirm session link) =
      (change attempt.controller).confirm session link) :
    (attempt.confirm session link).update change =
      (attempt.update change).confirm session link := by
  simp only [confirm, update, commutes]

theorem onReactorInit_confirm :
    (attempt.confirm session link).onReactorInit = attempt.onReactorInit.confirm session link := by
  obtain ⟨⟨_, _, _, _, endpoint, _, _, _, _, _, _⟩, trace⟩ := attempt
  cases endpoint <;> rfl

theorem onConnectionBound_confirm (around : Surroundings) :
    (attempt.confirm session link).onConnectionBound around =
      (attempt.onConnectionBound around).confirm session link := by
  cases planned : attempt.controller.config.layers with
  | error cause =>
    have alike : (attempt.confirm session link).controller.config.layers = .error cause := planned
    rw [onConnectionBound_of_unplanned planned, onConnectionBound_of_unplanned alike]
    rfl
  | ok plan =>
    have alike : (attempt.confirm session link).controller.config.layers = .ok plan := planned
    cases resolved : attempt.controller.config.tls.resolve around.read with
    | error fault =>
      rw [onConnectionBound_of_unresolved planned around resolved,
        onConnectionBound_of_unresolved alike around resolved]
      rfl
    | ok context =>
      rw [onConnectionBound_of_resolved planned around resolved,
        onConnectionBound_of_resolved alike around resolved]
      exact congrArg (Attempt.mk · _) (Controller.bound_confirm attempt.controller session link)

theorem onConnectionRemoteOpen_confirm (around : Surroundings) :
    (attempt.confirm session link).onConnectionRemoteOpen around =
      (attempt.onConnectionRemoteOpen around).confirm session link := by
  cases opened : attempt.controller.state.connectionOpened with
  | true =>
    have alike : (attempt.confirm session link).controller.state.connectionOpened = true := opened
    simp only [onConnectionRemoteOpen, opened, alike, if_true]
  | false =>
    have alike : (attempt.confirm session link).controller.state.connectionOpened = false := opened
    have advanced : (attempt.confirm session link).controller.advance .authenticating =
        (attempt.controller.advance .authenticating).confirm session link :=
      Controller.advance_confirm attempt.controller session link .authenticating
    rw [onConnectionRemoteOpen_of_closed opened, onConnectionRemoteOpen_of_closed alike, advanced]
    rfl

variable (around : Surroundings)

theorem openServiceLink_confirm :
    (attempt.confirm session link).openServiceLink around =
      (attempt.openServiceLink around).confirm session link := by
  obtain ⟨⟨config, _, _, _, _, _, _, _, _, serviceLink, _⟩, trace⟩ := attempt
  unfold openServiceLink
  cases configured : config.serviceLink <;> cases serviceLink <;>
    simp [confirm, update, Controller.confirm, configured]

theorem accept_confirm (told : Option AuthOutcome) :
    (attempt.confirm session link).accept around told =
      (attempt.accept around told).confirm session link := by
  cases told with
  | none => rfl
  | some outcome =>
    cases outcome with
    | failed error => rfl
    | succeeded =>
      exact openServiceLink_confirm session link
        (attempt.update Controller.onAuthenticationSucceeded) around

theorem hear_confirm (cbs : CbsSession) (notice : CbsNotice) :
    (attempt.confirm session link).hear around cbs notice =
      (attempt.hear around cbs notice).confirm session link :=
  accept_confirm session link
    (attempt.heard (Exchange.hear around ⟨cbs, attempt.trace⟩ notice).2) around
    (Exchange.hear around ⟨cbs, attempt.trace⟩ notice).1

theorem confirm_comm (more moreLinks : Bool) :
    (attempt.confirm session link).confirm more moreLinks =
      (attempt.confirm more moreLinks).confirm session link := by
  rw [confirm_confirm, confirm_confirm, Bool.or_comm session, Bool.or_comm link]

/-- Outside the exchange, a session that the peer opens is a confirmation and nothing else. -/
theorem onSessionRemoteOpen_eq (id : SessionId) :
    attempt.onSessionRemoteOpen id =
      attempt.confirm (!attempt.controller.isCbsSession id) false := by
  unfold onSessionRemoteOpen
  cases own : attempt.controller.isCbsSession id <;>
    simp [confirm, update, Controller.confirm, HandshakeState.confirm, own]

theorem onLinkRemoteOpen_of_foreign {attempt : Attempt} {id : LinkId}
    (foreign : attempt.controller.isCbsLink id = false) (around : Surroundings) :
    attempt.onLinkRemoteOpen around id = attempt.confirm false true := by
  rw [Controller.isCbsLink_eq, Option.isSome_eq_false_iff, Option.isNone_iff_eq_none] at foreign
  simp [onLinkRemoteOpen, foreign, confirm, Controller.confirm, HandshakeState.confirm]

theorem onLinkRemoteOpen_confirm (id : LinkId) :
    (attempt.confirm session link).onLinkRemoteOpen around id =
      (attempt.onLinkRemoteOpen around id).confirm session link := by
  cases own : attempt.controller.isCbsLink id with
  | false =>
    rw [onLinkRemoteOpen_of_foreign own, onLinkRemoteOpen_of_foreign (by exact own)]
    exact confirm_comm ..
  | true =>
    rw [Controller.isCbsLink_eq] at own
    obtain ⟨cbs, owning⟩ := Option.isSome_iff_exists.mp own
    have owningToo : (attempt.confirm session link).controller.cbsOwning? id = some cbs := owning
    simp only [onLinkRemoteOpen, owning, owningToo]
    exact hear_confirm session link attempt around cbs (.linkOpen id)

theorem onClose_confirm (condition : Option ErrorCondition) :
    (attempt.confirm session link).onClose condition =
      (attempt.onClose condition).confirm session link := by
  cases condition with
  | none => rfl
  | some condition =>
    exact update_confirm session link attempt (·.onTransportError condition)
      (Controller.onTransportError_confirm attempt.controller session link condition)

theorem closed_confirm (owner : Option CbsSession) (condition : Option ErrorCondition) :
    (match owner with
      | some cbs => (attempt.confirm session link).onCbsClose around cbs condition
      | none => (attempt.confirm session link).onClose condition) =
    (match owner with
      | some cbs => attempt.onCbsClose around cbs condition
      | none => attempt.onClose condition).confirm session link := by
  cases owner with
  | none => exact onClose_confirm session link attempt condition
  | some cbs => exact hear_confirm session link attempt around cbs (.closed condition)

/-- What an event does to an attempt, it does with more confirmations and with fewer. -/
theorem react_confirm (event : Event) :
    (attempt.confirm session link).react around event =
      (attempt.react around event).confirm session link := by
  cases event with
  | reactorInit => exact onReactorInit_confirm session link attempt
  | connectionBound => exact onConnectionBound_confirm session link attempt around
  | connectionInit => rfl
  | connectionRemoteOpen => exact onConnectionRemoteOpen_confirm session link attempt around
  | sessionRemoteOpen id =>
    simp only [react, onSessionRemoteOpen_eq]
    exact confirm_comm ..
  | linkRemoteOpen id => exact onLinkRemoteOpen_confirm session link attempt around id
  | cbsResponse id status description =>
    have alike : (attempt.confirm session link).controller.cbs = attempt.controller.cbs := rfl
    simp only [react, onCbsResponse, alike]
    cases attempt.controller.cbs with
    | none => rfl
    | some cbs =>
      exact hear_confirm session link attempt around cbs (.response id status description)
  | transportError condition =>
    exact onClose_confirm session link attempt (some condition)
  | connectionRemoteClose condition => exact onClose_confirm session link attempt condition
  | sessionRemoteClose id condition => exact closed_confirm session link attempt around _ condition
  | linkRemoteClose id condition => exact closed_confirm session link attempt around _ condition

theorem handle_confirm (event : Event) :
    (attempt.confirm session link).handle around event =
      (attempt.handle around event).confirm session link := by
  cases found : attempt.controller.verdict with
  | some verdict =>
    have decided : (attempt.confirm session link).controller.verdict = some verdict := found
    rw [handle_decided (Option.isSome_of_eq_some decided),
      handle_decided (Option.isSome_of_eq_some found)]
  | none =>
    have undecided : (attempt.confirm session link).controller.verdict = none := found
    rw [handle_undecided found, handle_undecided undecided]
    exact react_confirm session link attempt around event

theorem handleAll_confirm (events : List Event) :
    (attempt.confirm session link).handleAll around events =
      (attempt.handleAll around events).confirm session link := by
  induction events generalizing attempt with
  | nil => rfl
  | cons event rest ih =>
    rw [handleAll_cons, handle_confirm, ih]
    rfl

end Attempt

namespace Controller.Extends

variable {earlier later : Controller}

theorem any_cbs {isOwn : CbsSession → Bool} (goesOn : earlier.Extends later)
    (stays : ∀ cbs next, next.terms = cbs.terms → isOwn next = isOwn cbs)
    (own : earlier.cbs.any isOwn = true) : later.cbs.any isOwn = true := by
  cases found : earlier.cbs with
  | none =>
    rw [found] at own
    cases own
  | some cbs =>
    obtain ⟨next, held, further⟩ := goesOn.cbs cbs found
    rw [found, Option.any_some] at own
    rw [held, Option.any_some, stays cbs next further.terms]
    exact own

/-- What belongs to the exchange goes on belonging to it. -/
theorem isCbsSession {session : SessionId} (goesOn : earlier.Extends later)
    (own : earlier.isCbsSession session = true) : later.isCbsSession session = true := by
  refine goesOn.any_cbs (fun cbs next same => ?_) own
  obtain ⟨session, -⟩ := CbsSession.terms_eq_iff.mp same
  rw [session]

theorem isCbsLink {link : LinkId} (goesOn : earlier.Extends later)
    (own : earlier.isCbsLink link = true) : later.isCbsLink link = true := by
  refine goesOn.any_cbs (fun cbs next same => ?_) own
  obtain ⟨-, sender, receiver, -⟩ := CbsSession.terms_eq_iff.mp same
  rw [sender, receiver]

end Controller.Extends

namespace Event

variable (controller : Controller)

/-- Whether an event confirms a session that is not the exchange's. -/
def confirmsSession : Event → Bool
  | .sessionRemoteOpen id => !controller.isCbsSession id
  | _ => false

/-- Whether an event confirms a link that is not the exchange's. -/
def confirmsLink : Event → Bool
  | .linkRemoteOpen id => !controller.isCbsLink id
  | _ => false

/-- Whether an event is a confirmation to the application. -/
def isConfirmation (event : Event) : Bool :=
  event.confirmsSession controller || event.confirmsLink controller

end Event

namespace Attempt

/-- What is a confirmation in the end was one when it came, and did nothing else. -/
theorem react_of_isConfirmation {attempt : Attempt} (around : Surroundings)
    (goesOn : attempt.controller.Extends final) (confirms : event.isConfirmation final = true) :
    attempt.react around event =
      attempt.confirm (event.confirmsSession final) (event.confirmsLink final) := by
  cases event with
  | sessionRemoteOpen id =>
    have foreign : final.isCbsSession id = false := by
      simpa [Event.isConfirmation, Event.confirmsSession, Event.confirmsLink] using confirms
    have earlier : attempt.controller.isCbsSession id = false := by
      rw [Bool.eq_false_iff] at foreign ⊢
      intro own
      exact foreign (goesOn.isCbsSession own)
    simp [react, onSessionRemoteOpen_eq, Event.confirmsSession, Event.confirmsLink, earlier,
      foreign]
  | linkRemoteOpen id =>
    have foreign : final.isCbsLink id = false := by
      simpa [Event.isConfirmation, Event.confirmsSession, Event.confirmsLink] using confirms
    have earlier : attempt.controller.isCbsLink id = false := by
      rw [Bool.eq_false_iff] at foreign ⊢
      intro own
      exact foreign (goesOn.isCbsLink own)
    simp [react, onLinkRemoteOpen_of_foreign earlier, Event.confirmsSession, Event.confirmsLink,
      foreign]
  | _ => cases confirms

/-- Confirmations can be put off to the end, where each kind counts once. -/
theorem handleAll_eq_confirm {attempt : Attempt} (anchored : attempt.Anchored)
    (undecided : attempt.controller.verdict = none) (around : Surroundings) (events : List Event) :
    let final := (attempt.handleAll around events).controller
    attempt.handleAll around events =
      (attempt.handleAll around (events.filter (!·.isConfirmation final))).confirm
        (events.any (·.confirmsSession final)) (events.any (·.confirmsLink final)) := by
  intro final
  have reaches : final = (attempt.handleAll around events).controller := rfl
  -- What counts as a confirmation is told by the end of the run, which the induction keeps fixed.
  clear_value final
  induction events generalizing attempt with
  | nil => exact (confirm_none attempt).symm
  | cons event rest ih =>
    have goesOn : attempt.controller.Extends final := by
      rw [reaches]
      exact (extends_handleAll anchored around (event :: rest)).2
    have anchoredNext : (attempt.handle around event).Anchored :=
      (extends_handleAll anchored around [event]).1
    have next := ih anchoredNext (undecided_handleAll undecided around [event]) reaches
    rw [handleAll_cons, next]
    cases confirms : event.isConfirmation final with
    | true =>
      rw [handle_undecided undecided, react_of_isConfirmation around goesOn confirms,
        handleAll_confirm, confirm_confirm]
      simp [confirms]
    | false =>
      obtain ⟨noSession, noLink⟩ := Bool.or_eq_false_iff.mp confirms
      simp [confirms, noSession, noLink, handleAll_cons]

/-- Where and how often confirmations to the application come makes no difference: two courses that
agree on all other events, and on whether a session and a link are confirmed, end alike, with the
same calls made and the same verdict to come. -/
theorem confirmations_commute (begun : Attempt.start config containerId = .ok attempt)
    (around : Surroundings) {first second : List Event} :
    let one := attempt.handleAll around first
    let other := attempt.handleAll around second
    first.filter (!·.isConfirmation one.controller) =
        second.filter (!·.isConfirmation other.controller) →
      first.any (·.confirmsSession one.controller) =
        second.any (·.confirmsSession other.controller) →
      first.any (·.confirmsLink one.controller) = second.any (·.confirmsLink other.controller) →
      one = other := by
  intro one other same sessions links
  obtain ⟨_, rfl⟩ := start_eq_ok_iff.mp begun
  have anchored := anchored_fresh config containerId
  calc one
    _ = (Attempt.handleAll around _ (first.filter (!·.isConfirmation one.controller))).confirm
          (first.any (·.confirmsSession one.controller))
          (first.any (·.confirmsLink one.controller)) :=
      handleAll_eq_confirm anchored rfl around first
    _ = (Attempt.handleAll around _ (second.filter (!·.isConfirmation other.controller))).confirm
          (second.any (·.confirmsSession other.controller))
          (second.any (·.confirmsLink other.controller)) := by
      rw [same, sessions, links]
    _ = other := (handleAll_eq_confirm anchored rfl around second).symm

/-- A session is confirmed before the reactor starts and again at the end, and a link at the end; or
each of them once, while the exchange goes on. The session of the exchange confirms nothing. -/
theorem confirmations_commute_anywhere :
    let opening := [.reactorInit, .connectionBound, .connectionInit, .connectionRemoteOpen,
      .sessionRemoteOpen ⟨1⟩, .linkRemoteOpen ⟨2⟩]
    let answering := [.linkRemoteOpen ⟨3⟩, .cbsResponse ⟨3⟩ 200 none]
    let first := [.sessionRemoteOpen ⟨4⟩] ++ opening ++ answering ++
      [.linkRemoteOpen ⟨5⟩, .sessionRemoteOpen ⟨4⟩]
    let second := opening ++ [.linkRemoteOpen ⟨5⟩, .sessionRemoteOpen ⟨9⟩] ++ answering
    let one := Sample.start.handleAll Sample.around first
    let other := Sample.start.handleAll Sample.around second
    first.filter (!·.isConfirmation one.controller) =
        second.filter (!·.isConfirmation other.controller) ∧
      first.any (·.confirmsSession one.controller) =
        second.any (·.confirmsSession other.controller) ∧
      first.any (·.confirmsLink one.controller) = second.any (·.confirmsLink other.controller) ∧
      one.controller.authenticated = true ∧ one = other :=
  ⟨by decide, by decide, by decide, by decide,
    confirmations_commute Sample.begun Sample.around (by decide) (by decide) (by decide)⟩

end Attempt

end AmqpHandshake
