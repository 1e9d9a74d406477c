import AmqpHandshake.Proofs.Course
import AmqpHandshake.Proofs.Reaction

/-! All calls that reach an attempt from outside, in any order, each with surroundings of its own.
A handler that is called directly reacts even after a verdict; what an attempt has recorded still
stays as it is. -/
namespace AmqpHandshake

/-- A call to an attempt from outside. -/
inductive PublicCall
  | handle (event : Event)
  /-- The handler of an event is called directly, whether or not there is a verdict. -/
  | direct (event : Event)
  | authenticationSucceeded
  | authenticationFailed (error : AuthError)
  /-- The verdict is asked for. -/
  | verify
deriving DecidableEq, Repr

namespace CbsSession

/-- An exchange is an earlier one that has gone on: on the same terms, with nothing taken back. -/
structure GoesOn (earlier later : CbsSession) : Prop where
  terms : later.terms = earlier.terms
  senderOpen : earlier.senderOpen = true → later.senderOpen = true
  receiverOpen : earlier.receiverOpen = true → later.receiverOpen = true
  waiting : later.phase = .openingLinks → earlier.phase = .openingLinks
  ended : earlier.phase = .done → later.phase = .done
  settled : earlier.isSettled = true → later.isSettled = true

theorem GoesOn.refl (cbs : CbsSession) : GoesOn cbs cbs := ⟨rfl, id, id, id, id, id⟩

theorem GoesOn.trans {first second third : CbsSession} (next : first.GoesOn second)
    (last : second.GoesOn third) : first.GoesOn third where
  terms := last.terms.trans next.terms
  senderOpen := last.senderOpen ∘ next.senderOpen
  receiverOpen := last.receiverOpen ∘ next.receiverOpen
  waiting := next.waiting ∘ last.waiting
  ended := last.ended ∘ next.ended
  settled := last.settled ∘ next.settled

theorem goesOn_markOpen (cbs : CbsSession) (link : LinkId) : cbs.GoesOn (cbs.markOpen link) := by
  rw [markOpen_eq]
  constructor
  · rfl
  · intro opened
    simp [opened]
  · intro opened
    simp [opened]
  · exact id
  · exact id
  · exact id

theorem goesOn_settle (cbs : CbsSession) : cbs.GoesOn cbs.settle :=
  ⟨rfl, id, id, nofun, fun _ => rfl, fun _ => rfl⟩

end CbsSession

/-- A turn takes an exchange on. -/
theorem Exchange.Turn.goesOn {exchange : Exchange}
    (turn : exchange.Turn around notice told next) : exchange.cbs.GoesOn next.cbs := by
  cases turn with
  | mark => exact CbsSession.goesOn_markOpen ..
  | withhold | bounce =>
    exact (CbsSession.goesOn_markOpen ..).trans (CbsSession.goesOn_settle _)
  | send completes =>
    have marked := CbsSession.goesOn_markOpen exchange.cbs ‹LinkId›
    -- The claim is presented in the first phase, so the next one is no step back.
    have before := completes.waits
    refine ⟨marked.terms, marked.senderOpen, marked.receiverOpen, fun _ => before, ?_,
      marked.settled⟩
    intro ended
    cases before.symm.trans ended
  | disregard | stay => exact .refl _
  | answer | close => exact CbsSession.goesOn_settle _

/-- What a controller holds later agrees with what it held before: a flag that is set stays set, and
what is recorded stays as it is. -/
structure Controller.Extends (earlier later : Controller) : Prop where
  connectionOpened : earlier.state.connectionOpened = true → later.state.connectionOpened = true
  sessionOpened : earlier.state.sessionOpened = true → later.state.sessionOpened = true
  linkOpened : earlier.state.linkOpened = true → later.state.linkOpened = true
  authenticated : earlier.authenticated = true → later.authenticated = true
  savedFailure : ∀ cause, earlier.state.savedFailure = some cause →
    later.state.savedFailure = some cause
  protocolError : ∀ condition, earlier.protocolError = some condition →
    later.protocolError = some condition
  endpoint : ∀ endpoint, earlier.endpoint = some endpoint → later.endpoint = some endpoint
  cbs : ∀ cbs, earlier.cbs = some cbs → ∃ next, later.cbs = some next ∧ cbs.GoesOn next
  verdict : ∀ verdict, earlier.verdict = some verdict → later.verdict = some verdict

namespace Controller.Extends

theorem refl (controller : Controller) : Extends controller controller :=
  ⟨id, id, id, id, fun _ => id, fun _ => id, fun _ => id, fun cbs found => ⟨cbs, found, .refl cbs⟩,
    fun _ => id⟩

theorem trans {first second third : Controller} (next : first.Extends second)
    (last : second.Extends third) : first.Extends third where
  connectionOpened := last.connectionOpened ∘ next.connectionOpened
  sessionOpened := last.sessionOpened ∘ next.sessionOpened
  linkOpened := last.linkOpened ∘ next.linkOpened
  authenticated := last.authenticated ∘ next.authenticated
  savedFailure cause found := last.savedFailure cause (next.savedFailure cause found)
  protocolError condition found := last.protocolError condition (next.protocolError condition found)
  endpoint endpoint found := last.endpoint endpoint (next.endpoint endpoint found)
  cbs cbs found := by
    obtain ⟨middle, between, goesOn⟩ := next.cbs cbs found
    obtain ⟨final, held, goesOnMore⟩ := last.cbs middle between
    exact ⟨final, held, goesOn.trans goesOnMore⟩
  verdict verdict found := last.verdict verdict (next.verdict verdict found)

/-- Findings that are added to contradict nothing; what they do not hold is said apart. -/
theorem of_findings {earlier later : Controller} {more : Findings}
    (added : later.findings = earlier.findings.add more)
    (endpoint : ∀ endpoint, earlier.endpoint = some endpoint → later.endpoint = some endpoint)
    (cbs : ∀ cbs, earlier.cbs = some cbs → ∃ next, later.cbs = some next ∧ cbs.GoesOn next)
    (verdict : ∀ verdict, earlier.verdict = some verdict → later.verdict = some verdict) :
    earlier.Extends later := by
  simp only [findings, Findings.add, Findings.mk.injEq] at added
  obtain ⟨protocolError, savedFailure, connection, session, link, authenticated⟩ := added
  constructor
  case endpoint => exact endpoint
  case cbs => exact cbs
  case verdict => exact verdict
  all_goals intros; simp_all

end Controller.Extends

namespace Attempt

/-- There is no exchange before the connection is open, and one that is over has told its outcome. -/
structure Anchored (attempt : Attempt) : Prop where
  unopened : attempt.controller.state.connectionOpened = false → attempt.controller.cbs = none
  agrees : ∀ cbs, attempt.controller.cbs = some cbs → cbs.Agrees

/-- An attempt has replaced neither its endpoint nor its exchange. -/
structure Keeps (earlier later : Attempt) : Prop where
  anchored : later.Anchored
  endpoint : ∀ endpoint, earlier.controller.endpoint = some endpoint →
    later.controller.endpoint = some endpoint
  cbs : ∀ cbs, earlier.controller.cbs = some cbs →
    ∃ next, later.controller.cbs = some next ∧ cbs.GoesOn next

theorem anchored_fresh (config : ConnectionConfig) (containerId : Uuid) :
    (fresh config containerId).Anchored := ⟨fun _ => rfl, nofun⟩

theorem keeps_of_channel {attempt next : Attempt} (anchored : attempt.Anchored)
    (same : next.channel = attempt.channel) : attempt.Keeps next := by
  have endpoint := congrArg Channel.endpoint same
  have cbs := congrArg Channel.cbs same
  have opened := congrArg Channel.connectionOpened same
  refine ⟨⟨fun closed => ?_, fun held found => ?_⟩, fun target found => ?_, fun held found => ?_⟩
  · exact cbs.trans (anchored.unopened (opened.symm.trans closed))
  · exact anchored.agrees held (cbs.symm.trans found)
  · exact endpoint.trans found
  · exact ⟨held, cbs.trans found, .refl held⟩

theorem keeps_onReactorInit {attempt : Attempt} (anchored : attempt.Anchored)
    (nowhere : attempt.controller.endpoint = none) : attempt.Keeps attempt.onReactorInit := by
  have channel := channel_onReactorInit nowhere
  have cbs := congrArg Channel.cbs channel
  have opened := congrArg Channel.connectionOpened channel
  refine ⟨⟨fun closed => ?_, fun held found => ?_⟩, fun target found => ?_, fun held found => ?_⟩
  · exact cbs.trans (anchored.unopened (opened.symm.trans closed))
  · exact anchored.agrees held (cbs.symm.trans found)
  · cases nowhere.symm.trans found
  · exact ⟨held, cbs.trans found, .refl held⟩

/-- The connection opens for the first time, so there is no exchange that a new one replaces. -/
theorem keeps_onConnectionRemoteOpen {attempt : Attempt} (anchored : attempt.Anchored)
    (closed : attempt.controller.state.connectionOpened = false) (around : Surroundings) :
    attempt.Keeps (attempt.onConnectionRemoteOpen around) := by
  have channel := channel_onConnectionRemoteOpen closed around
  have cbs := congrArg Channel.cbs channel
  have opened := congrArg Channel.connectionOpened channel
  have absent := anchored.unopened closed
  refine ⟨⟨fun still => ?_, fun held found => ?_⟩, fun target found => ?_, fun held found => ?_⟩
  · cases opened.symm.trans still
  · obtain rfl := Option.some.inj (cbs.symm.trans found)
    simp [CbsSession.Agrees, newExchange, CbsSession.start]
  · exact (congrArg Channel.endpoint channel).trans found
  · cases absent.symm.trans found

theorem keeps_hear {attempt : Attempt} (anchored : attempt.Anchored)
    (found : attempt.controller.cbs = some cbs) (around : Surroundings) (notice : CbsNotice) :
    attempt.Keeps (attempt.hear around cbs notice) := by
  have agrees : (Exchange.mk cbs attempt.trace).cbs.Agrees := anchored.agrees cbs found
  have heard := cbs_hear around cbs notice attempt
  obtain ⟨_, _, _, _, channel⟩ :=
    channel_accept_eq around (Exchange.hear around ⟨cbs, attempt.trace⟩ notice).1
      (attempt.heard (Exchange.hear around ⟨cbs, attempt.trace⟩ notice).2)
  have opened : (attempt.hear around cbs notice).controller.state.connectionOpened =
      attempt.controller.state.connectionOpened := congrArg Channel.connectionOpened channel
  refine ⟨⟨fun closed => ?_, fun held here => ?_⟩, fun target here => ?_, fun held here => ?_⟩
  · have absent := anchored.unopened (opened.symm.trans closed)
    cases absent.symm.trans found
  · obtain rfl := Option.some.inj (heard.symm.trans here)
    exact Exchange.agrees_hear agrees around notice
  · exact (congrArg Channel.endpoint channel).trans here
  · obtain rfl := Option.some.inj (found.symm.trans here)
    exact ⟨_, heard, (Exchange.turn_hear agrees around notice).goesOn⟩

/-- The handler of an event replaces nothing, with a verdict or without. -/
theorem keeps_react {attempt : Attempt} (anchored : attempt.Anchored) (around : Surroundings)
    (event : Event) : attempt.Keeps (attempt.react around event) := by
  have reaction := reaction_react around attempt event
  generalize attempt.react around event = next at reaction
  cases reaction with
  | connect starts nowhere => exact keeps_onReactorInit anchored nowhere
  | begin opens closed => exact keeps_onConnectionRemoteOpen anchored closed around
  | hear found told => exact keeps_hear anchored found around _
  | apart unheard same => exact keeps_of_channel anchored same

theorem extends_react {attempt : Attempt} (anchored : attempt.Anchored) (around : Surroundings)
    (event : Event) : attempt.controller.Extends (attempt.react around event).controller := by
  have keeps := keeps_react anchored around event
  have verdict := congrArg (·.2.2) (terms_react around attempt event)
  apply Controller.Extends.of_findings (findings_react around attempt event) keeps.endpoint keeps.cbs
  intro given found
  exact verdict.trans found

/-- An outcome that is told directly adds to the findings alone. -/
theorem extends_deliver (controller : Controller) (outcome : AuthOutcome) :
    controller.Extends (outcome.deliver Controller.listener controller) := by
  apply Controller.Extends.of_findings (Controller.findings_deliver controller outcome)
  · intro endpoint found
    cases outcome <;> exact found
  · intro cbs found
    cases outcome <;> exact ⟨cbs, found, .refl cbs⟩
  · intro verdict found
    cases outcome <;> exact found

theorem anchored_verify {attempt : Attempt} (anchored : attempt.Anchored) :
    attempt.verify.2.Anchored := by
  simp only [verify, Controller.verify]
  split <;> exact ⟨anchored.unopened, anchored.agrees⟩

theorem extends_verify (attempt : Attempt) :
    attempt.controller.Extends attempt.verify.2.controller := by
  simp only [verify, Controller.verify]
  split
  · exact .refl _
  · rename_i undecided
    refine { Controller.Extends.refl attempt.controller with verdict := ?_ }
    intro verdict found
    cases undecided.symm.trans found

/-- What a call from outside does. -/
def serve (around : Surroundings) (attempt : Attempt) : PublicCall → Attempt
  | .handle event => attempt.handle around event
  | .direct event => attempt.react around event
  | .authenticationSucceeded => attempt.update Controller.onAuthenticationSucceeded
  | .authenticationFailed error => attempt.update (·.onAuthenticationFailed error)
  | .verify => attempt.verify.2

/-- What calls do in order, each with its own surroundings. -/
def serveAll (attempt : Attempt) (calls : List (Surroundings × PublicCall)) : Attempt :=
  calls.foldl (fun attempt call => attempt.serve call.1 call.2) attempt

/-- One call takes nothing back, and leaves an attempt on which the next one takes nothing back. -/
theorem extends_serve {attempt : Attempt} (anchored : attempt.Anchored) (around : Surroundings)
    (call : PublicCall) : (attempt.serve around call).Anchored ∧
      attempt.controller.Extends (attempt.serve around call).controller := by
  cases call with
  | handle event =>
    simp only [serve, handle]
    split
    · exact ⟨anchored, .refl _⟩
    · exact ⟨(keeps_react anchored around event).anchored, extends_react anchored around event⟩
  | direct event =>
    exact ⟨(keeps_react anchored around event).anchored, extends_react anchored around event⟩
  | authenticationSucceeded =>
    exact ⟨⟨anchored.unopened, anchored.agrees⟩, extends_deliver attempt.controller .succeeded⟩
  | authenticationFailed error =>
    exact ⟨⟨anchored.unopened, anchored.agrees⟩, extends_deliver attempt.controller (.failed error)⟩
  | verify => exact ⟨anchored_verify anchored, extends_verify attempt⟩

theorem extends_serveAll {attempt : Attempt} (anchored : attempt.Anchored)
    (calls : List (Surroundings × PublicCall)) : (attempt.serveAll calls).Anchored ∧
      attempt.controller.Extends (attempt.serveAll calls).controller := by
  induction calls generalizing attempt with
  | nil => exact ⟨anchored, .refl _⟩
  | cons call rest ih =>
    obtain ⟨anchoredNext, next⟩ := extends_serve anchored call.1 call.2
    obtain ⟨anchoredLast, last⟩ := ih anchoredNext
    exact ⟨anchoredLast, next.trans last⟩

/-- Events alone are calls of one kind. -/
theorem extends_handleAll {attempt : Attempt} (anchored : attempt.Anchored) (around : Surroundings)
    (events : List Event) : (attempt.handleAll around events).Anchored ∧
      attempt.controller.Extends (attempt.handleAll around events).controller := by
  have same : attempt.serveAll (events.map fun event => (around, .handle event)) =
      attempt.handleAll around events := List.foldl_map
  rw [← same]
  exact extends_serveAll anchored _

theorem verdict_verify (attempt : Attempt) :
    attempt.verify.2.controller.verdict = some attempt.verify.1 := by
  simp only [verify, Controller.verify]
  split
  · assumption
  · rfl

theorem verify_of_verdict {attempt : Attempt} (found : attempt.controller.verdict = some verdict) :
    attempt.verify.1 = verdict := by
  simp [verify, Controller.verify, found]

/-- Whatever is called in whatever order, nothing that an attempt has recorded is taken back or
replaced, every verdict that is asked for later is the one given first, and once there is a verdict
no event that is handled asks the engine for anything or changes anything. -/
theorem recorded_once (begun : Attempt.start config containerId = .ok attempt)
    (before after : List (Surroundings × PublicCall)) :
    let earlier := attempt.serveAll before
    let decided := earlier.verify.2.serveAll after
    earlier.controller.Extends (earlier.serveAll after).controller ∧
      decided.verify.1 = earlier.verify.1 ∧
      ∀ around event, decided.handle around event = decided := by
  intro earlier decided
  obtain ⟨_, rfl⟩ := start_eq_ok_iff.mp begun
  have anchored : earlier.Anchored := (extends_serveAll (anchored_fresh config containerId) before).1
  have later := (extends_serveAll (anchored_verify anchored) after).2
  have stays := later.verdict _ (verdict_verify earlier)
  refine ⟨(extends_serveAll anchored after).2, verify_of_verdict stays, fun around event => ?_⟩
  exact handle_decided (Option.isSome_of_eq_some stays) around event

/-- A verdict is asked for before the peer has answered. Handlers that are called directly behind it
still record a protocol error and begin an exchange; the phase changes, and the verdict stays. -/
theorem recorded_once_after_timeout :
    let before := [(Sample.around, .handle .reactorInit),
      (Sample.around, .direct (.sessionRemoteOpen ⟨9⟩))]
    let after := [(Sample.around, .direct (.transportError ⟨"amqp:internal-error", none⟩)),
      (Sample.around, .direct .connectionRemoteOpen), (Sample.around, .authenticationSucceeded),
      (Sample.around, .verify)]
    let earlier := Sample.start.serveAll before
    let decided := earlier.verify.2.serveAll after
    decided.controller.protocolError.isSome = true ∧ decided.controller.phase = .failed ∧
      earlier.controller.Extends (earlier.serveAll after).controller ∧
      decided.verify.1 = earlier.verify.1 ∧
      ∀ around event, decided.handle around event = decided :=
  ⟨rfl, rfl, recorded_once Sample.begun _ _⟩

end Attempt

end AmqpHandshake
