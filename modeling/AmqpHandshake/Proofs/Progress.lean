import AmqpHandshake.Proofs.Findings

/-! How far an attempt has come. As long as there is no verdict, the phase says nothing that the
findings do not say, but for the binding of the transport. -/
namespace AmqpHandshake

namespace Phase

/-- How far a phase is from the start. All terminal phases are equally far. -/
def rank : Phase → Nat
  | .initial => 0
  | .transportBound => 1
  | .connectionOpen => 2
  | .authenticating => 3
  | .succeeded | .failed | .timedOut => 4

/-- A phase may follow on another one: it is no less far, and none follows on a terminal one. -/
structure Forward (earlier later : Phase) : Prop where
  rank : earlier.rank ≤ later.rank
  final : earlier = .succeeded ∨ earlier = .failed ∨ earlier = .timedOut → later = earlier

theorem Forward.refl (phase : Phase) : Forward phase phase := ⟨Nat.le_refl _, fun _ => rfl⟩

theorem Forward.trans {first second third : Phase} (next : Forward first second)
    (last : Forward second third) : Forward first third where
  rank := Nat.le_trans next.rank last.rank
  final terminal := by
    have same := next.final terminal
    subst same
    exact last.final terminal

/-- The phase without a verdict: whether there is a failure, whether the peer has opened the
connection, and whether the transport has been bound. -/
def undecided (failed opened bound : Bool) : Phase :=
  if failed then .failed
  else if opened then .authenticating
  else if bound then .transportBound
  else .initial

theorem undecided_failed (opened bound : Bool) : undecided true opened bound = .failed := rfl

theorem undecided_ne_connectionOpen :
    ∀ failed opened bound, undecided failed opened bound ≠ .connectionOpen := by decide

theorem undecided_ne_succeeded :
    ∀ failed opened bound, undecided failed opened bound ≠ .succeeded := by decide

theorem undecided_ne_timedOut :
    ∀ failed opened bound, undecided failed opened bound ≠ .timedOut := by decide

theorem failed_of_final : ∀ failed opened bound,
    undecided failed opened bound = .succeeded ∨ undecided failed opened bound = .failed ∨
      undecided failed opened bound = .timedOut → failed = true := by decide

theorem undecided_eq_failed_iff :
    ∀ failed opened bound, undecided failed opened bound = .failed ↔ failed = true := by decide

theorem undecided_bound_of_initial : ∀ failed opened bound,
    undecided failed opened bound = .initial →
      undecided failed opened true = .transportBound := by decide

theorem undecided_bound_of_later : ∀ failed opened bound,
    undecided failed opened bound ≠ .initial →
      undecided failed opened bound = undecided failed opened true := by decide

theorem rank_le_terminal : ∀ phase : Phase, phase.rank ≤ 4 := by
  intro phase
  cases phase <;> decide

theorem rank_undecided_le (failed opened bound moreFailed moreOpened moreBound : Bool) :
    (undecided failed opened bound).rank ≤
      (undecided (failed || moreFailed) (opened || moreOpened) (bound || moreBound)).rank := by
  revert failed opened bound moreFailed moreOpened moreBound
  decide

theorem forward_undecided (failed opened bound moreFailed moreOpened moreBound : Bool) :
    (undecided failed opened bound).Forward
      (undecided (failed || moreFailed) (opened || moreOpened) (bound || moreBound)) where
  rank := rank_undecided_le ..
  final terminal := by
    rw [failed_of_final _ _ _ terminal, Bool.true_or, undecided_failed, undecided_failed]

end Phase

namespace Findings

/-- Whether a failure has been found. -/
def failed (findings : Findings) : Bool :=
  findings.protocolError.isSome || findings.savedFailure.isSome

/-- The phase that findings come to, if it is known whether the transport has been bound. -/
def phase (findings : Findings) (bound : Bool) : Phase :=
  .undecided findings.failed findings.connectionOpened bound

theorem failed_add (earlier later : Findings) :
    (earlier.add later).failed = (earlier.failed || later.failed) := by
  simp only [failed, add, Option.isSome_or]
  ac_rfl

/-- Later findings take the phase forward. -/
theorem forward_add (earlier later : Findings) (bound more : Bool) :
    (earlier.phase bound).Forward ((earlier.add later).phase (bound || more)) := by
  rw [phase, phase, failed_add]
  exact Phase.forward_undecided ..

/-- So does the verdict on findings. -/
theorem forward_verdict (findings : Findings) (bound : Bool) :
    (findings.phase bound).Forward (Controller.phaseOf findings.verdict) where
  rank := by
    have decided (verdict : Verdict) : (Controller.phaseOf verdict).rank = 4 := by
      unfold Controller.phaseOf
      split <;> rfl
    rw [decided]
    exact Phase.rank_le_terminal _
  final terminal := by
    have failure : findings.failed = true := Phase.failed_of_final _ _ _ terminal
    rw [phase, failure, Phase.undecided_failed]
    cases quiet : findings.protocolError with
    | some condition => rw [verdict_of_protocolError quiet]; rfl
    | none =>
      have saved : findings.savedFailure.isSome = true := by simpa [failed, quiet] using failure
      obtain ⟨cause, found⟩ := Option.isSome_iff_exists.mp saved
      rw [verdict_of_savedFailure quiet found]
      rfl

end Findings

namespace Controller

/-- The phase is the one that the findings come to. -/
def OnCourse (bound : Bool) (controller : Controller) : Prop :=
  controller.phase = controller.findings.phase bound

theorem onCourse_fail (bound : Bool) (controller : Controller) (cause : FailureCause) :
    (controller.fail cause).OnCourse bound := by
  simp [OnCourse, fail, Findings.phase, Findings.failed, findings, HandshakeState.saveFailure,
    Phase.undecided]

theorem onCourse_onTransportError {controller : Controller} (onCourse : controller.OnCourse bound)
    (condition : ErrorCondition) : (controller.onTransportError condition).OnCourse bound := by
  unfold onTransportError
  split
  · exact onCourse
  · simp [OnCourse, Findings.phase, Findings.failed, findings, Phase.undecided]

theorem onCourse_deliver {controller : Controller} (onCourse : controller.OnCourse bound)
    (outcome : AuthOutcome) : (outcome.deliver listener controller).OnCourse bound := by
  cases outcome with
  | succeeded => exact onCourse
  | failed error => exact onCourse_fail bound controller (.authentication error)

theorem failed_iff {controller : Controller} (onCourse : controller.OnCourse bound) :
    controller.phase = .failed ↔ controller.findings.failed = true := by
  rw [onCourse, Findings.phase, Phase.undecided_eq_failed_iff]

/-- Binding the transport is a step from the first phase alone. -/
theorem onCourse_bind {controller : Controller} (onCourse : controller.OnCourse bound) :
    (if controller.phase = .initial then { controller with phase := .transportBound }
      else controller).OnCourse true := by
  split
  · rename_i initial
    rw [onCourse] at initial
    exact (Phase.undecided_bound_of_initial _ _ _ initial).symm
  · rename_i later
    rw [onCourse] at later
    exact onCourse.trans (Phase.undecided_bound_of_later _ _ _ later)

/-- Opening the connection goes on to authentication, unless the attempt has failed. -/
theorem onCourse_open {controller : Controller} (onCourse : controller.OnCourse bound)
    (cbs : CbsSession) :
    ({ ({ controller with
          state := { controller.state with connectionOpened := true } } : Controller).advance
        .connectionOpen with cbs := some cbs }.advance .authenticating).OnCourse bound := by
  have failed := failed_iff onCourse
  unfold OnCourse Findings.phase
  cases found : controller.findings.failed with
  | true =>
    have phase := failed.mpr found
    simp only [advance, phase, if_true]
    show Phase.failed = .undecided controller.findings.failed true bound
    rw [found, Phase.undecided_failed]
  | false =>
    have phase : controller.phase ≠ .failed := by simp [failed, found]
    simp only [advance, phase, if_false, reduceCtorEq]
    show Phase.authenticating = .undecided controller.findings.failed true bound
    rw [found]
    rfl

end Controller

namespace Attempt

theorem onCourse_openServiceLink {attempt : Attempt} (onCourse : attempt.controller.OnCourse bound)
    (around : Surroundings) : (attempt.openServiceLink around).controller.OnCourse bound := by
  unfold openServiceLink
  split <;> exact onCourse

theorem onCourse_accept {attempt : Attempt} (onCourse : attempt.controller.OnCourse bound)
    (around : Surroundings) (told : Option AuthOutcome) :
    (attempt.accept around told).controller.OnCourse bound := by
  cases told with
  | none => exact onCourse
  | some outcome =>
    have delivered := Controller.onCourse_deliver onCourse outcome
    simp only [accept]
    split
    · exact onCourse_openServiceLink delivered around
    · exact delivered

/-- The exchange has gone on, and the attempt takes what it tells. -/
theorem onCourse_heard {attempt : Attempt} (onCourse : attempt.controller.OnCourse bound)
    (around : Surroundings) (trace : Trace) (cbs : CbsSession) (told : Option AuthOutcome) :
    ((({ attempt with trace } : Attempt).withCbs cbs).accept around told).controller.OnCourse
      bound :=
  onCourse_accept (show (({ attempt with trace } : Attempt).withCbs cbs).controller.OnCourse bound
    from onCourse) around told

theorem onCourse_onClose {attempt : Attempt} (onCourse : attempt.controller.OnCourse bound)
    (condition : Option ErrorCondition) :
    (attempt.onClose condition).controller.OnCourse bound := by
  cases condition with
  | none => exact onCourse
  | some condition => exact Controller.onCourse_onTransportError onCourse condition

theorem onCourse_closed {attempt : Attempt} (onCourse : attempt.controller.OnCourse bound)
    (around : Surroundings) (owner : Option CbsSession) (condition : Option ErrorCondition) :
    (match owner with
      | some cbs => attempt.onCbsClose around cbs condition
      | none => attempt.onClose condition).controller.OnCourse bound := by
  cases owner with
  | none => exact onCourse_onClose onCourse condition
  | some cbs => exact onCourse_heard onCourse around attempt.trace _ _

theorem onCourse_putOnTls {attempt : Attempt} (onCourse : attempt.controller.OnCourse bound)
    (around : Surroundings) : (attempt.putOnTls around).controller.OnCourse bound := by
  unfold putOnTls
  split
  · exact onCourse
  · exact Controller.onCourse_fail bound attempt.controller _

theorem onCourse_onConnectionBound {attempt : Attempt}
    (onCourse : attempt.controller.OnCourse bound) (around : Surroundings) :
    (attempt.onConnectionBound around).controller.OnCourse true := by
  unfold onConnectionBound
  split
  · exact Controller.onCourse_fail true attempt.controller _
  · rename_i plan planned
    have dressed : ((attempt.putOnLayer (plan.webSocket.map .webSocket)).call
        (.setSaslMechanisms [plan.saslMechanism])).controller.OnCourse bound := by
      simpa using onCourse
    have worn := onCourse_putOnTls dressed around
    simp only [update_controller, putOnLayer_controller]
    exact Controller.onCourse_bind worn

theorem onCourse_onConnectionRemoteOpen {attempt : Attempt}
    (onCourse : attempt.controller.OnCourse bound) (around : Surroundings) :
    (attempt.onConnectionRemoteOpen around).controller.OnCourse bound := by
  unfold onConnectionRemoteOpen
  split
  · exact onCourse
  · exact Controller.onCourse_open onCourse _

theorem onCourse_onReactorInit {attempt : Attempt}
    (onCourse : attempt.controller.OnCourse bound) :
    attempt.onReactorInit.controller.OnCourse bound := by
  unfold onReactorInit
  split <;> exact onCourse

theorem onCourse_onSessionRemoteOpen {attempt : Attempt}
    (onCourse : attempt.controller.OnCourse bound) (session : SessionId) :
    (attempt.onSessionRemoteOpen session).controller.OnCourse bound := by
  simp only [onSessionRemoteOpen, update_controller]
  split <;> exact onCourse

/-- Every event keeps the phase that the findings come to, with the transport bound or not. -/
theorem onCourse_react {attempt : Attempt} (onCourse : attempt.controller.OnCourse bound)
    (around : Surroundings) (event : Event) :
    (attempt.react around event).controller.OnCourse (bound || event = .connectionBound) := by
  by_cases binds : event = .connectionBound
  · subst binds
    rw [decide_eq_true rfl, Bool.or_true]
    exact onCourse_onConnectionBound onCourse around
  · rw [decide_eq_false binds, Bool.or_false]
    cases event with
    | reactorInit => exact onCourse_onReactorInit onCourse
    | connectionBound => exact absurd rfl binds
    | connectionInit => exact onCourse
    | connectionRemoteOpen => exact onCourse_onConnectionRemoteOpen onCourse around
    | sessionRemoteOpen session => exact onCourse_onSessionRemoteOpen onCourse session
    | linkRemoteOpen link =>
      simp only [react, onLinkRemoteOpen]
      split
      · exact onCourse_heard onCourse around _ _ _
      · exact onCourse
    | cbsResponse link status description =>
      simp only [react, onCbsResponse]
      split
      · exact onCourse_heard onCourse around attempt.trace _ _
      · exact onCourse
    | transportError condition => exact Controller.onCourse_onTransportError onCourse condition
    | connectionRemoteClose condition => exact onCourse_onClose onCourse condition
    | sessionRemoteClose session condition => exact onCourse_closed onCourse around _ condition
    | linkRemoteClose link condition => exact onCourse_closed onCourse around _ condition

end Attempt

end AmqpHandshake
