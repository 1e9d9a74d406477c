import AmqpHandshake.Proofs.Dialogue
import AmqpHandshake.Proofs.Progress
import AmqpHandshake.Proofs.Verdict

/-! What the fields of a controller have to do with each other, and with what has happened, after
every course of events and verdicts. -/
namespace AmqpHandshake

namespace Channel.Stage

variable {channel : Channel} {service : Option ServiceLink} {log : List Moment}

theorem agrees {cbs : CbsSession} (stage : channel.Stage service log)
    (found : channel.cbs = some cbs) : cbs.Agrees := by
  cases stage with
  | closed silent => cases silent.symm.trans found
  | exchanging exchanging =>
    obtain rfl := Option.some.inj (exchanging.found.symm.trans found)
    exact exchanging.standing.agrees
  | granted granted =>
    obtain rfl := Option.some.inj (granted.found.symm.trans found)
    exact granted.standing.agrees

/-- There is an exchange exactly on an open connection. -/
theorem isSome_cbs (stage : channel.Stage service log) :
    channel.cbs.isSome = channel.connectionOpened := by
  cases stage with
  | closed silent unopened => rw [silent, unopened, Option.isSome_none]
  | exchanging exchanging => rw [exchanging.found, exchanging.opened, Option.isSome_some]
  | granted granted => rw [granted.found, granted.opened, Option.isSome_some]

/-- What authenticates is an exchange that is over. -/
theorem settled_of_granted (stage : channel.Stage service log)
    (granted : channel.authenticated = true) :
    ∃ cbs, channel.cbs = some cbs ∧ cbs.isSettled = true := by
  cases stage with
  | closed _ _ ungranted => cases ungranted.symm.trans granted
  | exchanging exchanging => cases exchanging.ungranted.symm.trans granted
  | granted success =>
    exact ⟨_, success.found, success.standing.agrees.mpr success.standing.ended⟩

/-- The application has a session and a link once it is authenticated, if it is to have any. -/
theorem isSome_service (stage : channel.Stage service log) :
    channel.serviceSession.isSome = (channel.authenticated && service.isSome) ∧
      channel.serviceLink.isSome = (channel.authenticated && service.isSome) := by
  cases stage with
  | closed _ _ ungranted noSession noLink => simp [ungranted, noSession, noLink]
  | exchanging exchanging =>
    simp [exchanging.ungranted, exchanging.noSession, exchanging.noLink]
  | granted granted =>
    have serves := granted.serves
    generalize channel.serviceSession = session, channel.serviceLink = link at serves
    rw [granted.granted]
    cases serves <;> exact ⟨rfl, rfl⟩

end Channel.Stage

/-- An exchange that blames authentication has failed. -/
theorem Moment.outcome?_of_cause? {moment : Moment}
    (told : moment.cause? around = some (.authentication error)) :
    moment.outcome? around = some (.failed error) := by
  rcases Option.or_eq_some_iff.mp told with fault | ⟨-, failure⟩
  · have setup := setupFault?_stage fault
    cases setup
  · obtain ⟨outcome, reported, same⟩ := Option.bind_eq_some_iff.mp failure
    cases outcome with
    | succeeded => cases same
    | failed other =>
      cases same
      exact reported

namespace Attempt

/-- An exchange goes on with an event, and is settled by the outcome that the event tells. -/
theorem exists_cbs_react {attempt : Attempt} (stage : attempt.channel.Stage service log)
    (found : attempt.controller.cbs = some cbs) (around : Surroundings) (event : Event) :
    ∃ next, (attempt.react around event).controller.cbs = some next ∧
      next.isSettled =
        (cbs.isSettled || (Moment.outcome? around ⟨attempt, event⟩).isSome) := by
  have agrees := stage.agrees found
  rw [Moment.outcome?_eq found]
  have reaction := reaction_react around attempt event
  generalize attempt.react around event = next at reaction
  cases reaction with
  | connect starts nowhere =>
    subst starts
    exact ⟨cbs, (congrArg Channel.cbs (channel_onReactorInit nowhere)).trans found,
      (Bool.or_false _).symm⟩
  | begin opens closed =>
    have opened : attempt.channel.connectionOpened = true :=
      stage.isSome_cbs.symm.trans (Option.isSome_of_eq_some found)
    cases closed.symm.trans opened
  | hear here heard =>
    obtain rfl := Option.some.inj (found.symm.trans here)
    rw [heard]
    exact ⟨_, cbs_hear .., Exchange.isSettled_hear agrees around _⟩
  | apart unheard same =>
    rw [unheard cbs found]
    exact ⟨cbs, (congrArg Channel.cbs same).trans found, (Bool.or_false _).symm⟩

/-- Authentication is blamed for a failure only if it never succeeds. -/
def Blames (attempt : Attempt) : Prop :=
  ∀ error, attempt.controller.state.savedFailure = some (.authentication error) →
    attempt.controller.authenticated = false ∧
      ∃ cbs, attempt.controller.cbs = some cbs ∧ cbs.isSettled = true

theorem blames_react {attempt : Attempt} (stage : attempt.channel.Stage service log)
    (blames : attempt.Blames) (around : Surroundings) (event : Event) :
    (attempt.react around event).Blames := by
  intro error saved
  have findings := findings_react around attempt event
  have authenticated : (attempt.react around event).controller.authenticated =
      (attempt.controller.authenticated ||
        Moment.outcome? around ⟨attempt, event⟩ = some .succeeded) :=
    congrArg Findings.authenticated findings
  have cause : (attempt.react around event).controller.state.savedFailure =
      attempt.controller.state.savedFailure.or (Moment.cause? around ⟨attempt, event⟩) :=
    congrArg Findings.savedFailure findings
  rw [cause] at saved
  -- Success and failure both settle the exchange, and a settled one tells nothing more.
  have silent {cbs : CbsSession} (found : attempt.controller.cbs = some cbs)
      (settled : cbs.isSettled = true) : Moment.outcome? around ⟨attempt, event⟩ = none := by
    rw [Moment.outcome?_eq found]
    cases event.notice? cbs with
    | none => rfl
    | some notice =>
      have agrees : (Exchange.mk cbs attempt.trace).cbs.Agrees := stage.agrees found
      exact Exchange.report_of_settled agrees settled around notice
  rcases Option.or_eq_some_iff.mp saved with earlier | ⟨-, now⟩
  · obtain ⟨ungranted, cbs, found, settled⟩ := blames error earlier
    obtain ⟨next, foundNext, settledNext⟩ := exists_cbs_react stage found around event
    rw [authenticated, ungranted, silent found settled]
    rw [settled, Bool.true_or] at settledNext
    exact ⟨rfl, next, foundNext, settledNext⟩
  · have failed := Moment.outcome?_of_cause? now
    obtain ⟨cbs, found⟩ := Moment.exists_cbs_of_outcome? failed
    obtain ⟨next, foundNext, settledNext⟩ := exists_cbs_react stage found around event
    have ungranted : attempt.controller.authenticated = false := by
      refine Bool.eq_false_iff.mpr fun granted => ?_
      obtain ⟨held, here, settled⟩ := stage.settled_of_granted granted
      cases (silent here settled).symm.trans failed
    rw [authenticated, ungranted, failed]
    rw [failed, Option.isSome_some, Bool.or_true] at settledNext
    exact ⟨rfl, next, foundNext, settledNext⟩

theorem verify_of_decided {attempt : Attempt} (decided : attempt.controller.verdict.isSome) :
    attempt.verify.2 = attempt := by
  obtain ⟨verdict, found⟩ := Option.isSome_iff_exists.mp decided
  simp [verify, Controller.verify, found]

theorem verify_of_undecided {attempt : Attempt} (undecided : attempt.controller.verdict = none) :
    attempt.verify.2.controller =
      { attempt.controller with
        phase := Controller.phaseOf attempt.controller.findings.verdict
        verdict := some attempt.controller.findings.verdict } := by
  simp [verify, Controller.verify, undecided, Controller.assess_eq]

/-- What every course keeps of an attempt. -/
structure Kept (config : ConnectionConfig) (log : List Moment) (attempt : Attempt) : Prop where
  fixed : attempt.controller.config = config
  sound : attempt.channel.Sound config log
  blames : attempt.Blames
  undecided : attempt.controller.verdict = none →
    attempt.controller.OnCourse (log.any (·.event = .connectionBound))
  decided : ∀ verdict, attempt.controller.verdict = some verdict →
    attempt.controller.phase = Controller.phaseOf verdict

namespace Kept

variable {config : ConnectionConfig} {log : List Moment} {attempt : Attempt}

theorem start (begun : Attempt.start config containerId = .ok attempt) :
    attempt.Kept config [] := by
  obtain ⟨_, rfl⟩ := start_eq_ok_iff.mp begun
  exact ⟨rfl, ⟨.inl ⟨rfl, rfl⟩, .closed rfl rfl rfl rfl rfl rfl rfl⟩, nofun, fun _ => rfl, nofun⟩

theorem ignore (kept : attempt.Kept config log) (decided : attempt.controller.verdict.isSome)
    (event : Event) : attempt.Kept config (log ++ [⟨attempt, event⟩]) where
  fixed := kept.fixed
  sound := ⟨kept.sound.targets, kept.sound.stage.more _⟩
  blames := kept.blames
  undecided none := by rw [none] at decided; cases decided
  decided := kept.decided

theorem react (kept : attempt.Kept config log) (none : attempt.controller.verdict = none)
    (around : Surroundings) (event : Event) :
    (attempt.react around event).Kept config (log ++ [⟨attempt, event⟩]) := by
  obtain rfl := kept.fixed
  have terms := terms_react around attempt event
  have still : (attempt.react around event).controller.verdict = .none :=
    (congrArg (·.2.2) terms).trans none
  refine ⟨congrArg (·.1) terms, sound_react kept.sound none around event,
    blames_react kept.sound.stage kept.blames around event, fun _ => ?_, fun verdict some => ?_⟩
  · simpa using onCourse_react (kept.undecided none) around event
  · cases still.symm.trans some

theorem verify (kept : attempt.Kept config log) : attempt.verify.2.Kept config log := by
  cases found : attempt.controller.verdict with
  | some verdict => rwa [verify_of_decided (by rw [found]; rfl)]
  | none =>
    have channel := channel_verify attempt
    have controller := verify_of_undecided found
    refine ⟨(config_verify attempt).trans kept.fixed, channel ▸ kept.sound, ?_, ?_, ?_⟩
    · unfold Blames
      rw [controller]
      exact kept.blames
    · rw [controller]
      nofun
    · rw [controller]
      intro verdict given
      exact congrArg Controller.phaseOf (Option.some.inj given)

/-- An action takes the phase forward. -/
theorem forward_act (kept : attempt.Kept config log) (around : Surroundings) (action : Action) :
    attempt.controller.phase.Forward (attempt.act around action).controller.phase := by
  cases found : attempt.controller.verdict with
  | some verdict =>
    have decided : attempt.controller.verdict.isSome := by rw [found]; rfl
    have same : attempt.act around action = attempt := by
      cases action with
      | handle event => exact handle_decided decided around event
      | verify => exact verify_of_decided decided
    rw [same]
    exact .refl _
  | none =>
    have phase := kept.undecided found
    cases action with
    | handle event =>
      rw [act, handle_undecided found, onCourse_react phase around event, phase, findings_react]
      exact Findings.forward_add ..
    | verify =>
      rw [act, verify_of_undecided found, phase]
      exact Findings.forward_verdict ..

end Kept

/-- Every course keeps that, and takes the phase forward. -/
theorem kept_actAll {attempt : Attempt} (kept : attempt.Kept config log) (around : Surroundings)
    (actions : List Action) :
    (attempt.actAll around actions).Kept config (log ++ attempt.moments around actions) ∧
      attempt.controller.phase.Forward (attempt.actAll around actions).controller.phase := by
  refine @actAll_induction
    (fun log later => later.Kept config log ∧
      attempt.controller.phase.Forward later.controller.phase)
    around ?ignore ?react ?verify log attempt ⟨kept, .refl _⟩ actions
  case ignore =>
    rintro log later event decided ⟨kept, forward⟩
    exact ⟨kept.ignore decided event, forward⟩
  case react =>
    rintro log later event undecided ⟨kept, forward⟩
    have next := kept.forward_act around (.handle event)
    rw [act, handle_undecided undecided] at next
    exact ⟨kept.react undecided around event, forward.trans next⟩
  case verify =>
    rintro log later ⟨kept, forward⟩
    exact ⟨kept.verify, forward.trans (kept.forward_act around .verify)⟩

end Attempt

theorem Controller.phaseOf_eq_succeeded_iff {verdict : Verdict} :
    phaseOf verdict = .succeeded ↔ verdict = .ok () := by
  unfold phaseOf
  split <;> simp

theorem Controller.phaseOf_eq_timedOut_iff {verdict : Verdict} :
    phaseOf verdict = .timedOut ↔ verdict = .error .timeout := by
  unfold phaseOf
  split <;> simp_all

theorem Controller.phaseOf_eq_failed_iff {error : HandshakeError} :
    phaseOf (.error error) = .failed ↔ error ≠ .timeout := by
  cases error <;> simp [phaseOf]

/-- What the fields of a controller say, of each other and of what has happened. -/
structure Controller.Represents (config : ConnectionConfig) (log : List Moment)
    (controller : Controller) : Prop where
  /-- The phase in which the connection opens is over when the event is. -/
  passed : controller.phase ≠ .connectionOpen
  undecided : controller.verdict = none →
    controller.phase =
      if controller.protocolError.isSome || controller.state.savedFailure.isSome then .failed
      else if controller.state.connectionOpened then .authenticating
      else if log.any (·.event = .connectionBound) then .transportBound
      else .initial
  succeeded : controller.phase = .succeeded ↔ controller.verdict = some (.ok ())
  timedOut : controller.phase = .timedOut ↔ controller.verdict = some (.error .timeout)
  failed : ∀ error, controller.verdict = some (.error error) →
    (controller.phase = .failed ↔ error ≠ .timeout)
  exchange : controller.cbs.isSome = controller.state.connectionOpened
  serviceSession : controller.serviceSession.isSome =
    (controller.authenticated && config.serviceLink.isSome)
  serviceLink : controller.serviceLink.isSome =
    (controller.authenticated && config.serviceLink.isSome)
  authenticated : controller.authenticated = true →
    (∃ cbs, controller.cbs = some cbs ∧ cbs.isSettled = true) ∧
      ∀ error, controller.state.savedFailure ≠ some (.authentication error)
  endpoint : ∀ endpoint, controller.endpoint = some endpoint → endpoint = config.endpoint

/-- A phase that no attempt is in without a verdict is the phase of a verdict. -/
theorem Attempt.Kept.phase_eq_iff {attempt : Attempt} (kept : attempt.Kept config log)
    {phase : Phase}
    (late : ∀ failed opened bound, Phase.undecided failed opened bound ≠ phase) :
    attempt.controller.phase = phase ↔
      ∃ verdict, attempt.controller.verdict = some verdict ∧
        Controller.phaseOf verdict = phase := by
  cases found : attempt.controller.verdict with
  | none =>
    rw [kept.undecided found]
    exact ⟨fun same => absurd same (late _ _ _), nofun⟩
  | some verdict =>
    rw [kept.decided verdict found]
    constructor
    · intro same
      exact ⟨verdict, rfl, same⟩
    · rintro ⟨_, given, same⟩
      rwa [Option.some.inj given]

theorem Attempt.Kept.represents {attempt : Attempt} (kept : attempt.Kept config log) :
    attempt.controller.Represents config log where
  passed := by
    rw [ne_eq, kept.phase_eq_iff Phase.undecided_ne_connectionOpen]
    rintro ⟨verdict, -, same⟩
    unfold Controller.phaseOf at same
    split at same <;> cases same
  undecided := kept.undecided
  succeeded := by
    simp only [kept.phase_eq_iff Phase.undecided_ne_succeeded,
      Controller.phaseOf_eq_succeeded_iff, exists_eq_right]
  timedOut := by
    simp only [kept.phase_eq_iff Phase.undecided_ne_timedOut,
      Controller.phaseOf_eq_timedOut_iff, exists_eq_right]
  failed error found := by
    rw [kept.decided _ found, Controller.phaseOf_eq_failed_iff]
  exchange := kept.sound.stage.isSome_cbs
  serviceSession := kept.sound.stage.isSome_service.1
  serviceLink := kept.sound.stage.isSome_service.2
  authenticated granted :=
    ⟨kept.sound.stage.settled_of_granted granted, fun error blamed => by
      cases (kept.blames error blamed).1.symm.trans granted⟩
  endpoint endpoint found := by
    rcases kept.sound.targets with ⟨nowhere, _⟩ | ⟨connected, _⟩
    · cases nowhere.symm.trans found
    · exact (Option.some.inj (connected.symm.trans found)).symm

/-- After every course the fields of the controller say what they should; and however the course
goes on, the phase goes forward, and a terminal one stays. -/
theorem controller_represents (begun : Attempt.start config containerId = .ok attempt)
    (around : Surroundings) (actions more : List Action) :
    (attempt.actAll around actions).controller.Represents config
        (attempt.moments around actions) ∧
      (attempt.actAll around actions).controller.phase.Forward
        (attempt.actAll around (actions ++ more)).controller.phase := by
  obtain ⟨kept, -⟩ := Attempt.kept_actAll (.start begun) around actions
  rw [Attempt.actAll_append]
  exact ⟨kept.represents, (Attempt.kept_actAll kept around more).2⟩

/-- The connection is open and the claim accepted. A verdict that is asked for at once is a timeout.
It is a success once the link of the application is confirmed, and a failure after an error. An error
that comes behind the verdict comes too late. -/
theorem controller_represents_to_each_verdict :
    let accepted : List Action := [.handle .reactorInit, .handle .connectionRemoteOpen,
      .handle (.linkRemoteOpen ⟨2⟩), .handle (.linkRemoteOpen ⟨3⟩),
      .handle (.cbsResponse ⟨3⟩ 200 none)]
    let served := [.handle (.sessionRemoteOpen ⟨4⟩), .handle (.linkRemoteOpen ⟨5⟩)]
    let lost := [.handle (.transportError ⟨"amqp:internal-error", none⟩)]
    let late := .verify :: lost
    let reach (actions : List Action) := (Sample.start.actAll Sample.around actions).controller
    let log (actions : List Action) := Sample.start.moments Sample.around actions
    Attempt.start Sample.config ⟨0⟩ = .ok Sample.start ∧
      (reach accepted).Represents Sample.config (log accepted) ∧
      (reach accepted).phase = .authenticating ∧
      (reach accepted).phase.Forward (reach (accepted ++ (served ++ late))).phase ∧
      (reach (accepted ++ late)).phase = .timedOut ∧
      (reach (accepted ++ served ++ late)).phase = .succeeded ∧
      (reach (accepted ++ lost ++ late)).phase = .failed := by
  intro accepted served lost late reach log
  have represents (actions : List Action) : (reach actions).Represents Sample.config (log actions) :=
    (controller_represents Sample.begun Sample.around actions []).1
  obtain ⟨represented, forward⟩ :=
    controller_represents Sample.begun Sample.around accepted (served ++ late)
  exact ⟨Sample.begun, represented, represented.undecided rfl, forward,
    (represents _).timedOut.mpr rfl, (represents _).succeeded.mpr rfl,
    ((represents _).failed _ rfl).mpr nofun⟩

end AmqpHandshake
