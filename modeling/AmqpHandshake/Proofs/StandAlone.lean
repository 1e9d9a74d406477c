import AmqpHandshake.Proofs.Echo

/-! The claims exchange of an attempt goes on as if it were alone: it hears nothing but what
concerns it, and what concerns it is taken for nothing else. -/
namespace AmqpHandshake

/-- An attempt holds the same exchange as one alone, which has called what the attempt has after
the session. -/
structure Channel.Mirrors (channel : Channel) (lone : Exchange) : Prop where
  found : channel.cbs = some lone.cbs
  opened : channel.connectionOpened = true
  agrees : lone.cbs.Agrees
  asked : lone.trace.tokenRequests = channel.tokenRequests
  calls : .openSession lone.cbs.session :: lone.trace.calls <+: channel.dialogue
  unsent : lone.cbs.phase = .openingLinks →
    channel.dialogue = lone.cbs.opening ∧ lone.trace.calls = lone.cbs.opening.tail

theorem Event.notice?_congr {cbs next : CbsSession} (same : next.terms = cbs.terms)
    (event : Event) : event.notice? next = event.notice? cbs := by
  obtain ⟨session, sender, receiver, -⟩ := CbsSession.terms_eq_iff.mp same
  cases event <;> simp [notice?, session, sender, receiver]

namespace Attempt

/-- What does not concern the exchange leaves it as it is. -/
theorem mirrors_unheard {attempt : Attempt} (mirrors : attempt.channel.Mirrors lone)
    (unheard : event.notice? lone.cbs = none) (around : Surroundings) :
    (attempt.react around event).channel.Mirrors lone := by
  have reaction := reaction_react around attempt event
  generalize attempt.react around event = next at reaction
  cases reaction with
  | connect starts nowhere =>
    rw [channel_onReactorInit nowhere]
    exact ⟨mirrors.found, mirrors.opened, mirrors.agrees, mirrors.asked, mirrors.calls,
      mirrors.unsent⟩
  | begin opens closed => cases closed.symm.trans mirrors.opened
  | hear here heard =>
    obtain rfl := Option.some.inj (mirrors.found.symm.trans here)
    cases heard.symm.trans unheard
  | apart _ same => exact same ▸ mirrors

/-- Alone, the exchange takes the same turn, as the engine answers its claim in the same way. -/
theorem turn_alone {attempt : Attempt} (mirrors : attempt.channel.Mirrors lone)
    (turn : Exchange.Turn around ⟨lone.cbs, attempt.trace⟩ notice told next)
    (calls : next.trace.calls = attempt.trace.calls ++ made)
    (sends : made = [] ∨ lone.cbs.phase = .openingLinks ∧
      ∃ claim refusal, made = [.sendClaim lone.cbs.sender claim refusal])
    (echoes : engine.Echoes (attempt.trace.dialogue ++ made)) :
    lone.Turn { around with engine } notice told
      ⟨next.cbs, ⟨lone.trace.calls ++ made, next.trace.tokenRequests⟩⟩ := by
  refine turn.alone lone rfl mirrors.asked calls fun claim refusal sent => ?_
  subst sent
  obtain none | ⟨waits, -⟩ := sends
  · cases none
  · -- No claim comes before this one on either side, so its answer is the one that is echoed.
    obtain ⟨dialogue, opening⟩ := mirrors.unsent waits
    rw [show attempt.trace.dialogue = lone.cbs.opening from dialogue] at echoes
    exact echoes.claim _ _ _ _ (opening ▸ rfl)

/-- The turn takes both exchanges on in the same way. -/
theorem mirrors_heard {attempt : Attempt} (mirrors : attempt.channel.Mirrors lone)
    (turn : Exchange.Turn around ⟨lone.cbs, attempt.trace⟩ notice told next)
    (calls : next.trace.calls = attempt.trace.calls ++ made)
    (sends : made = [] ∨ lone.cbs.phase = .openingLinks ∧
      ∃ claim refusal, made = [.sendClaim lone.cbs.sender claim refusal])
    (dialogue : next.trace.dialogue = attempt.trace.dialogue ++ made)
    (agrees : next.cbs.Agrees) :
    (attempt.heard next).channel.Mirrors
      ⟨next.cbs, ⟨lone.trace.calls ++ made, next.trace.tokenRequests⟩⟩ := by
  obtain ⟨opening, -⟩ := CbsSession.opening_congr turn.terms
  have session : next.cbs.session = lone.cbs.session := congrArg (·.1) turn.terms
  have begun : .openSession next.cbs.session :: (lone.trace.calls ++ made) <+:
      next.trace.dialogue := by
    rw [dialogue, session]
    obtain rfl | ⟨waits, -⟩ := sends
    · rw [List.append_nil, List.append_nil]
      exact mirrors.calls
    · obtain ⟨before, opened⟩ := mirrors.unsent waits
      rw [show attempt.trace.dialogue = lone.cbs.opening from before, opened]
      exact List.prefix_rfl
  have waiting (waits : next.cbs.phase = .openingLinks) :
      next.trace.dialogue = next.cbs.opening ∧
        lone.trace.calls ++ made = next.cbs.opening.tail := by
    obtain ⟨waited, -, silent⟩ := turn.of_waiting waits
    obtain rfl : made = [] := by simpa [silent] using calls
    obtain ⟨before, opened⟩ := mirrors.unsent waited
    rw [opening, List.append_nil, silent]
    exact ⟨before, opened⟩
  exact ⟨rfl, mirrors.opened, agrees, rfl, begun, waiting⟩

/-- What is told does not touch the exchange, and nothing is told while that waits. -/
theorem mirrors_accept {attempt : Attempt} (mirrors : attempt.channel.Mirrors lone)
    (around : Surroundings) (told : Option AuthOutcome)
    (quiet : lone.cbs.phase = .openingLinks → told = none) :
    (attempt.accept around told).channel.Mirrors lone := by
  obtain ⟨_, _, _, served, channel⟩ := channel_accept_eq around told attempt
  have waiting (waits : lone.cbs.phase = .openingLinks) :
      (attempt.accept around told).channel.dialogue = lone.cbs.opening ∧
        lone.trace.calls = lone.cbs.opening.tail := by
    rw [quiet waits]
    exact mirrors.unsent waits
  exact
    { found := (congrArg Channel.cbs channel).trans mirrors.found
      opened := (congrArg Channel.connectionOpened channel).trans mirrors.opened
      agrees := mirrors.agrees
      asked := mirrors.asked.trans (congrArg Channel.tokenRequests channel).symm
      calls := mirrors.calls.trans (channel ▸ List.prefix_append ..)
      unsent := waiting }

theorem mirrors_hear {attempt : Attempt} (mirrors : attempt.channel.Mirrors lone)
    (around : Surroundings) (notice : CbsNotice)
    (echoes : engine.Echoes (attempt.hear around lone.cbs notice).trace.dialogue) :
    (attempt.hear around lone.cbs notice).channel.Mirrors
        (lone.hear { around with engine } notice).2 ∧
      (Exchange.hear around ⟨lone.cbs, attempt.trace⟩ notice).1 =
        (lone.hear { around with engine } notice).1 := by
  obtain ⟨report, next, turn⟩ := Exchange.exists_turn around ⟨lone.cbs, attempt.trace⟩ notice
  obtain ⟨made, calls, sends⟩ := turn.exists_made
  have all : ∀ call ∈ made, call.isDialogue = true := by
    obtain rfl | ⟨-, claim, refusal, rfl⟩ := sends <;> simp [Call.isDialogue]
  have dialogue : next.trace.dialogue = attempt.trace.dialogue ++ made :=
    Trace.dialogue_append calls all
  have agreesNext := Exchange.agrees_hear mirrors.agrees { around with engine } notice
  rw [hear_eq_accept attempt mirrors.agrees turn] at echoes ⊢
  have alone := turn_alone mirrors turn calls sends
    (dialogue ▸ echoes.before (dialogue_accept around report (attempt.heard next)))
  rw [turn.hear_eq mirrors.agrees]
  rw [alone.hear_eq mirrors.agrees] at agreesNext ⊢
  refine ⟨mirrors_accept ?_ around report fun waits => (turn.of_waiting waits).2.1, rfl⟩
  exact mirrors_heard mirrors turn calls sends dialogue agreesNext

theorem mirrors_handleAll {attempt : Attempt} (mirrors : attempt.channel.Mirrors lone)
    (undecided : attempt.controller.verdict = none) (around : Surroundings) (events : List Event)
    (echoes : engine.Echoes (attempt.handleAll around events).trace.dialogue) :
    (attempt.handleAll around events).channel.Mirrors
        (lone.hearAll { around with engine } (events.filterMap (Event.notice? lone.cbs))) ∧
      (attempt.history around events).filterMap (Moment.outcome? around) =
        (lone.reports { around with engine }
          (events.filterMap (Event.notice? lone.cbs))).filterMap id := by
  induction events generalizing attempt lone with
  | nil => exact ⟨mirrors, rfl⟩
  | cons event rest ih =>
    have undecidedNext : (attempt.react around event).controller.verdict = none :=
      (congrArg (·.2.2) (terms_react around attempt event)).trans undecided
    have outcome := Moment.outcome?_eq mirrors.found around event
    rw [handleAll_cons, handle_undecided undecided] at echoes ⊢
    rw [history, handle_undecided undecided]
    cases told : event.notice? lone.cbs with
    | none =>
      rw [told] at outcome
      rw [List.filterMap_cons_none told, List.filterMap_cons_none outcome]
      exact ih (mirrors_unheard mirrors told around) undecidedNext echoes
    | some notice =>
      rw [react_eq_hear mirrors.found told around] at undecidedNext echoes ⊢
      obtain ⟨mirrorsNext, reported⟩ := mirrors_hear mirrors around notice
        (echoes.before (dialogue_handleAll around _ rest))
      have last := ih mirrorsNext undecidedNext echoes
      -- The exchange has changed, but not what concerns it.
      have same := Event.notice?_congr
        (Exchange.turn_hear mirrors.agrees { around with engine } notice).terms
      rw [show Event.notice? _ = Event.notice? lone.cbs from funext same] at last
      rw [List.filterMap_cons_some told]
      refine ⟨last.1, ?_⟩
      rw [told, Option.bind_some, reported] at outcome
      rw [Exchange.reports, List.filterMap_cons, List.filterMap_cons, outcome, last.2]
      rfl

end Attempt

/-- Whether an event concerns a claims exchange: its session, its links, or an answer to a claim. -/
def Event.concerns (cbs : CbsSession) : Event → Bool
  | .sessionRemoteOpen session | .sessionRemoteClose session _ => cbs.session = session
  | .linkRemoteOpen link | .linkRemoteClose link _ => link = cbs.sender || link = cbs.receiver
  | .cbsResponse _ _ _ => true
  | _ => false

theorem Event.concerns_congr {cbs next : CbsSession} (same : next.terms = cbs.terms)
    (event : Event) : event.concerns next = event.concerns cbs := by
  obtain ⟨session, sender, receiver, -⟩ := CbsSession.terms_eq_iff.mp same
  cases event <;> simp [concerns, session, sender, receiver]

theorem Event.notice?_of_not_concerns {event : Event} (apart : event.concerns cbs = false) :
    event.notice? cbs = none := by
  cases event <;> simp_all [concerns, notice?]

/-- What the peer has confirmed to the application, and the protocol error. -/
def Controller.signals (controller : Controller) : Bool × Bool × Option ErrorCondition :=
  (controller.state.sessionOpened, controller.state.linkOpened, controller.protocolError)

theorem Moment.silent_of_concerns {attempt : Attempt} {event : Event}
    (found : attempt.controller.cbs = some cbs) (concerns : event.concerns cbs = true) :
    Moment.openedSession? ⟨attempt, event⟩ = none ∧ Moment.openedLink? ⟨attempt, event⟩ = none ∧
      Moment.condition? ⟨attempt, event⟩ = none := by
  cases event <;> simp_all [openedSession?, openedLink?, condition?, Controller.isCbsSession,
    Controller.isCbsLink, Event.concerns]

namespace Attempt

theorem signals_react {attempt : Attempt} (found : attempt.controller.cbs = some cbs)
    (concerns : event.concerns cbs = true) (around : Surroundings) :
    (attempt.react around event).controller.signals = attempt.controller.signals := by
  obtain ⟨session, link, condition⟩ := Moment.silent_of_concerns found concerns
  have findings := findings_react around attempt event
  have signals := congrArg
    (fun findings : Findings =>
      (findings.sessionOpened, findings.linkOpened, findings.protocolError)) findings
  refine signals.trans ?_
  simp [Findings.add, Findings.ofMoment, session, link, condition, Controller.findings,
    Controller.signals]

/-- All along, an attempt holds the exchange that it has begun. -/
theorem mirrors_within {attempt : Attempt} (mirrors : attempt.channel.Mirrors lone)
    (undecided : attempt.controller.verdict = none) (around : Surroundings)
    (events : List Event) : ∃ later, (attempt.handleAll around events).channel.Mirrors later ∧
      later.cbs.terms = lone.cbs.terms :=
  ⟨_, (mirrors_handleAll mirrors undecided around events (Engine.echoes_echo _)).1,
    Exchange.terms_hearAll mirrors.agrees _ _⟩

/-- Over some events, the claims exchange of an attempt and the rest of it leave each other alone,
and the exchange goes on as a lone one that hears what concerns it and nothing else. -/
structure RunsAlone (around : Surroundings) (attempt : Attempt) (events : List Event)
    (alone : Surroundings) (lone : Exchange) : Prop where
  signals : ∀ moment ∈ attempt.history around events, moment.event.concerns lone.cbs = true →
    (moment.attempt.handle around moment.event).controller.signals =
      moment.attempt.controller.signals
  exchange : ∀ moment ∈ attempt.history around events, moment.event.concerns lone.cbs = false →
    (moment.attempt.handle around moment.event).controller.cbs = moment.attempt.controller.cbs
  calls : .openSession lone.cbs.session ::
      (lone.hearAll alone (events.filterMap (Event.notice? lone.cbs))).trace.calls <+:
    (attempt.handleAll around events).trace.dialogue
  state : (attempt.handleAll around events).controller.cbs =
    some (lone.hearAll alone (events.filterMap (Event.notice? lone.cbs))).cbs
  outcomes : (attempt.history around events).filterMap (Moment.outcome? around) =
    (lone.reports alone (events.filterMap (Event.notice? lone.cbs))).filterMap id
  authenticated : (attempt.handleAll around events).controller.authenticated = true ↔
    some .succeeded ∈ lone.reports alone (events.filterMap (Event.notice? lone.cbs))

theorem runsAlone_of_mirrors {attempt : Attempt} (mirrors : attempt.channel.Mirrors lone)
    (undecided : attempt.controller.verdict = none)
    (ungranted : attempt.controller.authenticated = false) (around : Surroundings)
    (events : List Event)
    (echoes : engine.Echoes (attempt.handleAll around events).trace.dialogue) :
    attempt.RunsAlone around events { around with engine } lone := by
  obtain ⟨last, outcomes⟩ := mirrors_handleAll mirrors undecided around events echoes
  refine ⟨?signals, ?exchange, ?calls, last.found, outcomes, ?authenticated⟩
  case signals =>
    rintro ⟨_, event⟩ member concerns
    obtain ⟨earlier, _, -, rfl⟩ := mem_history_iff.mp member
    obtain ⟨later, held, same⟩ := mirrors_within mirrors undecided around earlier
    rw [handle_undecided (undecided_handleAll undecided around earlier)]
    exact signals_react held.found ((Event.concerns_congr same event).trans concerns) around
  case exchange =>
    rintro ⟨_, event⟩ member apart
    obtain ⟨earlier, _, -, rfl⟩ := mem_history_iff.mp member
    obtain ⟨later, held, same⟩ := mirrors_within mirrors undecided around earlier
    have unheard : event.notice? later.cbs = none :=
      Event.notice?_of_not_concerns ((Event.concerns_congr same event).trans apart)
    rw [handle_undecided (undecided_handleAll undecided around earlier)]
    exact (mirrors_unheard held unheard around).found.trans held.found.symm
  case calls =>
    have terms := Exchange.terms_hearAll mirrors.agrees { around with engine }
      (events.filterMap (Event.notice? lone.cbs))
    have session : CbsSession.session _ = lone.cbs.session := congrArg (·.1) terms
    exact session ▸ last.calls
  case authenticated =>
    have granted : (attempt.handleAll around events).controller.authenticated =
        (attempt.history around events).any (·.outcome? around = some .succeeded) := by
      refine (congrArg Findings.authenticated (findings_handleAll undecided around events)).trans ?_
      simp [Findings.add, Findings.ofHistory, Controller.findings, ungranted]
    have told : .succeeded ∈ (attempt.history around events).filterMap (Moment.outcome? around) ↔
        (attempt.handleAll around events).controller.authenticated = true := by
      simp [granted]
    rw [← told, outcomes]
    simp

/-- Before the peer opens the connection, nothing is done for an exchange. -/
theorem channel_unopened (begun : Attempt.start config containerId = .ok attempt)
    (around : Surroundings) {events : List Event} (unopened : .connectionRemoteOpen ∉ events) :
    (attempt.handleAll around events).channel.connectionOpened = false ∧
      (attempt.handleAll around events).channel.authenticated = false ∧
      (attempt.handleAll around events).channel.dialogue = [] ∧
      (attempt.handleAll around events).channel.tokenRequests = [] := by
  obtain ⟨-, -, stage⟩ := sound_actAll begun around (events.map .handle)
  rw [actAll_handle] at stage
  have closed : (attempt.handleAll around events).channel.connectionOpened = false := by
    obtain ⟨_, rfl⟩ := start_eq_ok_iff.mp begun
    refine (congrArg Findings.connectionOpened (findings_handleAll rfl around events)).trans ?_
    have silent : ∀ moment ∈ (fresh config containerId).history around events,
        moment.event ≠ .connectionRemoteOpen := by
      rintro ⟨_, event⟩ member rfl
      obtain ⟨earlier, later, rfl, -⟩ := mem_history_iff.mp member
      simp at unopened
    simpa [Findings.add, Findings.ofHistory] using ⟨rfl, silent⟩
  cases stage with
  | closed _ _ ungranted _ _ noCalls noTokens => exact ⟨closed, ungranted, noCalls, noTokens⟩
  | exchanging exchanging => cases closed.symm.trans exchanging.opened
  | granted granted => cases closed.symm.trans granted.opened

/-- With the same answers, an exchange alone begins as that of an attempt does. -/
theorem start_newExchange (around : Surroundings) (attempt : Attempt)
    (echoes : engine.Echoes (attempt.newExchange around).opening) :
    Exchange.start engine (attempt.newExchange around).session
        attempt.controller.config.credentials attempt.controller.config.hostName =
      ⟨attempt.newExchange around, ⟨(attempt.newExchange around).opening.tail, []⟩⟩ := by
  have sender (session : SessionId) := echoes.link [] session cbsSenderSpec _ rfl
  have receiver (session : SessionId) (link : LinkId) :=
    echoes.link [.openLink session cbsSenderSpec link] session cbsReceiverSpec _ rfl
  rw [Exchange.start]
  simp only [CbsSession.start, Trace.openLink, Trace.record, sender, List.nil_append, receiver]
  rfl

/-- An exchange that has just begun is mirrored by a lone one with the same answers. -/
theorem mirrors_begin {attempt : Attempt} (closed : attempt.channel.connectionOpened = false)
    (noCalls : attempt.channel.dialogue = []) (noTokens : attempt.channel.tokenRequests = [])
    (around : Surroundings) (echoes : engine.Echoes (attempt.newExchange around).opening) :
    (attempt.onConnectionRemoteOpen around).channel.Mirrors
      (Exchange.start engine (attempt.newExchange around).session
        attempt.controller.config.credentials attempt.controller.config.hostName) := by
  have lone := start_newExchange around attempt echoes
  rw [lone, channel_onConnectionRemoteOpen closed around, noCalls]
  exact ⟨rfl, rfl, by simp [CbsSession.Agrees, newExchange, CbsSession.start], noTokens.symm,
    List.prefix_rfl, fun _ => ⟨rfl, rfl⟩⟩

/-- From when the peer first opens the connection, the claims exchange runs as if alone, on any
engine that gives it the same answers. -/
theorem exchange_runs_alone (begun : Attempt.start config containerId = .ok attempt)
    (around : Surroundings) {before : List Event} (first : .connectionRemoteOpen ∉ before)
    (after : List Event) {engine : Engine}
    (echoes : engine.Echoes
      (attempt.handleAll around (before ++ .connectionRemoteOpen :: after)).trace.dialogue) :
    let opened := attempt.handleAll around (before ++ [.connectionRemoteOpen])
    ∃ cbs, opened.controller.cbs = some cbs ∧ opened.trace.dialogue = cbs.opening ∧
      opened.RunsAlone around after { around with engine }
        (Exchange.start engine cbs.session config.credentials config.hostName) := by
  intro opened
  obtain ⟨closed, ungranted, noCalls, noTokens⟩ := channel_unopened begun around first
  obtain ⟨_, rfl⟩ := start_eq_ok_iff.mp begun
  let met := (fresh config containerId).handleAll around before
  have undecided : met.controller.verdict = none := undecided_handleAll rfl around before
  have terms : met.controller.config = config :=
    congrArg (·.1) (terms_handleAll around (fresh config containerId) before)
  have opens : opened = met.onConnectionRemoteOpen around := by
    rw [show opened = met.handle around .connectionRemoteOpen from handleAll_append ..,
      handle_undecided undecided]
    rfl
  have channel := channel_onConnectionRemoteOpen closed around
  have dialogue : opened.trace.dialogue = (met.newExchange around).opening := by
    rw [opens]
    exact (congrArg Channel.dialogue channel).trans (by rw [noCalls]; rfl)
  have split : (fresh config containerId).handleAll around
      (before ++ .connectionRemoteOpen :: after) = opened.handleAll around after := by
    rw [← handleAll_append, List.append_assoc]
    rfl
  rw [split] at echoes
  have mirrors := mirrors_begin closed noCalls noTokens around
    (dialogue ▸ echoes.before (dialogue_handleAll around opened after))
  rw [terms, ← opens] at mirrors
  refine ⟨met.newExchange around, ?_, dialogue,
    runsAlone_of_mirrors mirrors ?_ ?_ around after echoes⟩
  · exact opens ▸ congrArg Channel.cbs channel
  · exact undecided_handleAll rfl around _
  · exact opens ▸ (congrArg Channel.authenticated channel).trans ungranted

/-- A claim is accepted while the application's own session opens; a link of the exchange that
closes later is no protocol error. -/
theorem exchange_runs_alone_to_success :
    let after := [.sessionRemoteOpen ⟨1⟩, .linkRemoteOpen ⟨2⟩, .sessionRemoteOpen ⟨9⟩,
      .linkRemoteOpen ⟨3⟩, .cbsResponse ⟨3⟩ 202 none, .linkRemoteClose ⟨2⟩ none]
    let opened := Sample.start.handleAll Sample.around ([.reactorInit] ++ [.connectionRemoteOpen])
    let engine := Engine.echo (Sample.start.handleAll Sample.around
      ([.reactorInit] ++ .connectionRemoteOpen :: after)).trace.dialogue
    (opened.handleAll Sample.around after).controller.authenticated = true ∧
      ∃ cbs, opened.controller.cbs = some cbs ∧ opened.trace.dialogue = cbs.opening ∧
        opened.RunsAlone Sample.around after { Sample.around with engine }
          (Exchange.start engine cbs.session Sample.config.credentials Sample.config.hostName) :=
  ⟨rfl, exchange_runs_alone Sample.begun Sample.around (by decide) _ (Engine.echoes_echo _)⟩

end Attempt

end AmqpHandshake
