import AmqpHandshake.Proofs.Course
import AmqpHandshake.Proofs.Reaction

/-! The order of the calls that begin sessions, attach links and present claims, over all courses
of an attempt: the claims exchange first, then its claim, and the application link only for a
claim that was accepted. -/
namespace AmqpHandshake

namespace Credentials

theorem Yields.length_le {credentials : Credentials}
    (yields : credentials.Yields messageId audience asked claim after) :
    after.length ≤ asked.length + 1 := by
  cases yields <;> simp

theorem Withholds.length_le {credentials : Credentials}
    (withholds : credentials.Withholds asked reason after) :
    after.length ≤ asked.length + 1 := by
  cases withholds
  simp

end Credentials

namespace CbsSession

/-- How far an exchange has come: by its claims, its requests for tokens and what it has told. -/
inductive Standing (cbs : CbsSession) :
    List Call → List TokenRequest → Option AuthOutcome → Prop
  | opening (phase : cbs.phase = .openingLinks) (untold : cbs.slot.settled = false) :
      Standing cbs [] [] none
  | awaiting (phase : cbs.phase = .awaitingResponse) (untold : cbs.slot.settled = false)
      (short : asked.length ≤ 1) : Standing cbs [.sendClaim cbs.sender claim none] asked none
  | failed (phase : cbs.phase = .done) (settled : cbs.slot.settled = true)
      (short : asked.length ≤ 1)
      (once : claims = [] ∨ ∃ claim refusal, claims = [.sendClaim cbs.sender claim refusal]) :
      Standing cbs claims asked (some (.failed error))
  | succeeded (phase : cbs.phase = .done) (settled : cbs.slot.settled = true)
      (short : asked.length ≤ 1) :
      Standing cbs [.sendClaim cbs.sender claim none] asked (some .succeeded)

namespace Standing

variable {cbs : CbsSession} {claims : List Call} {asked : List TokenRequest}
  {told : Option AuthOutcome}

theorem agrees (standing : cbs.Standing claims asked told) : cbs.Agrees := by
  cases standing <;> simp_all [Agrees]

theorem mark (standing : cbs.Standing claims asked told) (link : LinkId) :
    (cbs.markOpen link).Standing claims asked told := by
  rw [markOpen_eq]
  cases standing with
  | opening phase untold => exact .opening phase untold
  | awaiting phase untold short => exact .awaiting phase untold short
  | failed phase settled short once => exact .failed phase settled short once
  | succeeded phase settled short => exact .succeeded phase settled short

theorem of_opening (standing : cbs.Standing claims asked told)
    (phase : cbs.phase = .openingLinks) : claims = [] ∧ asked = [] ∧ told = none := by
  cases standing with
  | opening => exact ⟨rfl, rfl, rfl⟩
  | awaiting other | failed other | succeeded other => cases phase.symm.trans other

theorem of_awaiting (standing : cbs.Standing claims asked told)
    (phase : cbs.phase = .awaitingResponse) :
    (∃ claim, claims = [.sendClaim cbs.sender claim none]) ∧ asked.length ≤ 1 ∧ told = none := by
  cases standing with
  | awaiting phase untold short => exact ⟨⟨_, rfl⟩, short, rfl⟩
  | opening other | failed other | succeeded other => cases phase.symm.trans other

theorem told_eq_none (standing : cbs.Standing claims asked told) (going : cbs.phase ≠ .done) :
    told = none := by
  cases standing with
  | opening | awaiting => rfl
  | failed phase | succeeded phase => exact absurd phase going

theorem ended (standing : cbs.Standing claims asked (some outcome)) : cbs.phase = .done := by
  cases standing with
  | failed phase | succeeded phase => exact phase

theorem asked_le (standing : cbs.Standing claims asked told) : asked.length ≤ 1 := by
  cases standing with
  | opening => exact Nat.zero_le 1
  | awaiting _ _ short | failed _ _ short | succeeded _ _ short => exact short

/-- No claim is sent, or one on the sending link. -/
theorem claims_le (standing : cbs.Standing claims asked told) :
    ∃ claim refusal, claims <+: [.sendClaim cbs.sender claim refusal] := by
  have unsent : ∃ claim refusal, [] <+: [Call.sendClaim cbs.sender claim refusal] :=
    ⟨.putToken ⟨0⟩ .jsonWebToken "" "" none, none, List.nil_prefix⟩
  cases standing with
  | opening => exact unsent
  | awaiting | succeeded => exact ⟨_, _, List.prefix_rfl⟩
  | failed phase settled short once =>
    obtain rfl | ⟨claim, refusal, rfl⟩ := once
    · exact unsent
    · exact ⟨claim, refusal, List.prefix_rfl⟩

theorem of_succeeded (standing : cbs.Standing claims asked (some .succeeded)) :
    ∃ claim, claims = [.sendClaim cbs.sender claim none] := by
  cases standing with
  | succeeded => exact ⟨_, rfl⟩

theorem fail (standing : cbs.Standing claims asked told) (going : cbs.phase ≠ .done)
    (error : AuthError) : cbs.settle.Standing claims asked (some (.failed error)) := by
  cases standing with
  | opening => exact .failed rfl rfl (Nat.zero_le 1) (.inl rfl)
  | awaiting phase untold short => exact .failed rfl rfl short (.inr ⟨_, _, rfl⟩)
  | failed phase | succeeded phase => exact absurd phase going

/-- Every turn takes an exchange on by the calls that it adds and by what it reports. -/
theorem turn {exchange : Exchange}
    (standing : exchange.cbs.Standing claims exchange.trace.tokenRequests told)
    (turn : exchange.Turn around notice report next) :
    ∃ made, next.trace.calls = exchange.trace.calls ++ made ∧
      (∀ call ∈ made, call.isDialogue = true) ∧
      next.cbs.Standing (claims ++ made) next.trace.tokenRequests (told.or report) := by
  cases turn with
  | mark waiting => exact ⟨[], by simp, by simp, by simpa using standing.mark _⟩
  | withhold completes withholds =>
    obtain ⟨rfl, none, rfl⟩ := standing.of_opening completes.waits
    have short := withholds.length_le
    rw [none] at short
    exact ⟨[], by simp, by simp, .failed rfl rfl short (.inl rfl)⟩
  | send completes yields taken =>
    have untold := standing.agrees.untold (by simp [completes.waits])
    obtain ⟨rfl, none, rfl⟩ := standing.of_opening completes.waits
    have short := yields.length_le
    rw [none] at short
    refine ⟨_, rfl, by simp [Call.isDialogue], ?_⟩
    rw [markOpen_eq]
    exact .awaiting rfl untold short
  | bounce completes yields refused =>
    obtain ⟨rfl, none, rfl⟩ := standing.of_opening completes.waits
    have short := yields.length_le
    rw [none] at short
    refine ⟨_, rfl, by simp [Call.isDialogue], ?_⟩
    rw [markOpen_eq]
    exact .failed rfl rfl short (.inr ⟨_, _, rfl⟩)
  | disregard stray => exact ⟨[], by simp, by simp, by simpa using standing⟩
  | answer awaiting =>
    obtain ⟨⟨claim, rfl⟩, short, rfl⟩ := standing.of_awaiting awaiting
    refine ⟨[], by simp, by simp, ?_⟩
    unfold outcomeOf
    split
    · exact .succeeded rfl rfl short
    · exact .failed rfl rfl short (.inr ⟨_, _, rfl⟩)
  | stay ended => exact ⟨[], by simp, by simp, by simpa using standing⟩
  | close going =>
    refine ⟨[], by simp, by simp, ?_⟩
    obtain rfl := standing.told_eq_none going
    simpa using standing.fail going _

end Standing

end CbsSession

/-- What is opened for an accepted claim: the application link, if one is configured, on a session
of its own. -/
inductive Serves : Option ServiceLink → Option SessionId → Option LinkId → List Call → Prop
  | nothing : Serves none none none []
  | link (link : ServiceLink) (session : SessionId) (id : LinkId) :
      Serves (some link) (some session) (some id)
        [.openSession session, .openLink session link.spec id]

/-- A response accepts the claim: it comes on the receiving link, behind the calls up to the claim,
and before any verdict. -/
structure Moment.Accepts (moment : Moment) (receiver : LinkId) (sent : List Call) : Prop where
  undecided : moment.attempt.controller.verdict = none
  response : ∃ status description,
    moment.event = .cbsResponse receiver status description ∧ (status = 200 ∨ status = 202)
  sent : moment.attempt.trace.dialogue = sent

/-- An attempt has begun its exchange, and nothing is opened for the application. -/
structure Channel.Exchanging (channel : Channel) (cbs : CbsSession) (claims : List Call)
    (told : Option AuthOutcome) : Prop where
  found : channel.cbs = some cbs
  opened : channel.connectionOpened = true
  ungranted : channel.authenticated = false
  noSession : channel.serviceSession = none
  noLink : channel.serviceLink = none
  dialogue : channel.dialogue = cbs.opening ++ claims
  standing : cbs.Standing claims channel.tokenRequests told

/-- The exchange of an attempt has succeeded, and the application is served. -/
structure Channel.Granted (service : Option ServiceLink) (log : List Moment) (channel : Channel)
    (cbs : CbsSession) (claims served : List Call) : Prop where
  found : channel.cbs = some cbs
  opened : channel.connectionOpened = true
  granted : channel.authenticated = true
  serves : Serves service channel.serviceSession channel.serviceLink served
  dialogue : channel.dialogue = cbs.opening ++ claims ++ served
  standing : cbs.Standing claims channel.tokenRequests (some .succeeded)
  earned : ∃ moment ∈ log, moment.Accepts cbs.receiver (cbs.opening ++ claims)

/-- How far an attempt has come with its exchange and with the application link. -/
inductive Channel.Stage (service : Option ServiceLink) (log : List Moment) (channel : Channel) :
    Prop
  | closed (silent : channel.cbs = none) (unopened : channel.connectionOpened = false)
      (ungranted : channel.authenticated = false) (noSession : channel.serviceSession = none)
      (noLink : channel.serviceLink = none) (noCalls : channel.dialogue = [])
      (noTokens : channel.tokenRequests = []) : Stage service log channel
  | exchanging {cbs : CbsSession} (exchanging : channel.Exchanging cbs claims told)
      (untold : told ≠ some .succeeded) : Stage service log channel
  | granted {cbs : CbsSession} (granted : channel.Granted service log cbs claims served) :
      Stage service log channel

theorem Channel.Granted.more {channel : Channel} {cbs : CbsSession}
    (granted : channel.Granted service log cbs claims served) (moment : Moment) :
    channel.Granted service (log ++ [moment]) cbs claims served := by
  obtain ⟨earlier, member, accepts⟩ := granted.earned
  exact { granted with earned := ⟨earlier, List.mem_append_left _ member, accepts⟩ }

theorem Channel.Stage.more {channel : Channel} (stage : channel.Stage service log)
    (moment : Moment) : channel.Stage service (log ++ [moment]) := by
  cases stage with
  | closed silent unopened ungranted noSession noLink noCalls noTokens =>
    exact .closed silent unopened ungranted noSession noLink noCalls noTokens
  | exchanging exchanging untold => exact .exchanging exchanging untold
  | granted granted => exact .granted (granted.more moment)

/-- An attempt has connected to one endpoint, or to none so far. -/
def Channel.Targets (endpoint : Endpoint) (channel : Channel) : Prop :=
  channel.endpoint = none ∧ channel.connects = [] ∨
    channel.endpoint = some endpoint ∧ channel.connects = [endpoint.connect]

/-- What holds of an attempt after every course. -/
structure Channel.Sound (config : ConnectionConfig) (log : List Moment) (channel : Channel) :
    Prop where
  targets : channel.Targets config.endpoint
  stage : channel.Stage config.serviceLink log

theorem Event.eq_cbsResponse_of_notice? {event : Event}
    (told : event.notice? cbs = some (.response link status description)) :
    event = .cbsResponse link status description := by
  cases event <;> simp_all [Event.notice?]

theorem CbsSession.opening_congr {cbs next : CbsSession} (same : next.terms = cbs.terms) :
    next.opening = cbs.opening ∧ next.receiver = cbs.receiver := by
  obtain ⟨session, sender, receiver, -⟩ := terms_eq_iff.mp same
  simp [opening, session, sender, receiver]

namespace Attempt

/-- An accepted claim opens what is configured, where nothing has been opened before. -/
theorem channel_accept_succeeded {attempt : Attempt}
    (noSession : attempt.controller.serviceSession = none)
    (noLink : attempt.controller.serviceLink = none) (around : Surroundings) :
    ∃ session link served, Serves attempt.controller.config.serviceLink session link served ∧
      (attempt.accept around (some .succeeded)).channel =
        { attempt.channel with
          authenticated := true
          serviceSession := session
          serviceLink := link
          dialogue := attempt.channel.dialogue ++ served } := by
  simp only [accept, if_true, openServiceLink]
  cases configured : attempt.controller.config.serviceLink with
  | none =>
    refine ⟨none, none, [], .nothing, ?_⟩
    simp [channel, configured, update, AuthOutcome.deliver, Controller.listener,
      Controller.onAuthenticationSucceeded, noSession, noLink]
  | some link =>
    let opened := attempt.trace.openSession around.engine
    let attached := opened.2.openLink around.engine opened.1 link.spec
    refine ⟨some opened.1, some attached.1, _, .link link opened.1 attached.1, ?_⟩
    simp [channel, configured, update, AuthOutcome.deliver, Controller.listener,
      Controller.onAuthenticationSucceeded, noLink, opened, attached, Trace.openSession,
      Trace.openLink, Trace.dialogue, Trace.connects, Trace.record, Call.isDialogue,
      Call.isConnect]

theorem sound_connect {attempt : Attempt}
    (sound : attempt.channel.Sound attempt.controller.config log)
    (nowhere : attempt.controller.endpoint = none) :
    attempt.onReactorInit.channel.Sound attempt.controller.config log := by
  rw [channel_onReactorInit nowhere]
  have unconnected : attempt.channel.connects = [] := by
    rcases sound.targets with ⟨_, none⟩ | ⟨connected, _⟩
    · exact none
    · cases nowhere.symm.trans connected
  refine ⟨.inr ⟨rfl, by rw [unconnected]; rfl⟩, ?_⟩
  cases sound.stage with
  | closed silent unopened ungranted noSession noLink noCalls noTokens =>
    exact .closed silent unopened ungranted noSession noLink noCalls noTokens
  | exchanging exchanging untold => exact .exchanging { exchanging with } untold
  | granted granted => exact .granted { granted with }

/-- Beginning the exchange is sound, as nothing has gone before it. -/
theorem sound_begin {attempt : Attempt}
    (sound : attempt.channel.Sound attempt.controller.config log)
    (closed : attempt.controller.state.connectionOpened = false) (around : Surroundings) :
    (attempt.onConnectionRemoteOpen around).channel.Sound attempt.controller.config log := by
  have channel := channel_onConnectionRemoteOpen closed around
  have targets := sound.targets
  refine ⟨channel ▸ targets, ?_⟩
  cases sound.stage with
  | closed silent unopened ungranted noSession noLink noCalls noTokens =>
    have standing : (attempt.newExchange around).Standing [] attempt.channel.tokenRequests none :=
      noTokens ▸ .opening rfl rfl
    have dialogue : attempt.channel.dialogue ++ (attempt.newExchange around).opening =
        (attempt.newExchange around).opening ++ [] := by
      rw [noCalls, List.append_nil, List.nil_append]
    have exchanging : (attempt.onConnectionRemoteOpen around).channel.Exchanging
        (attempt.newExchange around) [] none := by
      rw [channel]
      exact ⟨rfl, rfl, ungranted, noSession, noLink, dialogue, standing⟩
    exact .exchanging exchanging nofun
  | exchanging exchanging => cases closed.symm.trans exchanging.opened
  | granted granted => cases closed.symm.trans granted.opened

theorem targets_heard {attempt : Attempt} (targets : attempt.channel.Targets endpoint)
    (connects : next.trace.connects = attempt.trace.connects) :
    (attempt.heard next).channel.Targets endpoint := by
  simp only [Channel.Targets] at targets ⊢
  rwa [show (attempt.heard next).channel.connects = attempt.channel.connects from connects]

theorem targets_accept {attempt : Attempt} (targets : attempt.channel.Targets endpoint)
    (around : Surroundings) (told : Option AuthOutcome) :
    (attempt.accept around told).channel.Targets endpoint := by
  obtain ⟨_, _, _, _, channel⟩ := channel_accept_eq around told attempt
  rw [channel]
  exact targets

/-- A turn takes the exchange of an attempt on. -/
theorem exchanging_heard {attempt : Attempt}
    (exchanging : attempt.channel.Exchanging cbs claims told)
    (turn : Exchange.Turn around ⟨cbs, attempt.trace⟩ notice report next) :
    ∃ made, (attempt.heard next).channel.Exchanging next.cbs (claims ++ made) (told.or report) ∧
      next.trace.connects = attempt.trace.connects := by
  obtain ⟨opening, -⟩ := CbsSession.opening_congr turn.terms
  obtain ⟨made, calls, all, standing⟩ := CbsSession.Standing.turn exchanging.standing turn
  have dialogue : next.trace.dialogue = next.cbs.opening ++ (claims ++ made) := by
    rw [Trace.dialogue_append calls all, opening, ← List.append_assoc, ← exchanging.dialogue]
    rfl
  refine ⟨made, ?_, Trace.connects_of_dialogue calls all⟩
  exact
    { found := rfl
      opened := exchanging.opened
      ungranted := exchanging.ungranted
      noSession := exchanging.noSession
      noLink := exchanging.noLink
      dialogue := dialogue
      standing := standing }

/-- The turn that succeeds takes a response that accepts the claim. -/
theorem accepts_of_turn {attempt : Attempt} {event : Event}
    (undecided : attempt.controller.verdict = none)
    (told : event.notice? cbs = some notice)
    (turn : Exchange.Turn around ⟨cbs, attempt.trace⟩ notice (some .succeeded) next)
    (sent : next.trace.dialogue = calls) :
    Moment.Accepts ⟨attempt, event⟩ next.cbs.receiver calls := by
  obtain ⟨-, silent, status, description, rfl, good⟩ := turn.of_succeeded
  have receiver := (CbsSession.opening_congr turn.terms).2
  have response : event = .cbsResponse next.cbs.receiver status description := by
    rw [receiver]
    exact Event.eq_cbsResponse_of_notice? told
  have before : attempt.trace.dialogue = calls := (congrArg Trace.dialogue silent).symm.trans sent
  exact ⟨undecided, ⟨status, description, response, good⟩, before⟩

/-- What is told of an exchange that goes on leaves a sound stage: that of a success serves the
application. -/
theorem stage_accept {attempt : Attempt} (exchanging : attempt.channel.Exchanging cbs claims told)
    (around : Surroundings) (untold : report ≠ some .succeeded → told ≠ some .succeeded)
    (earned : report = some .succeeded → told = some .succeeded ∧
      ∃ moment ∈ log, moment.Accepts cbs.receiver (cbs.opening ++ claims)) :
    (attempt.accept around report).channel.Stage attempt.controller.config.serviceLink log := by
  by_cases accepted : report = some .succeeded
  · subst accepted
    obtain ⟨rfl, response⟩ := earned rfl
    obtain ⟨session, link, served, serves, channel⟩ :=
      channel_accept_succeeded exchanging.noSession exchanging.noLink around
    rw [channel]
    exact .granted
      { found := exchanging.found
        opened := exchanging.opened
        granted := rfl
        serves := serves
        dialogue := congrArg (· ++ served) exchanging.dialogue
        standing := exchanging.standing
        earned := response }
  · rw [channel_accept accepted]
    exact .exchanging exchanging (untold accepted)

/-- Once the exchange has succeeded, hearing more changes nothing. -/
theorem granted_heard {attempt : Attempt}
    (granted : attempt.channel.Granted service log cbs claims served)
    (turn : Exchange.Turn around ⟨cbs, attempt.trace⟩ notice report next) :
    report = none ∧ (attempt.heard next).channel.Granted service log next.cbs claims served ∧
      next.trace.connects = attempt.trace.connects := by
  obtain ⟨opening, receiver⟩ := CbsSession.opening_congr turn.terms
  obtain ⟨made, calls, -, standing⟩ := CbsSession.Standing.turn granted.standing turn
  obtain ⟨rfl, silent⟩ := turn.of_done granted.standing.ended
  obtain rfl : made = [] := by simpa [silent] using calls
  rw [List.append_nil] at standing
  have dialogue : next.trace.dialogue = next.cbs.opening ++ claims ++ served := by
    rw [silent, opening]
    exact granted.dialogue
  refine ⟨rfl, ?_, congrArg Trace.connects silent⟩
  exact
    { found := rfl
      opened := granted.opened
      granted := granted.granted
      serves := granted.serves
      dialogue := dialogue
      standing := standing
      earned := by rw [opening, receiver]; exact granted.earned }

/-- Whatever the exchange hears, the channel stays sound; if the claim is accepted now, this moment
has earned the application link. -/
theorem sound_hear {attempt : Attempt} {event : Event}
    (sound : attempt.channel.Sound attempt.controller.config log)
    (undecided : attempt.controller.verdict = none)
    (found : attempt.controller.cbs = some cbs) (told : event.notice? cbs = some notice)
    (around : Surroundings) :
    (attempt.hear around cbs notice).channel.Sound attempt.controller.config
      (log ++ [⟨attempt, event⟩]) := by
  obtain ⟨report, next, turn⟩ := Exchange.exists_turn around ⟨cbs, attempt.trace⟩ notice
  cases sound.stage with
  | closed silent => cases found.symm.trans silent
  | exchanging exchanging untold =>
    obtain rfl := Option.some.inj (found.symm.trans exchanging.found)
    obtain ⟨made, later, connects⟩ := exchanging_heard exchanging turn
    rw [hear_eq_accept attempt exchanging.standing.agrees turn]
    refine ⟨targets_accept (targets_heard sound.targets connects) around report,
      stage_accept later around (fun unaccepted succeeded => ?_) ?_⟩
    · rcases Option.or_eq_some_iff.mp succeeded with earlier | ⟨_, now⟩
      · exact untold earlier
      · exact unaccepted now
    · rintro rfl
      have awaiting := turn.of_succeeded.1
      obtain rfl := exchanging.standing.told_eq_none (by rw [awaiting]; nofun)
      exact ⟨rfl, _, List.mem_concat_self, accepts_of_turn undecided told turn later.dialogue⟩
  | granted granted =>
    obtain rfl := Option.some.inj (found.symm.trans granted.found)
    rw [hear_eq_accept attempt granted.standing.agrees turn]
    -- The exchange is over: there is nothing that a second answer could open.
    obtain ⟨rfl, later, connects⟩ := granted_heard granted turn
    exact ⟨targets_heard sound.targets connects, .granted (later.more _)⟩

theorem sound_react {attempt : Attempt}
    (sound : attempt.channel.Sound attempt.controller.config log)
    (undecided : attempt.controller.verdict = none) (around : Surroundings) (event : Event) :
    (attempt.react around event).channel.Sound attempt.controller.config
      (log ++ [⟨attempt, event⟩]) := by
  have more : attempt.channel.Sound attempt.controller.config (log ++ [⟨attempt, event⟩]) :=
    ⟨sound.targets, sound.stage.more _⟩
  have reaction := reaction_react around attempt event
  generalize attempt.react around event = next at reaction
  cases reaction with
  | connect starts nowhere => exact sound_connect more nowhere
  | begin opens closed => exact sound_begin more closed around
  | hear found told => exact sound_hear sound undecided found told around
  | apart unheard same => rwa [same]

theorem channel_verify (attempt : Attempt) : attempt.verify.2.channel = attempt.channel := by
  simp only [verify, Controller.verify]
  split <;> rfl

theorem config_verify (attempt : Attempt) :
    attempt.verify.2.controller.config = attempt.controller.config := by
  simp only [verify, Controller.verify]
  split <;> rfl

/-- Every course keeps the channel sound. -/
theorem sound_actAll (begun : Attempt.start config containerId = .ok attempt)
    (around : Surroundings) (actions : List Action) :
    (attempt.actAll around actions).controller.config = config ∧
      (attempt.actAll around actions).channel.Sound config (attempt.moments around actions) := by
  obtain ⟨_, rfl⟩ := start_eq_ok_iff.mp begun
  refine @actAll_induction
    (fun log attempt => attempt.controller.config = config ∧ attempt.channel.Sound config log)
    around ?ignore ?react ?verify [] _ ?start actions
  case ignore =>
    rintro log attempt event - ⟨rfl, sound⟩
    exact ⟨rfl, sound.targets, sound.stage.more _⟩
  case react =>
    rintro log attempt event undecided ⟨rfl, sound⟩
    exact ⟨congrArg (·.1) (terms_react around attempt event),
      sound_react sound undecided around event⟩
  case verify =>
    rintro log attempt ⟨rfl, sound⟩
    exact ⟨config_verify attempt, channel_verify attempt ▸ sound⟩
  case start => exact ⟨rfl, .inl ⟨rfl, rfl⟩, .closed rfl rfl rfl rfl rfl rfl rfl⟩

end Attempt

/-- The calls of a claims exchange, up to its claim. -/
def exchangeCalls (session : SessionId) (sender receiver : LinkId) (claim : Claim)
    (refusal : Option String) : List Call :=
  [.openSession session, .openLink session cbsSenderSpec sender,
    .openLink session cbsReceiverSpec receiver, .sendClaim sender claim refusal]

/-- The calls of a course keep their order: those of one claims exchange, and behind a claim that
the engine has taken and the peer accepted, those for the application link. -/
inductive InOrder (service : Option ServiceLink) (log : List Moment) : List Call → Prop
  | exchanging (session : SessionId) (sender receiver : LinkId) (claim : Claim)
      (refusal : Option String)
      (begun : calls <+: exchangeCalls session sender receiver claim refusal) :
      InOrder service log calls
  | serving (configured : service = some link) (application : SessionId) (id : LinkId)
      (earned : ∃ moment ∈ log,
        moment.Accepts receiver (exchangeCalls session sender receiver claim none)) :
      InOrder service log (exchangeCalls session sender receiver claim none ++
        [.openSession application, .openLink application link.spec id])

theorem InOrder.of_claims {cbs : CbsSession} {claims : List Call}
    (begun : claims <+: [.sendClaim cbs.sender claim refusal]) :
    InOrder service log (cbs.opening ++ claims) :=
  .exchanging cbs.session cbs.sender cbs.receiver claim refusal
    ((List.prefix_append_right_inj cbs.opening).mpr begun)

theorem Channel.Stage.inOrder {channel : Channel} (stage : channel.Stage service log) :
    InOrder service log channel.dialogue := by
  cases stage with
  | closed _ _ _ _ _ noCalls =>
    rw [noCalls]
    exact .exchanging ⟨0⟩ ⟨0⟩ ⟨0⟩ (.putToken ⟨0⟩ .jsonWebToken "" "" none) none List.nil_prefix
  | exchanging exchanging =>
    obtain ⟨claim, refusal, begun⟩ := exchanging.standing.claims_le
    rw [exchanging.dialogue]
    exact .of_claims begun
  | granted granted =>
    obtain ⟨claim, rfl⟩ := granted.standing.of_succeeded
    have serves := granted.serves
    rw [granted.dialogue]
    generalize channel.serviceSession = session, channel.serviceLink = id at serves
    cases serves with
    | nothing =>
      rw [List.append_nil]
      exact .of_claims List.prefix_rfl
    | link link session id => exact .serving rfl session id granted.earned

theorem Channel.Stage.tokenRequests_le {channel : Channel} (stage : channel.Stage service log) :
    channel.tokenRequests.length ≤ 1 := by
  cases stage with
  | closed _ _ _ _ _ _ noTokens =>
    rw [noTokens]
    exact Nat.zero_le 1
  | exchanging exchanging => exact exchanging.standing.asked_le
  | granted granted => exact granted.standing.asked_le

/-- Over every course the calls keep their order; an attempt connects at most once, to the endpoint
of its configuration, and asks at most once for a token. -/
theorem calls_in_order (begun : Attempt.start config containerId = .ok attempt)
    (around : Surroundings) (actions : List Action) :
    InOrder config.serviceLink (attempt.moments around actions)
        (attempt.actAll around actions).trace.dialogue ∧
      (attempt.actAll around actions).trace.connects <+: [config.endpoint.connect] ∧
      (attempt.actAll around actions).trace.tokenRequests.length ≤ 1 := by
  obtain ⟨-, targets, stage⟩ := Attempt.sound_actAll begun around actions
  refine ⟨stage.inOrder, ?_, stage.tokenRequests_le⟩
  rcases targets with ⟨_, none⟩ | ⟨_, once⟩
  · exact none ▸ List.nil_prefix
  · exact once ▸ List.prefix_rfl

/-- The accepted claim is followed by a session and a link for the application, a second answer to
it by nothing. -/
theorem calls_in_order_to_service_link :
    let actions := [.handle .reactorInit, .handle .connectionRemoteOpen,
      .handle (.linkRemoteOpen ⟨2⟩), .handle (.linkRemoteOpen ⟨3⟩),
      .handle (.cbsResponse ⟨3⟩ 200 none), .handle (.cbsResponse ⟨3⟩ 200 none), .verify]
    Attempt.start Sample.config ⟨0⟩ = .ok Sample.start ∧
      (Sample.start.actAll Sample.around actions).trace.dialogue.length = 6 ∧
      InOrder Sample.config.serviceLink (Sample.start.moments Sample.around actions)
        (Sample.start.actAll Sample.around actions).trace.dialogue ∧
      (Sample.start.actAll Sample.around actions).trace.connects <+:
        [Sample.config.endpoint.connect] ∧
      (Sample.start.actAll Sample.around actions).trace.tokenRequests.length ≤ 1 :=
  ⟨Sample.begun, rfl, calls_in_order Sample.begun Sample.around _⟩

end AmqpHandshake
