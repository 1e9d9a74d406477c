import AmqpHandshake.Engine.Answering
import AmqpHandshake.Proofs.Calls
import AmqpHandshake.Proofs.Confirmations
import AmqpHandshake.Proofs.CutOff

/-! A peer that confirms whatever it is asked for lets every valid configuration through, whose
layers can be planned, whose TLS context can be built and whose credentials give a token. -/
namespace AmqpHandshake

namespace Script

/-- The id that is handed out after a count of others. -/
def nth (script : Script) (count : Nat) : UInt32 :=
  script.ids[count]?.getD (UInt32.ofNat (count - script.ids.length + 1))

/-- The far end that answers as a script says. -/
def peer (script : Script) (read : FileReader) (messageId : Uuid) : Peer :=
  ⟨⟨script.engine, read, messageId⟩, script.reply, script.isDone⟩

/-- Every request is confirmed, the claim is sent and accepted, and the ids that are handed out for
two sessions and three links are all different. -/
structure Cooperates (script : Script) (status : UInt16) : Prop where
  speaks : script.silent = false
  unlimited : script.limit = none
  bind : script.confirmBind = true
  connection : script.confirmConnection = true
  sessions : script.confirmSessions = true
  cbsLinks : script.confirmCbsLinks = true
  serviceLinks : script.confirmServiceLinks = true
  sends : script.refusals[0]?.join = none
  answers : script.status = some status
  accepts : status = 200 ∨ status = 202
  distinct : ∀ first < 5, ∀ second < 5, script.nth first = script.nth second → first = second

variable {script : Script} {status : UInt16}

theorem idAfter_eq (earlier : List Call) :
    script.idAfter earlier = script.nth (earlier.countP handsOutId) := rfl

theorem Cooperates.replies_eq (cooperates : script.Cooperates status) (read : FileReader)
    (messageId : Uuid) (earlier made : List Call) :
    (script.peer read messageId).replies earlier made = script.confirmations earlier made := by
  have unlimited (calls : List Call) : script.allowance calls = none := by
    simp [allowance, cooperates.speaks, cooperates.unlimited]
  induction made generalizing earlier with
  | nil => rfl
  | cons call more ih =>
    simp only [Peer.replies, confirmations, ih]
    simp [peer, reply, unlimited]

theorem Cooperates.nth_ne (cooperates : script.Cooperates status) {first second : Nat}
    (apart : first ≠ second) (inside : first < 5 ∧ second < 5) :
    script.nth first ≠ script.nth second :=
  fun same => apart (cooperates.distinct first inside.1 second inside.2 same)

/-- What the peer says to calls that an event leads to. -/
theorem Cooperates.answers_eq (cooperates : script.Cooperates status) {read : FileReader}
    {messageId : Uuid} {attempt next : Attempt}
    (handled : attempt.handle (script.peer read messageId).around event = next)
    (called : next.trace.calls = attempt.trace.calls ++ made) :
    (script.peer read messageId).answers attempt event =
      script.confirmations attempt.trace.calls made := by
  rw [Peer.answers, handled, called, List.drop_left]
  exact cooperates.replies_eq read messageId _ _

end Script

/-- A number of events are taken off the head of a queue, with nothing to wait for. What the peer
answers to each comes last. -/
inductive Peer.Drains (peer : Peer) : Attempt → List Event → Nat → Attempt → List Event → Prop
  | none : Drains peer attempt queue 0 attempt queue
  | take {event : Event} {rest said left : List Event} {attempt next final : Attempt} {count : Nat}
      (unsettled : attempt.controller.isSettled = false)
      (handled : attempt.handle peer.around event = next)
      (answered : peer.answers attempt event = said)
      (later : Drains peer next (rest ++ said) count final left) :
      Drains peer attempt (event :: rest) (count + 1) final left

namespace Peer.Drains

theorem trans (first : Drains peer attempt queue count between rest)
    (second : Drains peer between rest more final left) :
    Drains peer attempt queue (more + count) final left := by
  induction first with
  | none => exact second
  | take unsettled handled answered later ih => exact .take unsettled handled answered (ih second)

/-- Events that are taken off a queue are handled before any time has gone by. -/
theorem handled {peer : Peer} (drains : peer.Drains attempt queue count final left)
    (timeoutMs : Nat) : ∃ taken : List (Nat × Event), taken.length = count ∧
      Handled peer timeoutMs attempt ⟨0, queue, []⟩ taken ⟨0, left, []⟩ ∧
      attempt.handleAll peer.around (taken.map Prod.snd) = final := by
  induction drains with
  | none => exact ⟨[], rfl, .nil, rfl⟩
  | @take event rest said left attempt next final count unsettled same answered later ih =>
    obtain ⟨taken, length, handled, reaches⟩ := ih
    refine ⟨(0, event) :: taken, congrArg (· + 1) length, ?_, ?_⟩
    · refine Handled.cons_iff.mpr ⟨unsettled, not_overdue_zero timeoutMs, _,
        Supply.next?_of_queue rfl, rfl, ?_⟩
      rw [same, answered]
      exact handled
    · rw [List.map_cons, Attempt.handleAll_cons, same]
      exact reaches

/-- A run that drains its queue and settles by that ends at once. -/
theorem establishWithin?_eq {peer : Peer} {feed : Feed}
    (drains : peer.Drains attempt feed.queued count final left)
    (begun : Attempt.start config containerId = .ok attempt) (nothing : feed.timed = [])
    (settled : final.controller.isSettled = true) (enough : count < turns) (timeoutMs : Nat) :
    establishWithin? turns peer config containerId feed timeoutMs = some (final.conclusion 0) := by
  obtain ⟨taken, length, handled, reaches⟩ := drains.handled timeoutMs
  have cut : CutOff peer feed.held timeoutMs attempt (.ofFeed feed) taken ⟨0, left, []⟩ 0 := by
    rw [Supply.ofFeed, nothing]
    exact ⟨handled, .settled (reaches ▸ settled)⟩
  rw [← reaches]
  apply establishWithin?_of_enough begun cut
  rw [nothing, List.length_nil]
  omega

end Peer.Drains

namespace Script

variable {script : Script} {status : UInt16}

theorem confirmations_dressing (script : Script) (earlier : List Call) (plan : LayerPlan)
    (context : Option TlsContext) : script.confirmations earlier (plan.dressing context) = [] := by
  obtain ⟨webSocket, mechanism, proxy⟩ := plan
  cases webSocket <;> cases proxy <;> rfl

namespace Cooperates

theorem confirmations_connect (cooperates : script.Cooperates status) (earlier : List Call)
    (endpoint : Endpoint) :
    script.confirmations earlier [endpoint.connect] = [.connectionBound, .connectionInit] := by
  simp [confirmations, confirmation, Endpoint.connect, cooperates.bind]

theorem confirmations_introduce (cooperates : script.Cooperates status) (earlier : List Call)
    (hostName : String) (containerId : Uuid) :
    script.confirmations earlier [.setHostname hostName, .openConnection containerId] =
      [.connectionRemoteOpen] := by
  simp [confirmations, confirmation, cooperates.connection]

theorem confirmations_opening (cooperates : script.Cooperates status) (earlier : List Call)
    (cbs : CbsSession) :
    script.confirmations earlier cbs.opening = [.sessionRemoteOpen cbs.session,
      .linkRemoteOpen cbs.sender, .linkRemoteOpen cbs.receiver] := by
  simp [confirmations, confirmation, CbsSession.opening, cbsSenderSpec, cbsReceiverSpec,
    cooperates.sessions, cooperates.cbsLinks]

/-- The claim is answered on the receiving link of the exchange that was begun last. -/
theorem confirmations_claim (cooperates : script.Cooperates status) (earlier : List Call)
    (cbs : CbsSession) (claim : Claim) :
    script.confirmations (earlier ++ cbs.opening) [.sendClaim cbs.sender claim none] =
      [.cbsResponse cbs.receiver status script.description] := by
  simp [confirmations, confirmation, CbsSession.opening, answeringLink?, cbsReceiverSpec,
    cooperates.answers]

theorem confirmations_serving (cooperates : script.Cooperates status) (earlier : List Call)
    (session : SessionId) (spec : LinkSpec) (link : LinkId) :
    script.confirmations earlier [.openSession session, .openLink session spec link] =
      [.sessionRemoteOpen session, .linkRemoteOpen link] := by
  simp [confirmations, confirmation, cooperates.sessions, cooperates.cbsLinks,
    cooperates.serviceLinks]

end Cooperates

end Script

namespace Attempt

/-- The attempt that has asked for a connection. -/
def connecting (config : ConnectionConfig) (containerId : Uuid) (plan : LayerPlan)
    (context : TlsContext) : Attempt :=
  ⟨{ (fresh config containerId).controller with
      phase := .transportBound
      endpoint := some config.endpoint },
    { calls := config.endpoint.connect :: plan.dressing (some context) ++
        [.setHostname config.hostName, .openConnection containerId] }⟩

/-- The attempt whose connection is open, with a claims exchange under way. -/
def exchanging (config : ConnectionConfig) (containerId : Uuid) (cbs : CbsSession)
    (trace : Trace) : Attempt :=
  ⟨{ (fresh config containerId).controller with
      state := { connectionOpened := true }
      phase := .authenticating
      endpoint := some config.endpoint
      cbs := some cbs }, trace⟩

/-- The attempt whose claim was accepted, with the application link asked for. -/
def serviced (config : ConnectionConfig) (containerId : Uuid) (cbs : CbsSession)
    (session : SessionId) (link : LinkId) (trace : Trace) : Attempt :=
  ⟨{ (exchanging config containerId cbs trace).controller with
      authenticated := true
      serviceSession := some session
      serviceLink := some link }, trace⟩

variable {config : ConnectionConfig} {containerId : Uuid} {cbs : CbsSession} {trace : Trace}

theorem handle_own_session (around : Surroundings) :
    (exchanging config containerId cbs trace).handle around (.sessionRemoteOpen cbs.session) =
      exchanging config containerId cbs trace := by
  have own : (exchanging config containerId cbs trace).controller.isCbsSession cbs.session =
      true := by
    simp [exchanging, Controller.isCbsSession]
  rw [handle_undecided rfl]
  show onSessionRemoteOpen _ _ = _
  rw [onSessionRemoteOpen_eq, own]
  exact confirm_none _

theorem handle_foreign_session {attempt : Attempt} (undecided : attempt.controller.verdict = none)
    {session : SessionId} (foreign : attempt.controller.isCbsSession session = false)
    (around : Surroundings) :
    attempt.handle around (.sessionRemoteOpen session) = attempt.confirm true false := by
  rw [handle_undecided undecided]
  show onSessionRemoteOpen _ _ = _
  rw [onSessionRemoteOpen_eq, foreign, Bool.not_false]

theorem handle_foreign_link {attempt : Attempt} (undecided : attempt.controller.verdict = none)
    {link : LinkId} (foreign : attempt.controller.isCbsLink link = false)
    (around : Surroundings) :
    attempt.handle around (.linkRemoteOpen link) = attempt.confirm false true := by
  rw [handle_undecided undecided]
  exact onLinkRemoteOpen_of_foreign foreign around

theorem handle_first_link (agrees : cbs.Agrees) (owns : cbs.ownsLink link = true)
    (waiting : ¬ cbs.Completes link) (around : Surroundings) :
    (exchanging config containerId cbs trace).handle around (.linkRemoteOpen link) =
      exchanging config containerId (cbs.markOpen link) trace := by
  have heard := Event.notice?_linkRemoteOpen owns
  have found : (exchanging config containerId cbs trace).controller.cbs = some cbs := rfl
  have turn : Exchange.Turn around ⟨cbs, trace⟩ (.linkOpen link) none ⟨cbs.markOpen link, trace⟩ :=
    .mark waiting
  rw [handle_undecided rfl, react_eq_hear found heard, hear_eq_accept _ agrees turn]
  rfl

theorem handle_last_link (agrees : cbs.Agrees) (completes : cbs.Completes link)
    {around : Surroundings}
    (yields : cbs.credentials.Yields around.messageId cbs.audience trace.tokenRequests claim asked)
    (taken : around.engine.refusal trace.calls cbs.sender claim = none) :
    (exchanging config containerId cbs trace).handle around (.linkRemoteOpen link) =
      exchanging config containerId { cbs.markOpen link with phase := .awaitingResponse }
        ⟨trace.calls ++ [.sendClaim cbs.sender claim none], asked⟩ := by
  have heard := Event.notice?_linkRemoteOpen completes.owns
  have found : (exchanging config containerId cbs trace).controller.cbs = some cbs := rfl
  have turn : Exchange.Turn around ⟨cbs, trace⟩ (.linkOpen link) none
      ⟨{ cbs.markOpen link with phase := .awaitingResponse },
        ⟨trace.calls ++ [.sendClaim cbs.sender claim none], asked⟩⟩ :=
    .send completes yields taken
  rw [handle_undecided rfl, react_eq_hear found heard, hear_eq_accept _ agrees turn]
  rfl

theorem handle_acceptance (agrees : cbs.Agrees) (awaiting : cbs.phase = .awaitingResponse)
    (good : status = 200 ∨ status = 202) (description : Option String)
    (configured : config.serviceLink = some link) {around : Surroundings} {id : LinkId}
    (ids : (exchanging config containerId cbs trace).serviceIds around link = (session, id)) :
    (exchanging config containerId cbs trace).handle around
        (.cbsResponse cbs.receiver status description) =
      serviced config containerId cbs.settle session id
        (trace.recordAll [.openSession session, .openLink session link.spec id]) := by
  have found : (exchanging config containerId cbs trace).controller.cbs = some cbs := rfl
  have turn : Exchange.Turn around ⟨cbs, trace⟩ (.response cbs.receiver status description)
      (some .succeeded) ⟨cbs.settle, trace⟩ := by
    rw [← CbsSession.outcomeOf_accepted good description]
    exact .answer awaiting
  obtain rfl := congrArg Prod.fst ids
  obtain rfl := congrArg Prod.snd ids
  rw [handle_undecided rfl, react_eq_hear found rfl, hear_eq_accept _ agrees turn]
  exact openServiceLink_of_free configured rfl around

end Attempt

namespace Script

/-- The claims exchange that a script's first ids are for. -/
def exchange (script : Script) (config : ConnectionConfig) : CbsSession where
  session := ⟨script.nth 0⟩
  sender := ⟨script.nth 1⟩
  receiver := ⟨script.nth 2⟩
  senderOpen := false
  receiverOpen := false
  credentials := config.credentials
  audience := config.hostName
  phase := .openingLinks
  slot := {}

/-- The exchange once its sending link is open. -/
def half (script : Script) (config : ConnectionConfig) : CbsSession :=
  { script.exchange config with senderOpen := true }

/-- The exchange that has sent its claim. -/
def waiting (script : Script) (config : ConnectionConfig) : CbsSession :=
  { script.half config with
    receiverOpen := true
    phase := .awaitingResponse }

/-- The attempt that has sent its claim. -/
def claiming (script : Script) (config : ConnectionConfig) (containerId : Uuid) (plan : LayerPlan)
    (context : TlsContext) (claim : Claim) (asked : List TokenRequest) : Attempt :=
  .exchanging config containerId (script.waiting config)
    ⟨(Attempt.connecting config containerId plan context).trace.calls ++
      (script.exchange config).opening ++ [.sendClaim ⟨script.nth 1⟩ claim none], asked⟩

/-- The calls for an application link, with a script's last ids. -/
def serving (script : Script) (link : ServiceLink) : List Call :=
  [.openSession ⟨script.nth 3⟩, .openLink ⟨script.nth 3⟩ link.spec ⟨script.nth 4⟩]

variable {script : Script} {status : UInt16} {read : FileReader} {messageId containerId : Uuid}
  {config : ConnectionConfig} {plan : LayerPlan} {context : TlsContext}

theorem agrees_exchange (script : Script) (config : ConnectionConfig) :
    (script.exchange config).Agrees := by
  simp [CbsSession.Agrees, exchange]

theorem agrees_half (script : Script) (config : ConnectionConfig) :
    (script.half config).Agrees := by
  simp [CbsSession.Agrees, half, exchange]

theorem agrees_waiting (script : Script) (config : ConnectionConfig) :
    (script.waiting config).Agrees := by
  simp [CbsSession.Agrees, waiting, half, exchange]

theorem markOpen_exchange (script : Script) (config : ConnectionConfig) :
    (script.exchange config).markOpen ⟨script.nth 1⟩ = script.half config :=
  if_pos rfl

/-- With its sending link alone an exchange does not present its claim. -/
theorem not_completes_exchange (script : Script) (config : ConnectionConfig) :
    ¬ (script.exchange config).Completes ⟨script.nth 1⟩ := by
  intro completes
  have opened := completes.receiver
  rw [markOpen_exchange] at opened
  cases opened

theorem Cooperates.markOpen_half (cooperates : script.Cooperates status)
    (config : ConnectionConfig) :
    (script.half config).markOpen ⟨script.nth 2⟩ =
      { script.half config with receiverOpen := true } := by
  have apart : script.nth 2 ≠ script.nth 1 := cooperates.nth_ne (by decide) (by decide)
  simp [CbsSession.markOpen, half, exchange, apart]

theorem Cooperates.completes_half (cooperates : script.Cooperates status)
    (config : ConnectionConfig) : (script.half config).Completes ⟨script.nth 2⟩ := by
  constructor
  · simp [CbsSession.ownsLink, half, exchange]
  · rfl
  · rw [cooperates.markOpen_half]
    rfl
  · rw [cooperates.markOpen_half]

/-- Up to where the connection opens, no id is handed out and no claim is presented. -/
theorem isDialogue_connecting (config : ConnectionConfig) (containerId : Uuid) (plan : LayerPlan)
    (context : TlsContext) :
    ∀ call ∈ (Attempt.connecting config containerId plan context).trace.calls,
      call.isDialogue = false := by
  obtain ⟨webSocket, mechanism, proxy⟩ := plan
  cases webSocket <;> cases proxy <;>
    simp [Attempt.connecting, LayerPlan.dressing, Endpoint.connect, Call.isDialogue]

theorem countP_connecting {counts : Call → Bool} (config : ConnectionConfig) (containerId : Uuid)
    (plan : LayerPlan) (context : TlsContext)
    (dialogue : ∀ call, counts call = true → call.isDialogue = true) :
    (Attempt.connecting config containerId plan context).trace.calls.countP counts = 0 := by
  refine List.countP_eq_zero.mpr fun call member counted => ?_
  have silent := isDialogue_connecting config containerId plan context call member
  rw [dialogue call counted] at silent
  cases silent

theorem isDialogue_of_handsOutId (call : Call) (counted : handsOutId call = true) :
    call.isDialogue = true := by
  cases call <;> first | rfl | cases counted

theorem isDialogue_of_presentsClaim (call : Call) (counted : presentsClaim call = true) :
    call.isDialogue = true := by
  cases call <;> first | rfl | cases counted

/-- The first ids go to the claims exchange. -/
theorem newExchange_connecting (script : Script) (read : FileReader) (messageId : Uuid)
    (config : ConnectionConfig) (containerId : Uuid) (plan : LayerPlan) (context : TlsContext) :
    (Attempt.connecting config containerId plan context).newExchange
      (script.peer read messageId).around = script.exchange config := by
  have none := countP_connecting config containerId plan context isDialogue_of_handsOutId
  simp only [Attempt.newExchange, CbsSession.start, Trace.openSession, Trace.openLink, Trace.record,
    peer, engine, idAfter_eq, List.countP_append, none]
  rfl

theorem handle_remoteOpen (script : Script) (read : FileReader) (messageId : Uuid)
    (config : ConnectionConfig) (containerId : Uuid) (plan : LayerPlan) (context : TlsContext) :
    let attempt := Attempt.connecting config containerId plan context
    attempt.handle (script.peer read messageId).around .connectionRemoteOpen =
      .exchanging config containerId (script.exchange config)
        (attempt.trace.recordAll (script.exchange config).opening) := by
  intro attempt
  rw [Attempt.handle_undecided rfl]
  have opens : attempt.onConnectionRemoteOpen (script.peer read messageId).around = _ :=
    Attempt.onConnectionRemoteOpen_of_closed rfl _
  rw [newExchange_connecting] at opens
  exact opens

/-- An event is taken off the queue, and what the script has to say to its calls comes last. -/
theorem Cooperates.drains_one (cooperates : script.Cooperates status) {attempt next : Attempt}
    {event : Event} {rest said : List Event} {made : List Call}
    (unsettled : attempt.controller.isSettled = false)
    (handled : attempt.handle (script.peer read messageId).around event = next)
    (called : next.trace.calls = attempt.trace.calls ++ made)
    (confirmed : script.confirmations attempt.trace.calls made = said) :
    (script.peer read messageId).Drains attempt (event :: rest) 1 next (rest ++ said) :=
  .take unsettled handled ((cooperates.answers_eq handled called).trans confirmed) .none

namespace Cooperates

/-- The peer binds the transport, and the connection is asked for. -/
theorem drains_connecting (cooperates : script.Cooperates status)
    (planned : config.layers = .ok plan) (resolved : config.tls.resolve read = .ok context) :
    (script.peer read messageId).Drains (.fresh config containerId) [.reactorInit] 3
      (.connecting config containerId plan context) [.connectionRemoteOpen] := by
  let connected : Attempt :=
    ⟨{ (Attempt.fresh config containerId).controller with endpoint := some config.endpoint },
      { calls := [config.endpoint.connect] }⟩
  let dressed : Attempt :=
    ⟨connected.controller.bound, connected.trace.recordAll (plan.dressing (some context))⟩
  have binds : (script.peer read messageId).Drains (.fresh config containerId) [.reactorInit] 1
      connected [.connectionBound, .connectionInit] :=
    cooperates.drains_one rfl rfl rfl (cooperates.confirmations_connect _ _)
  have dresses : (script.peer read messageId).Drains connected [.connectionBound, .connectionInit]
      1 dressed [.connectionInit] :=
    cooperates.drains_one rfl (Attempt.onConnectionBound_of_resolved planned _ resolved) rfl
      (script.confirmations_dressing _ _ _)
  have introduces : (script.peer read messageId).Drains dressed [.connectionInit] 1
      (.connecting config containerId plan context) [.connectionRemoteOpen] :=
    cooperates.drains_one rfl (Attempt.onConnectionInit_eq dressed) rfl
      (cooperates.confirmations_introduce _ config.hostName containerId)
  exact binds.trans (dresses.trans introduces)

/-- The connection opens, and so do the session and the links of the claims exchange. The claim is
sent as the last link opens. -/
theorem drains_exchanging (cooperates : script.Cooperates status)
    (yields : config.credentials.Yields messageId config.hostName [] claim asked) :
    (script.peer read messageId).Drains (.connecting config containerId plan context)
      [.connectionRemoteOpen] 4 (script.claiming config containerId plan context claim asked)
      [.cbsResponse ⟨script.nth 2⟩ status script.description] := by
  let attempt := Attempt.connecting config containerId plan context
  let trace := attempt.trace.recordAll (script.exchange config).opening
  let begun := Attempt.exchanging config containerId (script.exchange config) trace
  let marked := Attempt.exchanging config containerId (script.half config) trace
  have opens : (script.peer read messageId).Drains attempt [.connectionRemoteOpen] 1 begun
      [.sessionRemoteOpen ⟨script.nth 0⟩, .linkRemoteOpen ⟨script.nth 1⟩,
        .linkRemoteOpen ⟨script.nth 2⟩] :=
    cooperates.drains_one rfl (script.handle_remoteOpen ..) rfl
      (cooperates.confirmations_opening _ (script.exchange config))
  have passes : (script.peer read messageId).Drains begun
      [.sessionRemoteOpen ⟨script.nth 0⟩, .linkRemoteOpen ⟨script.nth 1⟩,
        .linkRemoteOpen ⟨script.nth 2⟩] 1 begun
      [.linkRemoteOpen ⟨script.nth 1⟩, .linkRemoteOpen ⟨script.nth 2⟩] :=
    cooperates.drains_one rfl (Attempt.handle_own_session _) (List.append_nil _).symm rfl
  have marks : (script.peer read messageId).Drains begun
      [.linkRemoteOpen ⟨script.nth 1⟩, .linkRemoteOpen ⟨script.nth 2⟩] 1 marked
      [.linkRemoteOpen ⟨script.nth 2⟩] := by
    have owns : (script.exchange config).ownsLink ⟨script.nth 1⟩ = true := by
      simp [CbsSession.ownsLink, exchange]
    have handled : begun.handle (script.peer read messageId).around
        (.linkRemoteOpen ⟨script.nth 1⟩) = _ :=
      Attempt.handle_first_link (script.agrees_exchange config) owns
        (script.not_completes_exchange config) _
    rw [markOpen_exchange] at handled
    exact cooperates.drains_one rfl handled (List.append_nil _).symm rfl
  have sends : (script.peer read messageId).Drains marked [.linkRemoteOpen ⟨script.nth 2⟩] 1
      (script.claiming config containerId plan context claim asked)
      [.cbsResponse ⟨script.nth 2⟩ status script.description] := by
    have taken : script.engine.refusal trace.calls ⟨script.nth 1⟩ claim = none := by
      have none : attempt.trace.calls.countP presentsClaim = 0 :=
        countP_connecting config containerId plan context isDialogue_of_presentsClaim
      simp only [engine, trace, Trace.recordAll, List.countP_append, none]
      exact cooperates.sends
    have handled : marked.handle (script.peer read messageId).around
        (.linkRemoteOpen ⟨script.nth 2⟩) = _ :=
      Attempt.handle_last_link (script.agrees_half config) (cooperates.completes_half config) yields
        taken
    rw [cooperates.markOpen_half] at handled
    exact cooperates.drains_one rfl handled rfl
      (cooperates.confirmations_claim attempt.trace.calls (script.exchange config) claim)
  exact opens.trans (passes.trans (marks.trans sends))

/-- The last ids go to the application session and link. -/
theorem serviceIds_claiming (script : Script) (read : FileReader) (messageId : Uuid)
    (config : ConnectionConfig) (containerId : Uuid) (plan : LayerPlan) (context : TlsContext)
    (claim : Claim) (asked : List TokenRequest) (link : ServiceLink) :
    (script.claiming config containerId plan context claim asked).serviceIds
      (script.peer read messageId).around link = (⟨script.nth 3⟩, ⟨script.nth 4⟩) := by
  have handedOut : (script.claiming config containerId plan context claim
      asked).trace.calls.countP handsOutId = 3 := by
    have none := countP_connecting config containerId plan context isDialogue_of_handsOutId
    simp only [claiming, Attempt.exchanging, List.countP_append, none]
    rfl
  simp [Attempt.serviceIds, Trace.openSession, Trace.openLink, Trace.record, peer, engine,
    idAfter_eq, List.countP_append, handsOutId, handedOut]

/-- The claim is accepted, and the application session and link open. -/
theorem drains_serving (cooperates : script.Cooperates status)
    (configured : config.serviceLink = some link) :
    let attempt := script.claiming config containerId plan context claim asked
    (script.peer read messageId).Drains attempt
      [.cbsResponse ⟨script.nth 2⟩ status script.description] 3
      ((Attempt.serviced config containerId (script.waiting config).settle ⟨script.nth 3⟩
        ⟨script.nth 4⟩ (attempt.trace.recordAll (script.serving link))).confirm true true) [] := by
  intro attempt
  let serviced := Attempt.serviced config containerId (script.waiting config).settle
    ⟨script.nth 3⟩ ⟨script.nth 4⟩ (attempt.trace.recordAll (script.serving link))
  have accepts : (script.peer read messageId).Drains attempt
      [.cbsResponse ⟨script.nth 2⟩ status script.description] 1 serviced
      [.sessionRemoteOpen ⟨script.nth 3⟩, .linkRemoteOpen ⟨script.nth 4⟩] := by
    have handled : attempt.handle (script.peer read messageId).around
        (.cbsResponse ⟨script.nth 2⟩ status script.description) = serviced :=
      Attempt.handle_acceptance (script.agrees_waiting config) rfl cooperates.accepts _ configured
        (serviceIds_claiming ..)
    exact cooperates.drains_one rfl handled rfl
      (cooperates.confirmations_serving _ _ link.spec _)
  have opensSession : (script.peer read messageId).Drains serviced
      [.sessionRemoteOpen ⟨script.nth 3⟩, .linkRemoteOpen ⟨script.nth 4⟩] 1
      (serviced.confirm true false) [.linkRemoteOpen ⟨script.nth 4⟩] := by
    have foreign : serviced.controller.isCbsSession ⟨script.nth 3⟩ = false := by
      have apart : script.nth 0 ≠ script.nth 3 := cooperates.nth_ne (by decide) (by decide)
      simp [serviced, Attempt.serviced, Attempt.exchanging, Controller.isCbsSession,
        CbsSession.settle, waiting, half, exchange, apart]
    exact cooperates.drains_one rfl (Attempt.handle_foreign_session rfl foreign _)
      (List.append_nil _).symm rfl
  have opensLink : (script.peer read messageId).Drains (serviced.confirm true false)
      [.linkRemoteOpen ⟨script.nth 4⟩] 1 (serviced.confirm true true) [] := by
    have foreign : (serviced.confirm true false).controller.isCbsLink ⟨script.nth 4⟩ = false := by
      have notSender : script.nth 4 ≠ script.nth 1 := cooperates.nth_ne (by decide) (by decide)
      have notReceiver : script.nth 4 ≠ script.nth 2 := cooperates.nth_ne (by decide) (by decide)
      simp [serviced, Attempt.serviced, Attempt.exchanging, Attempt.confirm, Attempt.update,
        Controller.confirm, Controller.isCbsLink, CbsSession.settle, waiting, half, exchange,
        notSender, notReceiver]
    have handled : (serviced.confirm true false).handle (script.peer read messageId).around
        (.linkRemoteOpen ⟨script.nth 4⟩) = _ := Attempt.handle_foreign_link rfl foreign _
    rw [Attempt.confirm_confirm] at handled
    exact cooperates.drains_one rfl handled (List.append_nil _).symm rfl
  exact accepts.trans (opensSession.trans opensLink)

end Cooperates

/-- A peer that confirms every request and accepts the claim brings a valid configuration with an
application link to success at once, whatever the timeout is, if its layers can be planned, its TLS
context can be built and its credentials give a token. The calls are exactly those listed, with a
web socket exactly if the protocol asks for one, and a tunnel exactly if a proxy is configured. -/
theorem Cooperates.establishes (cooperates : script.Cooperates status)
    (valid : config.validate = .ok ()) (configured : config.serviceLink = some link)
    (planned : config.layers = .ok plan) (resolved : config.tls.resolve read = .ok context)
    (yields : config.credentials.Yields messageId config.hostName [] claim asked)
    (containerId : Uuid) (held : Bool) (timeoutMs : Nat) :
    establish (script.peer read messageId) config containerId ⟨[.reactorInit], [], held⟩ timeoutMs =
      some {
        result := .ok {
          endpoint := some config.endpoint
          containerId
          authenticated := true
          elapsedMs := 0 }
        waitedMs := 0
        trace := {
          calls := [config.endpoint.connect] ++ plan.dressing (some context) ++
            [.setHostname config.hostName, .openConnection containerId,
              .openSession ⟨script.nth 0⟩,
              .openLink ⟨script.nth 0⟩ cbsSenderSpec ⟨script.nth 1⟩,
              .openLink ⟨script.nth 0⟩ cbsReceiverSpec ⟨script.nth 2⟩,
              .sendClaim ⟨script.nth 1⟩ claim none,
              .openSession ⟨script.nth 3⟩,
              .openLink ⟨script.nth 3⟩ link.spec ⟨script.nth 4⟩]
          tokenRequests := asked } } ∧
      plan.webSocket.isSome = config.protocol.isWebSocket ∧
      plan.saslMechanism = anonymousMechanism ∧ plan.proxy.isSome = config.proxy.isSome := by
  refine ⟨?_, ConnectionConfig.layers_ok planned⟩
  have connects : (script.peer read messageId).Drains (.fresh config containerId) _ 3
      (.connecting config containerId plan context) _ :=
    cooperates.drains_connecting planned resolved
  have exchanges : (script.peer read messageId).Drains _ _ 4
      (script.claiming config containerId plan context claim asked) _ :=
    cooperates.drains_exchanging yields
  have serves : (script.peer read messageId).Drains
      (script.claiming config containerId plan context claim asked) _ 3 _ _ :=
    cooperates.drains_serving configured
  have drains := connects.trans (exchanges.trans serves)
  have begun : Attempt.start config containerId = .ok (.fresh config containerId) :=
    Attempt.start_eq_ok_iff.mpr ⟨valid, rfl⟩
  -- With one event at the start there are fifteen turns; ten events and the end take eleven.
  have done : establishWithin? 15 (script.peer read messageId) config containerId
      ⟨[.reactorInit], [], held⟩ timeoutMs = some _ :=
    drains.establishWithin?_eq begun rfl rfl (by decide) timeoutMs
  refine done.trans (congrArg (fun calls => some (Establishment.mk
    (.ok ⟨some config.endpoint, containerId, true, 0⟩) 0 ⟨calls, asked⟩)) ?_)
  simp [claiming, serving, exchange, Attempt.connecting, Attempt.exchanging, CbsSession.opening]

/-- A hub that is reached on a web socket through a proxy, with ids that are not in order, a claim
that is answered with 202, and no time at all. -/
theorem Cooperates.establishes_through_proxy :
    ∃ trace, establish
      (({ ids := [7, 3, 9, 1, 4], status := some 202 } : Script).peer Sample.around.read ⟨0⟩)
      { Sample.config with
        protocol := .amqpsWs
        proxy := some (.plain "proxy.example.net" 8080) } ⟨0⟩ ⟨[.reactorInit], [], true⟩ 0 =
      some ⟨.ok ⟨some ⟨"proxy.example.net", 8080⟩, ⟨0⟩, true, 0⟩, 0, trace⟩ ∧
      trace.calls.length = 13 := by
  have cooperates : Cooperates { ids := [7, 3, 9, 1, 4], status := some 202 } 202 :=
    ⟨rfl, rfl, rfl, rfl, rfl, rfl, rfl, rfl, rfl, .inr rfl, by decide⟩
  exact ⟨_, (cooperates.establishes rfl rfl rfl rfl (.signature rfl) ⟨0⟩ true 0).1, rfl⟩

end Script

end AmqpHandshake
