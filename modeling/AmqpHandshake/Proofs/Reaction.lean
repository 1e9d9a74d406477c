import AmqpHandshake.Proofs.Exchange
import AmqpHandshake.Proofs.History

/-! What an event has to do with what an attempt asks of the engine: it connects, or it begins the
claims exchange, or the exchange hears it, or it is apart from all that. -/
namespace AmqpHandshake

/-- Whether a call begins a session, attaches a link or presents a claim. -/
def Call.isDialogue : Call → Bool
  | .openSession _ | .openLink _ _ _ | .sendClaim _ _ _ => true
  | _ => false

/-- Whether a call connects to a host. -/
def Call.isConnect : Call → Bool
  | .connectToHost _ _ => true
  | _ => false

/-- The call that connects to an endpoint. -/
def Endpoint.connect (endpoint : Endpoint) : Call := .connectToHost endpoint.host endpoint.port

namespace Trace

/-- The calls that begin sessions, attach links and present claims. -/
def dialogue (trace : Trace) : List Call := trace.calls.filter Call.isDialogue

/-- The calls that connect to a host. -/
def connects (trace : Trace) : List Call := trace.calls.filter Call.isConnect

theorem connects_of_dialogue {trace later : Trace} (calls : later.calls = trace.calls ++ made)
    (all : ∀ call ∈ made, call.isDialogue = true) : later.connects = trace.connects := by
  have none : made.filter Call.isConnect = [] := by
    refine List.filter_eq_nil_iff.mpr fun call member => ?_
    have talks := all call member
    cases call <;> simp_all [Call.isConnect, Call.isDialogue]
  simp [connects, calls, none]

theorem dialogue_append {trace later : Trace} (calls : later.calls = trace.calls ++ made)
    (all : ∀ call ∈ made, call.isDialogue = true) : later.dialogue = trace.dialogue ++ made := by
  simp [dialogue, calls, List.filter_eq_self.mpr all]

end Trace

/-- The calls that begin an exchange. -/
def CbsSession.opening (cbs : CbsSession) : List Call :=
  [.openSession cbs.session, .openLink cbs.session cbsSenderSpec cbs.sender,
    .openLink cbs.session cbsReceiverSpec cbs.receiver]

/-- What an event tells a claims exchange. -/
def Event.notice? (cbs : CbsSession) : Event → Option CbsNotice
  | .linkRemoteOpen link =>
    if link = cbs.sender || link = cbs.receiver then some (.linkOpen link) else none
  | .cbsResponse link status description => some (.response link status description)
  | .sessionRemoteClose session condition =>
    if cbs.session = session then some (.closed condition) else none
  | .linkRemoteClose link condition =>
    if link = cbs.sender || link = cbs.receiver then some (.closed condition) else none
  | _ => none

theorem Event.notice?_linkRemoteOpen {cbs : CbsSession} {link : LinkId}
    (owns : cbs.ownsLink link = true) :
    Event.notice? cbs (.linkRemoteOpen link) = some (.linkOpen link) :=
  if_pos owns

/-- What an attempt holds of the host it connects to, of its claims exchange, and of the
application link that this earns. -/
@[ext]
structure Channel where
  endpoint : Option Endpoint
  connects : List Call
  cbs : Option CbsSession
  connectionOpened : Bool
  authenticated : Bool
  serviceSession : Option SessionId
  serviceLink : Option LinkId
  dialogue : List Call
  tokenRequests : List TokenRequest

namespace Attempt

def channel (attempt : Attempt) : Channel where
  endpoint := attempt.controller.endpoint
  connects := attempt.trace.connects
  cbs := attempt.controller.cbs
  connectionOpened := attempt.controller.state.connectionOpened
  authenticated := attempt.controller.authenticated
  serviceSession := attempt.controller.serviceSession
  serviceLink := attempt.controller.serviceLink
  dialogue := attempt.trace.dialogue
  tokenRequests := attempt.trace.tokenRequests

/-- An attempt with its claims exchange as it is after a notice. -/
def heard (attempt : Attempt) (next : Exchange) : Attempt :=
  ({ attempt with trace := next.trace } : Attempt).withCbs next.cbs

/-- The claims exchange hears a notice, and the attempt takes what it reports. -/
def hear (around : Surroundings) (cbs : CbsSession) (notice : CbsNotice) (attempt : Attempt) :
    Attempt :=
  let (told, next) := Exchange.hear around ⟨cbs, attempt.trace⟩ notice
  (attempt.heard next).accept around told

/-- How an attempt reacts to an event. -/
inductive Reaction (around : Surroundings) (attempt : Attempt) (event : Event) : Attempt → Prop
  | connect (starts : event = .reactorInit) (nowhere : attempt.controller.endpoint = none) :
      Reaction around attempt event attempt.onReactorInit
  | begin (opens : event = .connectionRemoteOpen)
      (closed : attempt.controller.state.connectionOpened = false) :
      Reaction around attempt event (attempt.onConnectionRemoteOpen around)
  | hear (found : attempt.controller.cbs = some cbs) (told : event.notice? cbs = some notice) :
      Reaction around attempt event (attempt.hear around cbs notice)
  | apart (unheard : ∀ cbs, attempt.controller.cbs = some cbs → event.notice? cbs = none)
      (same : next.channel = attempt.channel) : Reaction around attempt event next

theorem channel_call (attempt : Attempt) {call : Call} (silent : call.isDialogue = false)
    (idle : call.isConnect = false) : (attempt.call call).channel = attempt.channel := by
  simp [channel, Attempt.call, Trace.record, Trace.dialogue, Trace.connects, silent, idle]

theorem channel_putOnLayer (attempt : Attempt) (layer : Option TransportLayer) :
    (attempt.putOnLayer layer).channel = attempt.channel := by
  cases layer with
  | none => rfl
  | some layer => exact channel_call attempt rfl rfl

theorem channel_putOnTls (around : Surroundings) (attempt : Attempt) :
    (attempt.putOnTls around).channel = attempt.channel := by
  unfold putOnTls
  split
  · exact channel_call attempt rfl rfl
  · exact channel_call (attempt.update _) rfl rfl

theorem channel_onReactorInit {attempt : Attempt}
    (nowhere : attempt.controller.endpoint = none) :
    attempt.onReactorInit.channel =
      { attempt.channel with
        endpoint := some attempt.controller.config.endpoint
        connects := attempt.channel.connects ++ [attempt.controller.config.endpoint.connect] } := by
  simp [onReactorInit, nowhere, channel, update, Attempt.call, Trace.record, Trace.connects,
    Trace.dialogue, Endpoint.connect, Call.isConnect, Call.isDialogue]

theorem channel_onConnectionBound (around : Surroundings) (attempt : Attempt) :
    (attempt.onConnectionBound around).channel = attempt.channel := by
  have same (attempt : Attempt) : (attempt.update fun controller =>
      if controller.phase = .initial then { controller with phase := .transportBound }
      else controller).channel = attempt.channel := by
    simp only [update]
    split <;> rfl
  unfold onConnectionBound
  split
  · rfl
  · refine (same _).trans ((channel_putOnLayer ..).trans ((channel_putOnTls ..).trans ?_))
    exact (channel_call _ rfl rfl).trans (channel_putOnLayer ..)

theorem channel_onTransportError (attempt : Attempt) (condition : ErrorCondition) :
    (attempt.update (·.onTransportError condition)).channel = attempt.channel := by
  simp only [update, Controller.onTransportError]
  split <;> rfl

theorem channel_onClose (condition : Option ErrorCondition) (attempt : Attempt) :
    (attempt.onClose condition).channel = attempt.channel := by
  cases condition with
  | none => rfl
  | some condition => exact channel_onTransportError attempt condition

theorem channel_onSessionRemoteOpen (session : SessionId) (attempt : Attempt) :
    (attempt.onSessionRemoteOpen session).channel = attempt.channel := by
  simp only [onSessionRemoteOpen, update]
  split <;> rfl

theorem reaction_onLinkRemoteOpen (around : Surroundings) (attempt : Attempt) (link : LinkId) :
    Reaction around attempt (.linkRemoteOpen link) (attempt.onLinkRemoteOpen around link) := by
  unfold onLinkRemoteOpen
  split
  · rename_i cbs owning
    obtain ⟨found, owns⟩ := Option.filter_eq_some_iff.mp owning
    exact .hear found (Event.notice?_linkRemoteOpen owns)
  · rename_i foreign
    refine .apart (fun cbs found => ?_) rfl
    have unowned := Option.filter_eq_none_iff.mp foreign cbs found
    exact if_neg unowned

theorem reaction_onCbsResponse (around : Surroundings) (attempt : Attempt) (link : LinkId)
    (status : UInt16) (description : Option String) :
    Reaction around attempt (.cbsResponse link status description)
      (attempt.onCbsResponse around link status description) := by
  unfold onCbsResponse
  split
  · rename_i cbs found
    have told : Event.notice? cbs (.cbsResponse link status description) =
      some (.response link status description) := rfl
    exact .hear found told
  · rename_i absent
    exact .apart (fun cbs found => nomatch absent.symm.trans found) rfl

theorem reaction_closed (around : Surroundings) (attempt : Attempt) (event : Event)
    (isOwn : CbsSession → Bool) (condition : Option ErrorCondition)
    (told : ∀ cbs, event.notice? cbs = if isOwn cbs then some (.closed condition) else none) :
    Reaction around attempt event (match attempt.controller.cbs.filter isOwn with
      | some cbs => attempt.onCbsClose around cbs condition
      | none => attempt.onClose condition) := by
  split
  · rename_i cbs owning
    obtain ⟨found, owns⟩ := Option.filter_eq_some_iff.mp owning
    have toldOwn : event.notice? cbs = some (.closed condition) := by rw [told, if_pos owns]
    exact .hear found toldOwn
  · rename_i foreign
    refine .apart (fun cbs found => ?_) (channel_onClose ..)
    have unowned := Option.filter_eq_none_iff.mp foreign cbs found
    rw [told, if_neg (by simpa using unowned)]

theorem reaction_onReactorInit (around : Surroundings) (attempt : Attempt) :
    Reaction around attempt .reactorInit attempt.onReactorInit := by
  cases connected : attempt.controller.endpoint with
  | none => exact .connect rfl connected
  | some endpoint => exact .apart (fun _ _ => rfl) (by simp [onReactorInit, connected])

theorem reaction_onConnectionRemoteOpen (around : Surroundings) (attempt : Attempt) :
    Reaction around attempt .connectionRemoteOpen (attempt.onConnectionRemoteOpen around) := by
  cases opened : attempt.controller.state.connectionOpened with
  | false => exact .begin rfl opened
  | true => exact .apart (fun _ _ => rfl) (by simp [onConnectionRemoteOpen, opened])

theorem reaction_react (around : Surroundings) (attempt : Attempt) (event : Event) :
    Reaction around attempt event (attempt.react around event) := by
  cases event with
  | reactorInit => exact reaction_onReactorInit around attempt
  | connectionBound => exact .apart (fun _ _ => rfl) (channel_onConnectionBound around attempt)
  | connectionInit =>
    exact .apart (fun _ _ => rfl) ((channel_call _ rfl rfl).trans (channel_call _ rfl rfl))
  | connectionRemoteOpen => exact reaction_onConnectionRemoteOpen around attempt
  | sessionRemoteOpen session =>
    exact .apart (fun _ _ => rfl) (channel_onSessionRemoteOpen session attempt)
  | linkRemoteOpen link => exact reaction_onLinkRemoteOpen around attempt link
  | cbsResponse link status description => exact reaction_onCbsResponse ..
  | transportError condition =>
    exact .apart (fun _ _ => rfl) (channel_onTransportError attempt condition)
  | connectionRemoteClose condition =>
    exact .apart (fun _ _ => rfl) (channel_onClose condition attempt)
  | sessionRemoteClose session condition =>
    exact reaction_closed around attempt _ _ condition fun cbs => by simp [Event.notice?]
  | linkRemoteClose link condition =>
    exact reaction_closed around attempt _ _ condition fun cbs => rfl

/-- What concerns the exchange is heard by the exchange. -/
theorem react_eq_hear {attempt : Attempt} (found : attempt.controller.cbs = some cbs)
    (told : event.notice? cbs = some notice) (around : Surroundings) :
    attempt.react around event = attempt.hear around cbs notice := by
  have reaction := reaction_react around attempt event
  generalize attempt.react around event = next at reaction
  cases reaction with
  | connect starts => cases starts ▸ told
  | begin opens => cases opens ▸ told
  | hear here heard =>
    obtain rfl := Option.some.inj (found.symm.trans here)
    obtain rfl := Option.some.inj (told.symm.trans heard)
    rfl
  | apart unheard => cases told.symm.trans (unheard cbs found)

theorem hear_eq_accept (attempt : Attempt) (agrees : cbs.Agrees)
    (turn : Exchange.Turn around ⟨cbs, attempt.trace⟩ notice report next) :
    attempt.hear around cbs notice = (attempt.heard next).accept around report := by
  simp only [hear, turn.hear_eq agrees]

/-- The exchange that an attempt begins when the connection is open. -/
def newExchange (around : Surroundings) (attempt : Attempt) : CbsSession :=
  let (session, trace) := attempt.trace.openSession around.engine
  (CbsSession.start around.engine session attempt.controller.config.credentials
    attempt.controller.config.hostName trace).1

theorem channel_onConnectionRemoteOpen {attempt : Attempt}
    (closed : attempt.controller.state.connectionOpened = false) (around : Surroundings) :
    (attempt.onConnectionRemoteOpen around).channel =
      { attempt.channel with
        cbs := some (attempt.newExchange around)
        connectionOpened := true
        dialogue := attempt.channel.dialogue ++ (attempt.newExchange around).opening } := by
  simp only [onConnectionRemoteOpen, closed]
  rw [Controller.advance_eq, Controller.advance_eq]
  simp [channel, newExchange, CbsSession.start, CbsSession.opening, Trace.openSession,
    Trace.openLink, Trace.dialogue, Trace.connects, Trace.record, Call.isDialogue, Call.isConnect]

/-- What is told, short of success, leaves the channel alone. -/
theorem channel_accept {told : Option AuthOutcome} (ungranted : told ≠ some .succeeded)
    (around : Surroundings) (attempt : Attempt) :
    (attempt.accept around told).channel = attempt.channel := by
  cases told with
  | none => rfl
  | some outcome =>
    cases outcome with
    | succeeded => exact absurd rfl ungranted
    | failed error => rfl

theorem channel_openServiceLink (around : Surroundings) (attempt : Attempt) :
    ∃ session link served, (attempt.openServiceLink around).channel =
      { attempt.channel with
        serviceSession := session
        serviceLink := link
        dialogue := attempt.channel.dialogue ++ served } := by
  unfold openServiceLink
  split
  · rename_i link configured free
    let opened := attempt.trace.openSession around.engine
    let attached := opened.2.openLink around.engine opened.1 link.spec
    refine ⟨some opened.1, some attached.1,
      [.openSession opened.1, .openLink opened.1 link.spec attached.1], ?_⟩
    simp [channel, opened, attached, Trace.openSession, Trace.openLink, Trace.dialogue,
      Trace.connects, Trace.record, Call.isDialogue, Call.isConnect]
  · exact ⟨_, _, [], by rw [List.append_nil]⟩

/-- What is told of an exchange changes nothing of the exchange, and calls only add up. -/
theorem channel_accept_eq (around : Surroundings) (told : Option AuthOutcome) (attempt : Attempt) :
    ∃ authenticated session link served, (attempt.accept around told).channel =
      { attempt.channel with
        authenticated := authenticated
        serviceSession := session
        serviceLink := link
        dialogue := attempt.channel.dialogue ++ served } := by
  by_cases granted : told = some .succeeded
  · subst granted
    exact ⟨true, channel_openServiceLink around
      (attempt.update Controller.onAuthenticationSucceeded)⟩
  · exact ⟨_, _, _, [], by rw [channel_accept granted, List.append_nil]⟩

/-- An attempt that has heard a notice holds the exchange that has heard it. -/
theorem cbs_hear (around : Surroundings) (cbs : CbsSession) (notice : CbsNotice)
    (attempt : Attempt) : (attempt.hear around cbs notice).controller.cbs =
      some (Exchange.hear around ⟨cbs, attempt.trace⟩ notice).2.cbs := by
  simp only [hear]
  obtain ⟨_, _, _, _, next⟩ := channel_accept_eq around _ _
  exact congrArg Channel.cbs next

end Attempt

/-- The outcome that an event tells is what the exchange reports of it. -/
theorem Moment.outcome?_eq {attempt : Attempt} (found : attempt.controller.cbs = some cbs)
    (around : Surroundings) (event : Event) :
    Moment.outcome? around ⟨attempt, event⟩ = (event.notice? cbs).bind fun notice =>
      (Exchange.hear around ⟨cbs, attempt.trace⟩ notice).1 := by
  have owned (isOwn : CbsSession → Bool) (notice : CbsNotice)
      (told : CbsSession → Option AuthOutcome)
      (heard : told cbs = (Exchange.hear around ⟨cbs, attempt.trace⟩ notice).1) :
      (attempt.controller.cbs.filter isOwn).bind told =
        (if isOwn cbs then some notice else none).bind fun notice =>
          (Exchange.hear around ⟨cbs, attempt.trace⟩ notice).1 := by
    rw [found, Option.filter_some]
    split
    · exact heard
    · rfl
  cases event with
  | linkRemoteOpen link => exact owned _ (.linkOpen link) _ rfl
  | cbsResponse link status description =>
    simp only [Moment.outcome?, found]
    rfl
  | sessionRemoteClose session condition =>
    refine (owned _ (.closed condition) _ rfl).trans ?_
    simp [Event.notice?]
  | linkRemoteClose link condition => exact owned _ (.closed condition) _ rfl
  | _ => rfl

theorem Moment.exists_cbs_of_outcome? {moment : Moment}
    (told : moment.outcome? around = some outcome) :
    ∃ cbs, moment.attempt.controller.cbs = some cbs := by
  refine Option.isSome_iff_exists.mp (Option.isSome_iff_ne_none.mpr fun absent => ?_)
  unfold outcome? at told
  split at told <;> simp [Controller.cbsOwning?, absent] at told

end AmqpHandshake
