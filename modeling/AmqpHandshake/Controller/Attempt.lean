import AmqpHandshake.Controller.State
import AmqpHandshake.Engine.Event

/-! An attempt under way: how each event of the engine changes it, and what is asked of the
engine in turn. No handler fails; what goes wrong is kept for the verdict. -/
namespace AmqpHandshake

/-- An attempt and the trace it has left. -/
structure Attempt where
  controller : Controller
  trace : Trace

namespace Attempt

/-- A fresh attempt, when the configuration is valid. -/
def start (config : ConnectionConfig) (containerId : Uuid) : Except HandshakeError Attempt := do
  return { controller := ← Controller.start config containerId, trace := {} }

def update (attempt : Attempt) (change : Controller → Controller) : Attempt :=
  { attempt with controller := change attempt.controller }

def call (attempt : Attempt) (call : Call) : Attempt :=
  { attempt with trace := attempt.trace.record call }

/-- The reactor starts: connect it to the endpoint, once. -/
def onReactorInit (attempt : Attempt) : Attempt :=
  match attempt.controller.endpoint with
  | some _ => attempt
  | none =>
    let endpoint := attempt.controller.config.endpoint
    (attempt.call (.connectToHost endpoint.host endpoint.port)).update fun controller =>
      { controller with endpoint := some endpoint }

/-- Put TLS on. A context that cannot be built fails the attempt. -/
def putOnTls (around : Surroundings) (attempt : Attempt) : Attempt :=
  match attempt.controller.config.tls.resolve around.read with
  | .ok context => attempt.call (.setTls (some context))
  | .error fault => (attempt.update (·.fail (.tls fault.message))).call (.setTls none)

def putOnLayer (layer : Option TransportLayer) (attempt : Attempt) : Attempt :=
  match layer with
  | some layer => attempt.call (.addTransportLayer layer)
  | none => attempt

/-- The transport is bound: put on the layers, or fail without any. -/
def onConnectionBound (around : Surroundings) (attempt : Attempt) : Attempt :=
  match attempt.controller.config.layers with
  | .error cause => attempt.update (·.fail cause)
  | .ok plan =>
    let attempt := attempt.putOnLayer (plan.webSocket.map .webSocket)
    let attempt := attempt.call (.setSaslMechanisms [plan.saslMechanism])
    let attempt := attempt.putOnTls around
    let attempt := attempt.putOnLayer (plan.proxy.map .proxy)
    attempt.update fun controller =>
      if controller.phase = .initial then { controller with phase := .transportBound }
      else controller

def onConnectionInit (attempt : Attempt) : Attempt :=
  (attempt.call (.setHostname attempt.controller.config.hostName)).call
    (.openConnection attempt.controller.containerId)

/-- The peer opened the connection: begin the claims exchange on a session of its own, once. -/
def onConnectionRemoteOpen (around : Surroundings) (attempt : Attempt) : Attempt :=
  if attempt.controller.state.connectionOpened then attempt
  else
    let controller := attempt.controller
    let opened := { controller.state with connectionOpened := true }
    let controller := { controller with state := opened }.advance .connectionOpen
    let (session, trace) := attempt.trace.openSession around.engine
    let (cbs, trace) := CbsSession.start around.engine session controller.config.credentials
      controller.config.hostName trace
    ⟨{ controller with cbs := some cbs }.advance .authenticating, trace⟩

/-- The peer opened a session. That of the claims exchange confirms nothing. -/
def onSessionRemoteOpen (session : SessionId) (attempt : Attempt) : Attempt :=
  attempt.update fun controller =>
    if controller.isCbsSession session then controller
    else { controller with state := { controller.state with sessionOpened := true } }

/-- Open the application link on a session of its own, if one is configured and none is open. -/
def openServiceLink (around : Surroundings) (attempt : Attempt) : Attempt :=
  match attempt.controller.config.serviceLink, attempt.controller.serviceLink with
  | some link, none =>
    let (session, trace) := attempt.trace.openSession around.engine
    let (id, trace) := trace.openLink around.engine session link.spec
    ⟨{ attempt.controller with serviceSession := some session, serviceLink := some id }, trace⟩
  | _, _ => attempt

/-- Take what the claims exchange tells. Success opens the application link. -/
def accept (around : Surroundings) (outcome? : Option AuthOutcome) (attempt : Attempt) : Attempt :=
  match outcome? with
  | none => attempt
  | some outcome =>
    let attempt := attempt.update fun controller => outcome.deliver Controller.listener controller
    if outcome = .succeeded then attempt.openServiceLink around else attempt

def withCbs (attempt : Attempt) (cbs : CbsSession) : Attempt :=
  attempt.update fun controller => { controller with cbs := some cbs }

/-- The peer opened a link: one of the claims exchange, or one of the application. -/
def onLinkRemoteOpen (around : Surroundings) (link : LinkId) (attempt : Attempt) : Attempt :=
  match attempt.controller.cbsOwning? link with
  | some cbs =>
    let (outcome?, cbs, trace) := cbs.onLinkOpen around link attempt.trace
    ({ attempt with trace }.withCbs cbs).accept around outcome?
  | none =>
    attempt.update fun controller =>
      { controller with state := { controller.state with linkOpened := true } }

def onCbsResponse (around : Surroundings) (link : LinkId) (status : UInt16)
    (description : Option String) (attempt : Attempt) : Attempt :=
  match attempt.controller.cbs with
  | some cbs =>
    let (outcome?, cbs) := cbs.onResponse link status description
    (attempt.withCbs cbs).accept around outcome?
  | none => attempt

/-- A close of the connection, or of something outside the claims exchange, is a protocol error
if it tells a condition. -/
def onClose (condition : Option ErrorCondition) (attempt : Attempt) : Attempt :=
  match condition with
  | some condition => attempt.update (·.onTransportError condition)
  | none => attempt

def onCbsClose (around : Surroundings) (cbs : CbsSession) (condition : Option ErrorCondition)
    (attempt : Attempt) : Attempt :=
  let (outcome?, cbs) := cbs.onClosed condition
  (attempt.withCbs cbs).accept around outcome?

def onSessionRemoteClose (around : Surroundings) (session : SessionId)
    (condition : Option ErrorCondition) (attempt : Attempt) : Attempt :=
  match attempt.controller.cbs.filter (·.session = session) with
  | some cbs => attempt.onCbsClose around cbs condition
  | none => attempt.onClose condition

def onLinkRemoteClose (around : Surroundings) (link : LinkId)
    (condition : Option ErrorCondition) (attempt : Attempt) : Attempt :=
  match attempt.controller.cbsOwning? link with
  | some cbs => attempt.onCbsClose around cbs condition
  | none => attempt.onClose condition

/-- What an event does to an attempt that is not decided. -/
def react (around : Surroundings) (attempt : Attempt) : Event → Attempt
  | .reactorInit => attempt.onReactorInit
  | .connectionBound => attempt.onConnectionBound around
  | .connectionInit => attempt.onConnectionInit
  | .connectionRemoteOpen => attempt.onConnectionRemoteOpen around
  | .sessionRemoteOpen session => attempt.onSessionRemoteOpen session
  | .linkRemoteOpen link => attempt.onLinkRemoteOpen around link
  | .cbsResponse link status description => attempt.onCbsResponse around link status description
  | .transportError condition => attempt.update (·.onTransportError condition)
  | .connectionRemoteClose condition => attempt.onClose condition
  | .sessionRemoteClose session condition => attempt.onSessionRemoteClose around session condition
  | .linkRemoteClose link condition => attempt.onLinkRemoteClose around link condition

/-- Take one event. A decided attempt takes none. -/
def handle (around : Surroundings) (attempt : Attempt) (event : Event) : Attempt :=
  match attempt.controller.verdict with
  | some _ => attempt
  | none => attempt.react around event

def handleAll (around : Surroundings) (attempt : Attempt) (events : List Event) : Attempt :=
  events.foldl (handle around) attempt

def verify (attempt : Attempt) : Verdict × Attempt :=
  let (verdict, controller) := attempt.controller.verify
  (verdict, { attempt with controller })

end Attempt

end AmqpHandshake
