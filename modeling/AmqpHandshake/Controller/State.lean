import AmqpHandshake.Cbs.Session

/-! The state of one connection attempt. -/
namespace AmqpHandshake

/-- How far an attempt has come. -/
inductive Phase
  | initial
  | transportBound
  | connectionOpen
  | authenticating
  | succeeded
  | failed
  | timedOut
deriving DecidableEq, Repr

def Phase.name : Phase → String
  | .initial => "Initial"
  | .transportBound => "TransportBound"
  | .connectionOpen => "ConnectionOpen"
  | .authenticating => "Authenticating"
  | .succeeded => "Succeeded"
  | .failed => "Failed"
  | .timedOut => "TimedOut"

def Phase.isTerminal (phase : Phase) : Bool :=
  phase = .succeeded || phase = .failed || phase = .timedOut

/-- What the peer has confirmed, and the first failure. -/
structure HandshakeState where
  connectionOpened : Bool := false
  sessionOpened : Bool := false
  linkOpened : Bool := false
  savedFailure : Option FailureCause := none
deriving DecidableEq, Repr

namespace HandshakeState

def allOpened (state : HandshakeState) : Bool :=
  state.connectionOpened && state.sessionOpened && state.linkOpened

/-- Keep the first failure. -/
def saveFailure (state : HandshakeState) (cause : FailureCause) : HandshakeState :=
  { state with savedFailure := some (state.savedFailure.getD cause) }

end HandshakeState

/-- How an attempt was decided. -/
abbrev Verdict := Except HandshakeError Unit

/-- One connection attempt. -/
structure Controller where
  config : ConnectionConfig
  containerId : Uuid
  state : HandshakeState
  phase : Phase
  endpoint : Option Endpoint
  protocolError : Option ErrorCondition
  cbs : Option CbsSession
  authenticated : Bool
  serviceSession : Option SessionId
  serviceLink : Option LinkId
  verdict : Option Verdict

namespace Controller

/-- A fresh attempt, when the configuration is valid. -/
def start (config : ConnectionConfig) (containerId : Uuid) : Except HandshakeError Controller := do
  config.validate
  return { config, containerId, state := {}, phase := .initial, endpoint := none
           protocolError := none, cbs := none, authenticated := false, serviceSession := none
           serviceLink := none, verdict := none }

/-- Whether there is nothing left to wait for. -/
def isSettled (controller : Controller) : Bool :=
  controller.verdict.isSome || controller.protocolError.isSome ||
    controller.state.savedFailure.isSome ||
    (controller.state.allOpened && controller.authenticated)

def isCbsSession (controller : Controller) (session : SessionId) : Bool :=
  controller.cbs.any (·.session = session)

/-- The claims exchange, if a link is one of its links. -/
def cbsOwning? (controller : Controller) (link : LinkId) : Option CbsSession :=
  controller.cbs.filter (·.ownsLink link)

/-- Fail, keeping the first cause. -/
def fail (controller : Controller) (cause : FailureCause) : Controller :=
  { controller with state := controller.state.saveFailure cause, phase := .failed }

/-- Go on to a phase, unless the attempt has failed. -/
def advance (controller : Controller) (phase : Phase) : Controller :=
  if controller.phase = .failed then controller else { controller with phase }

/-- The engine observed a protocol error. The first one is kept. -/
def onTransportError (controller : Controller) (condition : ErrorCondition) : Controller :=
  match controller.protocolError with
  | some _ => controller
  | none => { controller with protocolError := some condition, phase := .failed }

def onAuthenticationSucceeded (controller : Controller) : Controller :=
  { controller with authenticated := true }

def onAuthenticationFailed (controller : Controller) (error : AuthError) : Controller :=
  controller.fail (.authentication error)

def listener : AuthenticationListener Controller :=
  ⟨onAuthenticationSucceeded, onAuthenticationFailed⟩

/-- What the attempt comes to as it stands: a protocol error before any other failure, and a
missing confirmation last. -/
def assess (controller : Controller) : Verdict :=
  match controller.protocolError, controller.state.savedFailure with
  | some condition, _ => .error (.transportProtocol condition)
  | none, some cause => .error (.connectionFailed cause)
  | none, none => if controller.state.allOpened then .ok () else .error .timeout

def phaseOf : Verdict → Phase
  | .ok () => .succeeded
  | .error .timeout => .timedOut
  | .error _ => .failed

/-- Decide the attempt. The first decision stands. -/
def verify (controller : Controller) : Verdict × Controller :=
  match controller.verdict with
  | some verdict => (verdict, controller)
  | none =>
    let verdict := controller.assess
    (verdict, { controller with phase := phaseOf verdict, verdict := some verdict })

end Controller

end AmqpHandshake
