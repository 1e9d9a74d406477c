import AmqpHandshake.Cbs.Claim
import AmqpHandshake.Link.Spec
import AmqpHandshake.Transport.LayerPlan

/-! The engine below a connection: what is asked of it, what it answers, and the trace of both.
No call waits for the peer. -/
namespace AmqpHandshake

/-- A call to an engine, together with the engine's answer where it gives one. -/
inductive Call
  | connectToHost (host : String) (port : UInt16)
  | addTransportLayer (layer : TransportLayer)
  | setSaslMechanisms (mechanisms : List String)
  /-- TLS is put on in any case; without a context the attempt has failed already. -/
  | setTls (context : Option TlsContext)
  | setHostname (hostname : String)
  | openConnection (containerId : Uuid)
  | openSession (session : SessionId)
  | openLink (session : SessionId) (spec : LinkSpec) (link : LinkId)
  /-- A claim, and why it could not be sent if it could not. -/
  | sendClaim (link : LinkId) (claim : Claim) (refusal : Option String)
deriving DecidableEq

/-- How an engine answers. An answer may depend on all calls before. -/
structure Engine where
  sessionId : (earlier : List Call) → SessionId
  linkId : (earlier : List Call) → SessionId → LinkSpec → LinkId
  /-- Why a claim cannot be sent, if it cannot. -/
  refusal : (earlier : List Call) → LinkId → Claim → Option String

/-- What an attempt has asked of the engine and of the token provider, in order. -/
structure Trace where
  calls : List Call := []
  tokenRequests : List TokenRequest := []
deriving DecidableEq

namespace Trace

def record (trace : Trace) (call : Call) : Trace := { trace with calls := trace.calls ++ [call] }

def openSession (engine : Engine) (trace : Trace) : SessionId × Trace :=
  let session := engine.sessionId trace.calls
  (session, trace.record (.openSession session))

def openLink (engine : Engine) (session : SessionId) (spec : LinkSpec) (trace : Trace) :
    LinkId × Trace :=
  let link := engine.linkId trace.calls session spec
  (link, trace.record (.openLink session spec link))

/-- Send a claim; the answer tells why it could not be sent, if it could not. -/
def sendClaim (engine : Engine) (link : LinkId) (claim : Claim) (trace : Trace) :
    Option String × Trace :=
  let refusal := engine.refusal trace.calls link claim
  (refusal, trace.record (.sendClaim link claim refusal))

def requestToken (provider : TokenProvider) (scopes : TokenRequest) (trace : Trace) :
    Except String AccessToken × Trace :=
  (provider.answer trace.tokenRequests scopes,
    { trace with tokenRequests := trace.tokenRequests ++ [scopes] })

end Trace

/-- What surrounds an attempt: the engine below it, the files it may read, and the random word
that its claim is marked with. -/
structure Surroundings where
  engine : Engine
  read : FileReader
  messageId : Uuid

end AmqpHandshake
