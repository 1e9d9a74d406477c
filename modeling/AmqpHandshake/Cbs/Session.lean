import AmqpHandshake.Cbs.Outcome
import AmqpHandshake.Engine.Basic

/-! The claims exchange: two links to the node for claims-based security, one claim, one outcome. -/
namespace AmqpHandshake

def cbsSenderSpec : LinkSpec := ⟨"cbs-sender", cbsNode, .sender⟩

def cbsReceiverSpec : LinkSpec := ⟨"cbs-receiver", cbsNode, .receiver⟩

inductive CbsPhase
  | openingLinks
  | awaitingResponse
  | done
deriving DecidableEq, Repr

/-- A claims exchange of one connection. -/
structure CbsSession where
  session : SessionId
  sender : LinkId
  receiver : LinkId
  senderOpen : Bool
  receiverOpen : Bool
  credentials : Credentials
  audience : String
  phase : CbsPhase
  slot : OutcomeSlot

namespace CbsSession

/-- Attach both links on a session and begin. -/
def start (engine : Engine) (session : SessionId) (credentials : Credentials) (audience : String)
    (trace : Trace) : CbsSession × Trace :=
  let (sender, trace) := trace.openLink engine session cbsSenderSpec
  let (receiver, trace) := trace.openLink engine session cbsReceiverSpec
  ({ session, sender, receiver, senderOpen := false, receiverOpen := false, credentials, audience
     phase := .openingLinks, slot := {} }, trace)

def ownsLink (cbs : CbsSession) (link : LinkId) : Bool := link = cbs.sender || link = cbs.receiver

def isSettled (cbs : CbsSession) : Bool := cbs.slot.settled

/-- End with an outcome, which is told unless one has been told before. -/
def finish (cbs : CbsSession) (outcome : AuthOutcome) : Option AuthOutcome × CbsSession :=
  let (told, slot) := cbs.slot.settle outcome
  (told, { cbs with phase := .done, slot })

def takeToken (cbs : CbsSession) (trace : Trace) :
    Except AuthError (String × Option UtcTime) × Trace :=
  match cbs.credentials with
  | .sharedAccessSignature _ sasToken => (.ok (sasToken, SasToken.expiry sasToken), trace)
  | .tokenProvider provider _ =>
    match trace.requestToken provider [hubScope] with
    | (.ok access, trace) => (.ok (access.token, some access.expiresAt), trace)
    | (.error reason, trace) => (.error (.credential reason), trace)

def present (around : Surroundings) (cbs : CbsSession) (trace : Trace) :
    Option AuthOutcome × CbsSession × Trace :=
  match cbs.takeToken trace with
  | (.error error, trace) =>
    let (told, cbs) := cbs.finish (.failed error)
    (told, cbs, trace)
  | (.ok (token, expiresAt), trace) =>
    let claim := Claim.putToken around.messageId cbs.credentials.authorizationType cbs.audience
      token expiresAt
    match trace.sendClaim around.engine cbs.sender claim with
    | (none, trace) => (none, { cbs with phase := .awaitingResponse }, trace)
    | (some reason, trace) =>
      let (told, cbs) := cbs.finish (.failed (.send reason))
      (told, cbs, trace)

/-- Note that a link is open. The sender is looked at first, should both have one id. -/
def markOpen (cbs : CbsSession) (link : LinkId) : CbsSession :=
  if link = cbs.sender then { cbs with senderOpen := true }
  else if link = cbs.receiver then { cbs with receiverOpen := true }
  else cbs

/-- A link is open on the peer's side. Once both are, the token is presented. -/
def onLinkOpen (around : Surroundings) (link : LinkId) (cbs : CbsSession) (trace : Trace) :
    Option AuthOutcome × CbsSession × Trace :=
  if cbs.ownsLink link then
    let cbs := cbs.markOpen link
    if cbs.phase = .openingLinks ∧ cbs.senderOpen ∧ cbs.receiverOpen then cbs.present around trace
    else (none, cbs, trace)
  else (none, cbs, trace)

/-- The statuses that accept a claim. -/
def isAccepted (status : UInt16) : Bool := status = 200 || status = 202

/-- What an answer to a claim means. -/
def outcomeOf (status : UInt16) (description : Option String) : AuthOutcome :=
  if isAccepted status then .succeeded
  else .failed (.rejected status (description.getD "no description"))

/-- The peer answered. Only an answer to the claim, on the receiving link, counts. -/
def onResponse (link : LinkId) (status : UInt16) (description : Option String)
    (cbs : CbsSession) : Option AuthOutcome × CbsSession :=
  if link = cbs.receiver ∧ cbs.phase = .awaitingResponse then
    cbs.finish (outcomeOf status description)
  else (none, cbs)

/-- The condition of a close that gives none. -/
def closedEarly : ErrorCondition := ⟨"amqp:link:detach-forced", some "closed before response"⟩

/-- The peer closed a link or the session. -/
def onClosed (condition : Option ErrorCondition) (cbs : CbsSession) :
    Option AuthOutcome × CbsSession :=
  if cbs.phase = .done then (none, cbs)
  else cbs.finish (.failed (.linkClosed (condition.getD closedEarly)))

end CbsSession

end AmqpHandshake
