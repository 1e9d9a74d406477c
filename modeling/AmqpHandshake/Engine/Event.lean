import AmqpHandshake.Error.Handshake
import AmqpHandshake.Link.Spec

/-! What an engine tells of a connection while it is made. -/
namespace AmqpHandshake

/-- A notice of an engine. -/
inductive Event
  /-- The reactor starts; it needs a target. -/
  | reactorInit
  /-- The transport is bound, and no byte has been exchanged. -/
  | connectionBound
  /-- The connection exists on this side and can be opened. -/
  | connectionInit
  | connectionRemoteOpen
  | sessionRemoteOpen (session : SessionId)
  | linkRemoteOpen (link : LinkId)
  /-- An answer came in on a receiving link of the claims exchange. -/
  | cbsResponse (link : LinkId) (status : UInt16) (description : Option String)
  | transportError (condition : ErrorCondition)
  | connectionRemoteClose (condition : Option ErrorCondition)
  | sessionRemoteClose (session : SessionId) (condition : Option ErrorCondition)
  | linkRemoteClose (link : LinkId) (condition : Option ErrorCondition)
deriving DecidableEq, Repr

private def inspectCondition : Option ErrorCondition → String :=
  Text.optional ErrorCondition.inspect

def Event.inspect : Event → String
  | .reactorInit => "ReactorInit"
  | .connectionBound => "ConnectionBound"
  | .connectionInit => "ConnectionInit"
  | .connectionRemoteOpen => "ConnectionRemoteOpen"
  | .sessionRemoteOpen session => Text.variant "SessionRemoteOpen" session.inspect
  | .linkRemoteOpen link => Text.variant "LinkRemoteOpen" link.inspect
  | .cbsResponse link status description =>
    Text.record "CbsResponse"
      [("link", link.inspect), ("status", toString status.toNat),
        ("description", Text.optional Text.quoted description)]
  | .transportError condition => Text.variant "TransportError" condition.inspect
  | .connectionRemoteClose condition =>
    Text.variant "ConnectionRemoteClose" (inspectCondition condition)
  | .sessionRemoteClose session condition =>
    Text.variant "SessionRemoteClose" (session.inspect ++ ", " ++ inspectCondition condition)
  | .linkRemoteClose link condition =>
    Text.variant "LinkRemoteClose" (link.inspect ++ ", " ++ inspectCondition condition)

end AmqpHandshake
