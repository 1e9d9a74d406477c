import AmqpHandshake.Config.Connection

/-! The settings of a connection as a file keeps them. -/
namespace AmqpHandshake

/-- Settings, for a connection that authenticates with a signature. -/
structure Settings where
  hostName : String := ""
  protocol : Protocol := .amqps
  userName : Option String := none
  sasToken : Option String := none
  proxy : Option ProxyOptions := none
  /-- The path of a bundle of further certificates to trust. -/
  caBundle : Option String := none
  serviceLink : Option ServiceLink := none
  /-- How long a caller waits for the connection, in seconds. -/
  timeoutSecs : UInt64 := 60
deriving DecidableEq, Repr

namespace Settings

def timeoutNanos (settings : Settings) : Nat := settings.timeoutSecs.toNat * Nat.pow 10 9

/-- The configuration that settings stand for, built up and checked step by step. -/
def toConnectionConfig (settings : Settings) : Except HandshakeError ConnectionConfig := do
  let config ← ConnectionConfig.sharedAccessSignature settings.hostName
    (settings.userName.getD "") (settings.sasToken.getD "") settings.protocol
  let config ← match settings.proxy with
    | some proxy => config.withProxy proxy
    | none => pure config
  let config := match settings.caBundle with
    | some path => config.withBundle path
    | none => config
  return match settings.serviceLink with
    | some link => config.withServiceLink link
    | none => config

end Settings

end AmqpHandshake
