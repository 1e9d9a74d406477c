import AmqpHandshake.Settings.Basic

/-! Merging settings with what is given beside them for one plan. -/
namespace AmqpHandshake

/-- Values that take the place of those in the settings. -/
structure Overrides where
  hostName : Option String := none
  protocol : Option Protocol := none
  userName : Option String := none
  sasToken : Option String := none
  proxyHost : Option String := none
  proxyPort : Option UInt16 := none
  caBundle : Option String := none
deriving DecidableEq, Repr

/-- Which half of a new proxy is missing. -/
inductive ProxyGap
  | host
  | port
deriving DecidableEq, Repr

def ProxyGap.message : ProxyGap → String
  | .host => "--proxy-host is required when the settings have no proxy"
  | .port => "--proxy-port is required when the settings have no proxy"

namespace Overrides

/-- The proxy after the overrides. One that is there keeps what is not overridden; a new one needs
both host and port. -/
def mergeProxy (overrides : Overrides) : Option ProxyOptions → Except ProxyGap (Option ProxyOptions)
  | some proxy => .ok (some { proxy with
      host := overrides.proxyHost.getD proxy.host
      port := overrides.proxyPort.getD proxy.port })
  | none =>
    match overrides.proxyHost, overrides.proxyPort with
    | none, none => .ok none
    | some host, some port => .ok (some (.plain host port))
    | some _, none => .error .port
    | none, some _ => .error .host

/-- Credentials to plan with where neither half of any is known. -/
def withPlaceholders (settings : Settings) : Settings :=
  if settings.userName.isNone && settings.sasToken.isNone then
    { settings with
      userName := some "planner"
      sasToken := some "SharedAccessSignature sr=placeholder" }
  else settings

def apply (overrides : Overrides) (settings : Settings) : Except ProxyGap Settings := do
  let proxy ← overrides.mergeProxy settings.proxy
  return withPlaceholders { settings with
    hostName := overrides.hostName.getD settings.hostName
    protocol := overrides.protocol.getD settings.protocol
    userName := overrides.userName <|> settings.userName
    sasToken := overrides.sasToken <|> settings.sasToken
    proxy
    caBundle := overrides.caBundle <|> settings.caBundle }

end Overrides

end AmqpHandshake
