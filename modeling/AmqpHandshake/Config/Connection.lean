import AmqpHandshake.Config.Credentials
import AmqpHandshake.Config.Protocol
import AmqpHandshake.Config.Proxy
import AmqpHandshake.Link.Service
import AmqpHandshake.Tls.Source

/-! The configuration of one connection, its construction and its validation. -/
namespace AmqpHandshake

/-- What one connection attempt is made with. -/
structure ConnectionConfig where
  hostName : String
  protocol : Protocol
  proxy : Option ProxyOptions
  tls : TlsSource
  credentials : Credentials
  serviceLink : Option ServiceLink

/-- A host may not be blank, and neither part of a signature empty. -/
def Credentials.validate : Credentials → Except HandshakeError Unit
  | .sharedAccessSignature userName sasToken =>
    if userName = "" then .error (.empty .userName)
    else if sasToken = "" then .error (.empty .sasToken)
    else .ok ()
  | .tokenProvider _ _ => .ok ()

/-- A proxy has a host that is not blank, and a port. -/
def ProxyOptions.validate (proxy : ProxyOptions) : Except HandshakeError Unit :=
  if Text.allBlank proxy.host then .error (.empty .proxyHost)
  else if proxy.port = 0 then .error (.invalidArgument .zeroProxyPort)
  else .ok ()

namespace ConnectionConfig

/-- What every attempt relies on. The host is checked first, the proxy last. -/
def validate (config : ConnectionConfig) : Except HandshakeError Unit := do
  if Text.allBlank config.hostName then throw (.empty .hostName)
  config.credentials.validate
  match config.proxy with
  | some proxy => proxy.validate
  | none => return

def validated (config : ConnectionConfig) : Except HandshakeError ConnectionConfig := do
  config.validate
  return config

def sharedAccessSignature (hostName userName sasToken : String) (protocol : Protocol) :
    Except HandshakeError ConnectionConfig :=
  validated ⟨hostName, protocol, none, .default, .sharedAccessSignature userName sasToken, none⟩

def tokenProvider (hostName : String) (provider : TokenProvider)
    (authorizationType : AuthorizationType) (protocol : Protocol) :
    Except HandshakeError ConnectionConfig :=
  validated ⟨hostName, protocol, none, .default, .tokenProvider provider authorizationType, none⟩

def withProxy (config : ConnectionConfig) (proxy : ProxyOptions) :
    Except HandshakeError ConnectionConfig :=
  validated { config with proxy := some proxy }

def withTlsContext (config : ConnectionConfig) (context : TlsContext) : ConnectionConfig :=
  { config with tls := .supplied context }

def withBundle (config : ConnectionConfig) (path : String) : ConnectionConfig :=
  { config with tls := .bundle path }

def withServiceLink (config : ConnectionConfig) (link : ServiceLink) : ConnectionConfig :=
  { config with serviceLink := some link }

def inspect (config : ConnectionConfig) : String :=
  Text.record "ConnectionConfig"
    [("host_name", Text.quoted config.hostName), ("protocol", config.protocol.inspect),
      ("proxy", Text.optional ProxyOptions.inspect config.proxy), ("tls", config.tls.inspect),
      ("credentials", config.credentials.inspect),
      ("service_link", Text.optional ServiceLink.inspect config.serviceLink)]

end ConnectionConfig

/-- One step of building a configuration up. -/
inductive BuildStep
  | proxy (options : ProxyOptions)
  | tlsContext (context : TlsContext)
  | bundle (path : String)
  | serviceLink (link : ServiceLink)

def BuildStep.apply (config : ConnectionConfig) : BuildStep → Except HandshakeError ConnectionConfig
  | proxy options => config.withProxy options
  | tlsContext context => .ok (config.withTlsContext context)
  | bundle path => .ok (config.withBundle path)
  | serviceLink link => .ok (config.withServiceLink link)

end AmqpHandshake
