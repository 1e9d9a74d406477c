import AmqpHandshake.Json.Print
import AmqpHandshake.Plan.Overrides
import AmqpHandshake.Settings.File
import AmqpHandshake.Transport.LayerPlan

/-! The plan of a connection: where it would go and with what layers, without making it. -/
namespace AmqpHandshake

structure PlanReport where
  hostName : String
  protocol : Protocol
  endpoint : Endpoint
  layers : LayerPlan
  /-- The lines of the upgrade request, for WebSocket. -/
  upgrade : Option (List String)
  /-- The error in place of a TLS context, if there is one. -/
  tlsFault : Option TlsFault
  timeoutSecs : UInt64

inductive PlanFault
  | unloaded (error : HandshakeError)
  | proxyGap (gap : ProxyGap)
  | invalidSettings (error : HandshakeError)
  | invalidLayers (cause : FailureCause)
  | noUpgrade (cause : FailureCause)
deriving DecidableEq, Repr

/-- The text of a fault, with the error behind it where there is one. -/
def PlanFault.message : PlanFault → String
  | .unloaded error => error.message
  | .proxyGap gap => gap.message
  | .invalidSettings error =>
    "Invalid connection settings\n\nCaused by:\n    " ++ error.message
  | .invalidLayers cause => "Invalid transport layers\n\nCaused by:\n    " ++ cause.message
  | .noUpgrade cause => cause.message

def UpgradeRequest.lines (request : UpgradeRequest) : List String :=
  ("GET " ++ request.uri.text ++ " HTTP/1.1") ::
    request.headers.map fun (name, value) => name ++ ": " ++ shownHeader value

namespace PlanReport

/-- The settings to plan with: those of a file, or defaults, under the overrides. -/
def settings (read : FileReader) (path : Option String) (overrides : Overrides) :
    Except PlanFault Settings := do
  let base ← match path with
    | some path => (Settings.load read path).mapError .unloaded
    | none => pure {}
  (overrides.apply base).mapError .proxyGap

/-- The plan for settings. A TLS context that cannot be built is only reported. -/
def ofSettings (read : FileReader) (key : Nonce) (settings : Settings) :
    Except PlanFault PlanReport := do
  let config ← settings.toConnectionConfig.mapError .invalidSettings
  let layers ← config.layers.mapError .invalidLayers
  let request ← match layers.webSocket with
    | some layer => (some <$> layer.upgradeRequest key).mapError .noUpgrade
    | none => pure none
  return { hostName := config.hostName, protocol := config.protocol, endpoint := config.endpoint
           layers, upgrade := request.map UpgradeRequest.lines
           tlsFault := match config.tls.resolve read with
             | .ok _ => none
             | .error fault => some fault
           timeoutSecs := settings.timeoutSecs }

def make (read : FileReader) (key : Nonce) (path : Option String) (overrides : Overrides) :
    Except PlanFault PlanReport := do
  ofSettings read key (← settings read path overrides)

def toJson (report : PlanReport) : Json :=
  .object [("host_name", .string report.hostName), ("protocol", .string report.protocol.name),
    ("endpoint", report.endpoint.toJson), ("layers", report.layers.toJson),
    ("websocket_upgrade", .ofOption (fun lines => .array (lines.map .string)) report.upgrade),
    ("proxy_connect",
      .ofOption (fun layer => .string layer.connectRequest) report.layers.proxy),
    ("tls", match report.tlsFault with
      | none => .object [("Ok", .string "ok")]
      | some fault => .object [("Err", .string fault.message)]),
    ("timeout_secs", .integer report.timeoutSecs.toNat)]

/-- Lines under a heading, or nothing. -/
private def titled (heading : String) : Option (List String) → List String
  | none => []
  | some lines => heading :: lines.map ("  " ++ ·)

def lines (report : PlanReport) : List String :=
  ["host:      " ++ report.hostName, "protocol:  " ++ report.protocol.inspect,
    "endpoint:  " ++ report.endpoint.text, "sasl:      " ++ report.layers.saslMechanism] ++
  titled "websocket:" report.upgrade ++
  titled "proxy:" (report.layers.proxy.map (·.requestLines)) ++
  [match report.tlsFault with
    | none => "tls:       context resolved"
    | some fault => "tls:       FAILED (" ++ fault.message ++ ")",
    "timeout:   " ++ toString report.timeoutSecs.toNat ++ "s"]

def text (report : PlanReport) : String := String.join (report.lines.map (· ++ "\n"))

end PlanReport

end AmqpHandshake
