import AmqpHandshake.Nonce
import AmqpHandshake.Text.Base64
import AmqpHandshake.Transport.Endpoint
import AmqpHandshake.Uri.Basic

/-! The WebSocket layer: its address and the HTTP request that asks for the upgrade. -/
namespace AmqpHandshake

def webSocketPath : String := "/$iothub/websocket"

def webSocketSubProtocol : String := "AMQPWSB10"

/-- WebSocket framing to a host. -/
structure WebSocketLayer where
  host : String
  path : String
  port : UInt16
  subProtocol : String
deriving DecidableEq, Repr

/-- The HTTP request for an upgrade, with its headers in order. -/
structure UpgradeRequest where
  uri : Uri
  headers : List (String × String)
deriving DecidableEq, Repr

/-- What a header value may hold: no control characters but the tab. -/
def isHeaderCharacter (c : Char) : Bool := (32 ≤ c.toNat && c.toNat ≠ 127) || c = '\t'

/-- Whether a header value is shown as it stands: visible ASCII, spaces and tabs. -/
def isShownHeader (value : String) : Bool :=
  value.toList.all fun c => (32 ≤ c.toNat && c.toNat < 127) || c = '\t'

/-- A header value, or a stand-in where it cannot be shown. -/
def shownHeader (value : String) : String := if isShownHeader value then value else "<binary>"

namespace WebSocketLayer

/-- Host and port, as the address and the host header give them. -/
def authorityText (layer : WebSocketLayer) : String :=
  layer.host ++ ":" ++ toString layer.port.toNat

def uri (layer : WebSocketLayer) : Except FailureCause Uri :=
  match Uri.parse "wss" (layer.authorityText ++ layer.path) with
  | .ok uri => .ok uri
  | .error fault => .error (.webSocket ("Invalid WebSocket URI: " ++ fault.message))

/-- The layer to a hub, when its address can be formed. -/
def ofHost (host : String) : Except FailureCause WebSocketLayer := do
  let layer : WebSocketLayer := ⟨host, webSocketPath, webSocketPort, webSocketSubProtocol⟩
  let _ ← layer.uri
  return layer

def headers (layer : WebSocketLayer) (key : Nonce) : List (String × String) :=
  [("host", layer.authorityText), ("connection", "Upgrade"), ("upgrade", "websocket"),
    ("sec-websocket-version", "13"),
    ("sec-websocket-key", String.ofList (Base64.encode key.bytes)),
    ("sec-websocket-protocol", layer.subProtocol)]

def upgradeRequest (layer : WebSocketLayer) (key : Nonce) : Except FailureCause UpgradeRequest := do
  let uri ← layer.uri
  let headers := layer.headers key
  if headers.all fun (_, value) => value.toList.all isHeaderCharacter then return ⟨uri, headers⟩
  else throw (.webSocket "Failed to build request: failed to parse header value")

def toJson (layer : WebSocketLayer) : Json :=
  .object [("host", .string layer.host), ("path", .string layer.path),
    ("port", .integer layer.port.toNat), ("sub_protocol", .string layer.subProtocol)]

end WebSocketLayer

end AmqpHandshake
