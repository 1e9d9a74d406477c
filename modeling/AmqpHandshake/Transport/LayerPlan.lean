import AmqpHandshake.Transport.Tunnel
import AmqpHandshake.Transport.WebSocket

/-! The layers put around a transport before AMQP frames are sent. -/
namespace AmqpHandshake

/-- The one SASL mechanism offered. The connection is authenticated later, by a claim. -/
def anonymousMechanism : String := "ANONYMOUS"

inductive TransportLayer
  | webSocket (layer : WebSocketLayer)
  | proxy (layer : ProxyLayer)
deriving DecidableEq, Repr

/-- The layers of a connection, in the order in which they are put on. -/
structure LayerPlan where
  webSocket : Option WebSocketLayer
  saslMechanism : String
  proxy : Option ProxyLayer
deriving DecidableEq, Repr

/-- The layers that a configuration asks for. A proxy layer is planned for both protocols. -/
def ConnectionConfig.layers (config : ConnectionConfig) : Except FailureCause LayerPlan := do
  let webSocket ←
    if config.protocol.isWebSocket then some <$> WebSocketLayer.ofHost config.hostName
    else pure none
  let proxy ← config.proxy.mapM (ProxyLayer.ofHost config.hostName)
  return ⟨webSocket, anonymousMechanism, proxy⟩

def LayerPlan.toJson (plan : LayerPlan) : Json :=
  .object [("websocket", .ofOption WebSocketLayer.toJson plan.webSocket),
    ("sasl_mechanism", .string plan.saslMechanism),
    ("proxy", .ofOption ProxyLayer.toJson plan.proxy)]

def TransportLayer.toJson : TransportLayer → Json
  | .webSocket layer => .object [("kind", .string "web_socket"), ("host", .string layer.host),
      ("path", .string layer.path), ("port", .integer layer.port.toNat),
      ("sub_protocol", .string layer.subProtocol)]
  | .proxy layer => .object [("kind", .string "proxy"), ("destination", .string layer.destination)]

end AmqpHandshake
