import AmqpHandshake.Config.Connection
import AmqpHandshake.Json.Value

/-! Where a connection goes to first. -/
namespace AmqpHandshake

def amqpsPort : UInt16 := 5671

/-- The port of AMQP over WebSocket, which is also where a tunnel leads to. -/
def webSocketPort : UInt16 := 443

structure Endpoint where
  host : String
  port : UInt16
deriving DecidableEq, Repr

def Endpoint.text (endpoint : Endpoint) : String :=
  endpoint.host ++ ":" ++ toString endpoint.port.toNat

def Endpoint.toJson (endpoint : Endpoint) : Json :=
  .object [("host", .string endpoint.host), ("port", .integer endpoint.port.toNat)]

/-- The target of a connection: for WebSocket the proxy, if there is one, and the hub otherwise.
AMQP over TLS goes to the hub even with a proxy. -/
def ConnectionConfig.endpoint (config : ConnectionConfig) : Endpoint :=
  match config.protocol, config.proxy with
  | .amqpsWs, some proxy => ⟨proxy.host, proxy.port⟩
  | .amqpsWs, none => ⟨config.hostName, webSocketPort⟩
  | .amqps, _ => ⟨config.hostName, amqpsPort⟩

end AmqpHandshake
