import AmqpHandshake.Error.Handshake

/-! The two ways in which AMQP is carried. -/
namespace AmqpHandshake

/-- Which transport carries AMQP. -/
inductive Protocol
  | amqps
  | amqpsWs
deriving DecidableEq, Repr

namespace Protocol

def isWebSocket : Protocol → Bool
  | amqps => false
  | amqpsWs => true

def name : Protocol → String
  | amqps => "amqps"
  | amqpsWs => "amqps_ws"

def inspect : Protocol → String
  | amqps => "Amqps"
  | amqpsWs => "AmqpsWs"

/-- Read a protocol name in any mix of ASCII case. The error shows the name in lower case. -/
def parse (text : String) : Except HandshakeError Protocol :=
  match text.toLower with
  | "amqps" => .ok amqps
  | "amqps_ws" | "amqps-ws" | "websocket" => .ok amqpsWs
  | other => .error (.invalidArgument (.unknownProtocol other))

theorem parse_name (protocol : Protocol) : parse protocol.name = .ok protocol := by
  have lower : protocol.name.toLower = protocol.name := by
    cases protocol <;> decide +kernel
  unfold parse
  rw [lower]
  cases protocol <;> rfl

end Protocol

end AmqpHandshake
