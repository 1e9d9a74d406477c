import AmqpHandshake.Text.Inspect

/-! The HTTP proxy that a connection tunnels through. -/
namespace AmqpHandshake

/-- A proxy, with the credentials it may ask for. -/
structure ProxyOptions where
  host : String
  port : UInt16
  username : Option String
  password : Option String
deriving DecidableEq, Repr

def ProxyOptions.plain (host : String) (port : UInt16) : ProxyOptions := ⟨host, port, none, none⟩

/-- The inspection form, which hides the password. -/
def ProxyOptions.inspect (proxy : ProxyOptions) : String :=
  Text.record "ProxyOptions"
    [("host", Text.quoted proxy.host), ("port", toString proxy.port.toNat),
      ("username", Text.optional Text.quoted proxy.username),
      ("password", Text.optional (fun _ => Text.redacted) proxy.password)]

end AmqpHandshake
