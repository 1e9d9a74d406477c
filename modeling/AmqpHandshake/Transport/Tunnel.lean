import AmqpHandshake.Text.Base64
import AmqpHandshake.Text.Utf8
import AmqpHandshake.Transport.Endpoint
import AmqpHandshake.Uri.Authority

/-! The proxy layer: a tunnel to the hub that an HTTP request opens. -/
namespace AmqpHandshake

/-- A tunnel through a proxy, with the credentials for the proxy. -/
structure ProxyLayer where
  destination : String
  credentials : Option (String × String)
deriving DecidableEq, Repr

namespace ProxyLayer

/-- The credentials sent to a proxy. A password without a user name is not sent. -/
def credentialsFor (proxy : ProxyOptions) : Option (String × String) :=
  proxy.username.map fun user => (user, proxy.password.getD "")

/-- The tunnel to a host's WebSocket port, when host and port form an authority. -/
def ofHost (host : String) (proxy : ProxyOptions) : Except FailureCause ProxyLayer :=
  let destination := host ++ ":" ++ toString webSocketPort.toNat
  match Authority.parse destination.toList with
  | .ok _ => .ok ⟨destination, credentialsFor proxy⟩
  | .error fault => .error (.proxy ("Invalid tunnel destination: " ++ fault.message))

def isAuthenticated (layer : ProxyLayer) : Bool := layer.credentials.isSome

def lineEnd : String := "\r\n"

def basicCredentials (user password : String) : String :=
  String.ofList (Base64.encode (Utf8.encode (user ++ ":" ++ password)))

/-- The lines of the request, without their ends and without the empty line that closes it. -/
def requestLines (layer : ProxyLayer) : List String :=
  ["CONNECT " ++ layer.destination ++ " HTTP/1.1", "Host: " ++ layer.destination] ++
    match layer.credentials with
    | some (user, password) => ["Proxy-Authorization: Basic " ++ basicCredentials user password]
    | none => []

def connectRequest (layer : ProxyLayer) : String :=
  String.join (layer.requestLines.map (· ++ lineEnd)) ++ lineEnd

/-- The inspection form, which hides the credentials. -/
def inspect (layer : ProxyLayer) : String :=
  Text.record "ProxyLayer"
    [("destination", Text.quoted layer.destination),
      ("authenticated", if layer.isAuthenticated then "true" else "false")]

/-- The JSON form, which hides the credentials. -/
def toJson (layer : ProxyLayer) : Json := .object [("destination", .string layer.destination)]

end ProxyLayer

end AmqpHandshake
