import AmqpHandshake.Error.FileFault
import AmqpHandshake.Shape

/-! The errors of a connection attempt, their text, their stage and the chain of causes. -/
namespace AmqpHandshake

/-- An error condition reported by the peer or by the transport engine. -/
structure ErrorCondition where
  condition : String
  description : Option String
deriving DecidableEq, Repr

def ErrorCondition.message (error : ErrorCondition) : String :=
  error.condition ++ " with description " ++ error.description.getD "<none>"

def ErrorCondition.inspect (error : ErrorCondition) : String :=
  Text.record "ErrorCondition"
    [("condition", Text.quoted error.condition),
      ("description", Text.optional Text.quoted error.description)]

/-- Why the claims exchange could not authenticate the connection. -/
inductive AuthError
  | credential (reason : String)
  /-- The peer answered the claim with another status than success. -/
  | rejected (status : UInt16) (description : String)
  | send (reason : String)
  | linkClosed (condition : ErrorCondition)
deriving DecidableEq, Repr

def AuthError.message : AuthError → String
  | .credential reason => "Token provider failed: " ++ reason
  | .rejected status description =>
    "CBS request rejected with status " ++ toString status.toNat ++ ": " ++ description
  | .send reason => "Failed to send CBS claim: " ++ reason
  | .linkClosed condition => "CBS link closed by peer: " ++ condition.message

/-- What went wrong while the connection was set up. -/
inductive FailureCause
  | tls (reason : String)
  | proxy (reason : String)
  | webSocket (reason : String)
  | authentication (error : AuthError)
deriving DecidableEq, Repr

def FailureCause.message : FailureCause → String
  | .tls reason => "TLS setup failed: " ++ reason
  | .proxy reason => "Proxy setup failed: " ++ reason
  | .webSocket reason => "WebSocket setup failed: " ++ reason
  | .authentication error => "Authentication failed: " ++ error.message

/-- The texts of the errors behind a cause, outermost first. -/
def FailureCause.sources : FailureCause → List String
  | .authentication error => [error.message]
  | _ => []

/-- The fields of a configuration that must not be empty. -/
inductive RequiredField
  | hostName
  | userName
  | sasToken
  | proxyHost
deriving DecidableEq, Repr

def RequiredField.label : RequiredField → String
  | .hostName => "hostName"
  | .userName => "userName"
  | .sasToken => "sasToken"
  | .proxyHost => "proxy host"

inductive ArgumentFault
  | empty (field : RequiredField)
  | zeroProxyPort
  | unknownProtocol (name : String)
  /-- A fault in words of the caller's own. -/
  | stated (reason : String)
deriving DecidableEq, Repr

def ArgumentFault.message : ArgumentFault → String
  | .empty field => field.label ++ " can not be null or empty"
  | .zeroProxyPort => "proxy port must be non-zero"
  | .unknownProtocol name => "Unknown protocol '" ++ name ++ "' (expected amqps or amqps_ws)"
  | .stated reason => reason

/-- What is wrong with a settings file. -/
inductive SettingsFault
  | unreadable (path : String) (fault : FileFault)
  | notToml (path : String)
  | wrongShape (path : String) (fault : ShapeFault)
  | unwritable (fault : FileFault)
  /-- A timeout that the file format cannot hold. -/
  | timeoutOutOfRange
  /-- A fault in words of the caller's own. -/
  | stated (reason : String)
deriving DecidableEq, Repr

def SettingsFault.message : SettingsFault → String
  | .unreadable path fault => path ++ ": " ++ fault.message
  | .notToml path => path ++ ": TOML parse error"
  | .wrongShape path fault => path ++ ": " ++ fault.message
  | .unwritable fault => fault.message
  | .timeoutOutOfRange => "out-of-range value for u64 type"
  | .stated reason => reason

/-- The part of an attempt that an error came from. -/
inductive Stage
  | configuration
  | transport
  | setup
  | authentication
  | timeout
deriving DecidableEq, Repr

def Stage.name : Stage → String
  | .configuration => "Configuration"
  | .transport => "Transport"
  | .setup => "Setup"
  | .authentication => "Authentication"
  | .timeout => "Timeout"

/-- The error that an attempt, or the work before it, ends with. -/
inductive HandshakeError
  | invalidArgument (fault : ArgumentFault)
  /-- A protocol error that the engine observed. -/
  | transportProtocol (condition : ErrorCondition)
  /-- A failure to set up or to authenticate the connection. -/
  | connectionFailed (cause : FailureCause)
  | timeout
  | settings (fault : SettingsFault)
deriving DecidableEq, Repr

namespace HandshakeError

def empty (field : RequiredField) : HandshakeError := .invalidArgument (.empty field)

def message : HandshakeError → String
  | .invalidArgument fault => "Invalid argument: " ++ fault.message
  | .transportProtocol condition =>
    "Encountered exception during amqp connection: " ++ condition.message
  | .connectionFailed cause => "Connection failed to be established: " ++ cause.message
  | .timeout => "Amqp connection timed out waiting for service to respond"
  | .settings fault => "Configuration error: " ++ fault.message

def stage : HandshakeError → Stage
  | .invalidArgument _ | .settings _ => .configuration
  | .transportProtocol _ => .transport
  | .connectionFailed (.authentication _) => .authentication
  | .connectionFailed _ => .setup
  | .timeout => .timeout

/-- The texts of the errors behind an error, outermost first. -/
def sources : HandshakeError → List String
  | .connectionFailed cause => cause.message :: cause.sources
  | _ => []

end HandshakeError

end AmqpHandshake
