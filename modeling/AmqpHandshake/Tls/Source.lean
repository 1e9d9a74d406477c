import AmqpHandshake.Files.Tree
import AmqpHandshake.Tls.Certificate
import AmqpHandshake.Tls.Pem

/-! Where the TLS context of a connection comes from. -/
namespace AmqpHandshake

/-- What a connection trusts. -/
inductive TlsContext
  /-- A context that the caller built, known by a number. -/
  | supplied (number : Nat)
  /-- The default roots and further certificates. -/
  | defaultRoots (further : List (List UInt8))
deriving DecidableEq

inductive TlsFault
  | unopened (path : String) (fault : FileFault)
  | unread (path : String) (fault : FileFault)
  | notPem (path : String) (fault : Pem.Fault)
  | badCertificate (fault : Certificate.Fault)
  | noCertificates (path : String)
deriving DecidableEq

def TlsFault.message : TlsFault → String
  | .unopened path fault => "Failed to open CA bundle " ++ path ++ ": " ++ fault.message
  | .unread path fault => "Failed to read CA bundle " ++ path ++ ": " ++ fault.message
  | .notPem path fault => "Failed to read CA bundle " ++ path ++ ": " ++ fault.message
  | .badCertificate fault => "Failed to add CA certificate: " ++ fault.message
  | .noCertificates path => "No certificates found in " ++ path

/-- Check certificates in order, up to the first that is refused. -/
def checkCertificates (certificates : List (List UInt8)) : Except TlsFault Unit :=
  certificates.forM fun bytes => (Certificate.check bytes).mapError .badCertificate

/-- The default roots and every certificate of a PEM bundle. A directory opens but has no text. -/
def TlsContext.ofBundle (read : FileReader) (path : String) : Except TlsFault TlsContext :=
  match read path with
  | .error .isDirectory => .error (.unread path .isDirectory)
  | .error fault => .error (.unopened path fault)
  | .ok bytes => do
    let reading := Pem.read bytes.data.toList
    checkCertificates reading.certificates
    match reading.fault with
    | some fault => throw (.notPem path fault)
    | none =>
      if reading.certificates.isEmpty then throw (.noCertificates path)
      else return .defaultRoots reading.certificates

/-- Where the context of a connection comes from. -/
inductive TlsSource
  | default
  | supplied (context : TlsContext)
  /-- The default roots and a PEM bundle that is read when the connection is bound. -/
  | bundle (path : String)
deriving DecidableEq

/-- Build the context, or hand back the one that was supplied. -/
def TlsSource.resolve (read : FileReader) : TlsSource → Except TlsFault TlsContext
  | .default => .ok (.defaultRoots [])
  | .supplied context => .ok context
  | .bundle path => TlsContext.ofBundle read path

/-- The inspection form, which tells nothing of what is inside a context. -/
def TlsSource.inspect : TlsSource → String
  | .default => "Default"
  | .supplied _ => Text.variant "Supplied" "TlsContext"
  | .bundle path => Text.variant "CaBundle" (Text.quoted path)

end AmqpHandshake
