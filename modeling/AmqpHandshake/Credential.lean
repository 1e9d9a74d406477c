import AmqpHandshake.Text.Blank
import AmqpHandshake.Text.Cut
import AmqpHandshake.Text.Inspect
import AmqpHandshake.Time.UtcTime

/-! Credentials for claims-based authentication: the flavour of a claim, tokens and their
providers, and the expiry inside a shared access signature. -/
namespace AmqpHandshake

/-- The flavour under which a token is presented. -/
inductive AuthorizationType
  | sharedAccessSignature
  | jsonWebToken
deriving DecidableEq, Repr

namespace AuthorizationType

def name : AuthorizationType → String
  | sharedAccessSignature => "shared_access_signature"
  | jsonWebToken => "json_web_token"

def inspect : AuthorizationType → String
  | sharedAccessSignature => "SharedAccessSignature"
  | jsonWebToken => "JsonWebToken"

def tokenType : AuthorizationType → String
  | sharedAccessSignature => "servicebus.windows.net:sastoken"
  | jsonWebToken => "jwt"

end AuthorizationType

/-- A token and the time at which it expires. -/
structure AccessToken where
  token : String
  expiresAt : UtcTime
deriving DecidableEq

def AccessToken.inspect (access : AccessToken) : String :=
  Text.record "AccessToken"
    [("token", Text.redacted), ("expires_at", access.expiresAt.inspect)]

abbrev TokenRequest := List String

def hubScope : String := "https://iothubs.azure.net/.default"

/-- A source of tokens: its answer to a request may depend on the requests before it. -/
structure TokenProvider where
  answer : (earlier : List TokenRequest) → TokenRequest → Except String AccessToken

def TokenProvider.static (access : AccessToken) : TokenProvider := ⟨fun _ _ => .ok access⟩

/-- A provider that gives prepared answers in turn and then repeats the last one. -/
def TokenProvider.inTurn (first : Except String AccessToken)
    (more : List (Except String AccessToken)) : TokenProvider :=
  ⟨fun earlier _ => (first :: more).getD earlier.length (more.getLastD first)⟩

namespace SasToken

def scheme : List Char := "SharedAccessSignature ".toList

def body (token : List Char) : List Char := (Text.dropLead? scheme token).getD token

/-- The text of the first field whose key is `se`. Pieces without an equals sign are no fields. -/
def expiryText? (token : List Char) : Option (List Char) :=
  let fields := (Text.pieces '&' (body token)).filterMap (Text.cutFirst '=')
  (fields.find? fun (key, _) => Text.trim key == ['s', 'e']).map Prod.snd

/-- The expiry of a signature. A first `se` field that holds no representable time leaves none,
whatever follows it. -/
def expiry (token : String) : Option UtcTime := do
  let text ← expiryText? token.toList
  let seconds ← Text.signed? (Text.trim text)
  UtcTime.ofSeconds? seconds

end SasToken

end AmqpHandshake
