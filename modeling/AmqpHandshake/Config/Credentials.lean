import AmqpHandshake.Credential

/-! The two ways of authenticating a connection. -/
namespace AmqpHandshake

/-- What a connection authenticates with. -/
inductive Credentials
  | sharedAccessSignature (userName sasToken : String)
  /-- Tokens from a provider, asked for when the links of the exchange are up. -/
  | tokenProvider (provider : TokenProvider) (authorizationType : AuthorizationType)

namespace Credentials

def authorizationType : Credentials → AuthorizationType
  | sharedAccessSignature _ _ => .sharedAccessSignature
  | tokenProvider _ authorizationType => authorizationType

/-- The inspection form, which hides the signature and the provider. -/
def inspect : Credentials → String
  | sharedAccessSignature userName _ =>
    Text.record "SharedAccessSignature"
      [("user_name", Text.quoted userName), ("sas_token", Text.redacted)]
  | tokenProvider _ authorizationType =>
    Text.recordOpen "TokenCredential" [("authorization_type", authorizationType.inspect)]

end Credentials

end AmqpHandshake
