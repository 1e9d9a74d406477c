import AmqpHandshake.Credential
import AmqpHandshake.Nonce

/-! The claim that puts a token on a hub's node for claims-based security. -/
namespace AmqpHandshake

def cbsNode : String := "$cbs"

/-- A request to put a token. -/
structure Claim where
  messageId : Uuid
  operation : String
  tokenType : String
  audience : String
  token : String
  expiresAt : Option UtcTime
  replyTo : String
deriving DecidableEq

namespace Claim

/-- The request for a token of some flavour, with the fields that are always the same. -/
def putToken (messageId : Uuid) (authorizationType : AuthorizationType) (audience token : String)
    (expiresAt : Option UtcTime) : Claim :=
  { messageId, operation := "put-token", tokenType := authorizationType.tokenType, audience, token
    expiresAt, replyTo := "cbs" }

/-- The inspection form around a text for the message id. The token is hidden. -/
def inspectWith (messageId : String) (claim : Claim) : String :=
  Text.record "CbsClaim"
    [("message_id", messageId), ("operation", Text.quoted claim.operation),
      ("token_type", Text.quoted claim.tokenType), ("audience", Text.quoted claim.audience),
      ("token", Text.redacted), ("expires_at", Text.optional UtcTime.inspect claim.expiresAt)]

def inspect (claim : Claim) : String := claim.inspectWith claim.messageId.text

end Claim

end AmqpHandshake
