import AmqpHandshake.Text.Inspect

/-! Links: the ids that an engine hands out, and what a link is opened with. -/
namespace AmqpHandshake

/-- The engine's handle of a session. -/
structure SessionId where
  number : UInt32
deriving DecidableEq, Repr

/-- The engine's handle of a link. -/
structure LinkId where
  number : UInt32
deriving DecidableEq, Repr

def SessionId.inspect (id : SessionId) : String :=
  Text.variant "SessionId" (toString id.number.toNat)

def LinkId.inspect (id : LinkId) : String := Text.variant "LinkId" (toString id.number.toNat)

/-- Which way messages go on a link. -/
inductive LinkRole
  | sender
  | receiver
deriving DecidableEq, Repr

def LinkRole.name : LinkRole → String
  | .sender => "sender"
  | .receiver => "receiver"

def LinkRole.inspect : LinkRole → String
  | .sender => "Sender"
  | .receiver => "Receiver"

/-- A named link to the address of a node. -/
structure LinkSpec where
  name : String
  address : String
  role : LinkRole
deriving DecidableEq, Repr

def LinkSpec.inspect (spec : LinkSpec) : String :=
  Text.record "LinkSpec"
    [("name", Text.quoted spec.name), ("address", Text.quoted spec.address),
      ("role", spec.role.inspect)]

end AmqpHandshake
