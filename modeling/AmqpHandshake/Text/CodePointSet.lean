/-! Sets of characters given by the code points at which membership changes. -/
namespace AmqpHandshake.Text

/-- Increasing code points at which membership flips; code point zero starts outside. -/
structure CodePointSet where
  flips : List Nat

/-- A character is a member when an odd number of flips lie at or before it. -/
def CodePointSet.contains (set : CodePointSet) (c : Char) : Bool :=
  set.flips.countP (· ≤ c.toNat) % 2 == 1

end AmqpHandshake.Text
