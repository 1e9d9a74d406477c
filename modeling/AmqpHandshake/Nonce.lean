import AmqpHandshake.Text.Numeral

/-! Random words of 128 bits, and the identifiers made from them. -/
namespace AmqpHandshake

/-- A word of 128 random bits. -/
structure Nonce where
  bits : BitVec 128
deriving DecidableEq, Repr

def Nonce.bytes (nonce : Nonce) : List UInt8 :=
  (List.range 16).map fun i => UInt8.ofNat (nonce.bits.toNat >>> (8 * (15 - i)))

/-- A universally unique identifier. -/
structure Uuid where
  bits : BitVec 128
deriving DecidableEq, Repr

namespace Uuid

/-- The identifier of version four made from random bits: four bits give the version and two the
variant. -/
def ofNonce (nonce : Nonce) : Uuid :=
  let cleared := nonce.bits &&& ~~~(BitVec.ofNat 128 (0xf <<< 76 ||| 0x3 <<< 62))
  ⟨cleared ||| BitVec.ofNat 128 (0x4 <<< 76 ||| 0x2 <<< 62)⟩

def version (id : Uuid) : Nat := (id.bits.toNat >>> 76) % 16

/-- Whether the identifier is one of random bits: version four of the standard variant. -/
def isRandom (id : Uuid) : Bool := id.version == 4 && (id.bits.toNat >>> 62) % 4 == 2

private def group (id : Uuid) (low digits : Nat) : String :=
  Text.paddedHex digits ((id.bits.toNat >>> low) % Nat.pow 16 digits)

/-- Five groups of hexadecimal digits in lower case, 36 characters in all. -/
def text (id : Uuid) : String :=
  id.group 96 8 ++ "-" ++ id.group 80 4 ++ "-" ++ id.group 64 4 ++ "-" ++ id.group 48 4 ++ "-" ++
    id.group 0 12

end Uuid

end AmqpHandshake
