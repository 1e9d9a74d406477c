/-! Elements of the distinguished encoding: a tag, a length in its shortest form, and content. -/
namespace AmqpHandshake.Der

/-- A tag, its content, and the bytes behind the element. -/
structure Element where
  tag : Nat
  content : List UInt8
  rest : List UInt8
deriving DecidableEq

/-- Lengths from here on are refused. -/
def lengthLimit : Nat := 0xffff

private def number (bytes : List UInt8) : Nat :=
  bytes.foldl (fun value byte => value * 256 + byte.toNat) 0

/-- A length and the bytes behind it. A long form must need all its bytes. -/
def readLength : List UInt8 → Option (Nat × List UInt8)
  | [] => none
  | first :: rest =>
    if first.toNat < 0x80 then some (first.toNat, rest)
    else
      let count := first.toNat - 0x80
      let length := number (rest.take count)
      let least := if count = 1 then 0x80 else Nat.pow 256 (count - 1)
      if count = 0 ∨ count > 4 ∨ rest.length < count ∨ length < least then none
      else some (length, rest.drop count)

/-- The first element. Tags of more than one byte are refused. -/
def read : List UInt8 → Option Element
  | [] => none
  | tag :: rest =>
    if tag.toNat % 32 = 31 then none
    else match readLength rest with
      | none => none
      | some (length, rest) =>
        if length ≥ lengthLimit ∨ rest.length < length then none
        else some ⟨tag.toNat, rest.take length, rest.drop length⟩

/-- The content of a first element with the given tag, and the bytes behind it. -/
def expect (tag : Nat) (bytes : List UInt8) : Option (List UInt8 × List UInt8) :=
  match read bytes with
  | some element => if element.tag = tag then some (element.content, element.rest) else none
  | none => none

/-- The content of the one element with the given tag that bytes are. -/
def only (tag : Nat) (bytes : List UInt8) : Option (List UInt8) :=
  match expect tag bytes with
  | some (content, []) => some content
  | _ => none

/-- Tags. -/
def boolean : Nat := 0x01
def integer : Nat := 0x02
def bitString : Nat := 0x03
def octetString : Nat := 0x04
def objectId : Nat := 0x06
def sequence : Nat := 0x30
/-- The tag of a constructed element that its context numbers. -/
def context (number : Nat) : Nat := 0xa0 + number

end AmqpHandshake.Der
