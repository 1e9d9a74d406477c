/-! Base64 in the standard alphabet. Writing always pads; reading skips white space and also takes
text without its padding. -/
namespace AmqpHandshake.Base64

def letter (value : Nat) : Char :=
  if value < 26 then Char.ofNat ('A'.toNat + value)
  else if value < 52 then Char.ofNat ('a'.toNat + (value - 26))
  else if value < 62 then Char.ofNat ('0'.toNat + (value - 52))
  else if value = 62 then '+' else '/'

def letterValue? (c : Char) : Option Nat :=
  if 'A' ≤ c ∧ c ≤ 'Z' then some (c.toNat - 'A'.toNat)
  else if 'a' ≤ c ∧ c ≤ 'z' then some (c.toNat - 'a'.toNat + 26)
  else if '0' ≤ c ∧ c ≤ '9' then some (c.toNat - '0'.toNat + 52)
  else if c = '+' then some 62
  else if c = '/' then some 63
  else none

/-- Three bytes become four letters; one or two bytes at the end are padded to four. -/
def encode : List UInt8 → List Char
  | [] => []
  | [a] =>
    let n := a.toNat
    [letter (n / 4), letter (n % 4 * 16), '=', '=']
  | [a, b] =>
    let n := a.toNat * 256 + b.toNat
    [letter (n / 1024), letter (n / 16 % 64), letter (n % 16 * 4), '=']
  | a :: b :: c :: rest =>
    let n := (a.toNat * 256 + b.toNat) * 256 + c.toNat
    letter (n / 262144) :: letter (n / 4096 % 64) :: letter (n / 64 % 64) :: letter (n % 64) ::
      encode rest

inductive Fault
  | invalidCharacter (byte : UInt8)
  /-- Padding in front of the last group. -/
  | prematurePadding
  /-- A last group that is no group. -/
  | trailingPadding
deriving DecidableEq, Repr

def Fault.message : Fault → String
  | .invalidCharacter byte => "InvalidCharacter(" ++ toString byte.toNat ++ ")"
  | .prematurePadding => "PrematurePadding"
  | .trailingPadding => "InvalidTrailingPadding"

/-- The bytes of a run of six-bit values; bits that fill no byte are dropped. -/
def pack : List Nat → List UInt8
  | a :: b :: c :: d :: rest =>
    let n := ((a * 64 + b) * 64 + c) * 64 + d
    UInt8.ofNat (n / 65536) :: UInt8.ofNat (n / 256) :: UInt8.ofNat n :: pack rest
  | [a, b, c] =>
    let n := (a * 64 + b) * 64 + c
    [UInt8.ofNat (n / 1024), UInt8.ofNat (n / 4)]
  | [a, b] => [UInt8.ofNat ((a * 64 + b) / 16)]
  | _ => []

/-- White space between letters. -/
def isSkipped (byte : UInt8) : Bool := (9 ≤ byte && byte ≤ 13) || byte == 32

/-- The value of a letter, or nothing for padding. -/
abbrev Symbol := Option Nat

private def isPad (byte : UInt8) : Bool := byte == 61

def symbol? (byte : UInt8) : Option Symbol :=
  if isPad byte then some none else (letterValue? (Char.ofNat byte.toNat)).map some

/-- How many symbols are read before they are looked at for padding. -/
def blockLength : Nat := 8

/-- What is wrong with text up to a byte that writes no symbol: padding in a block that was complete
before the symbol in front of that byte, or else the byte itself. -/
def faultAt (ahead : List UInt8) (byte : UInt8) : Fault :=
  if (ahead.take ((ahead.length - 1) / blockLength * blockLength)).any isPad then .prematurePadding
  else .invalidCharacter byte

def symbols (text : List UInt8) : Except Fault (List Symbol) :=
  match text.dropWhile fun byte => (symbol? byte).isSome with
  | byte :: _ => .error (faultAt (text.takeWhile fun byte => (symbol? byte).isSome) byte)
  | [] => .ok (text.filterMap symbol?)

/-- The values of a group in front of the last one, where padding has no place. -/
def innerValues (group : List Symbol) : Except Fault (List Nat) :=
  match group.mapM id with
  | some values => .ok values
  | none => .error .prematurePadding

/-- The values of the last group. It is padded to four symbols or not at all, and one symbol alone
is no group. -/
def lastValues : List Symbol → Except Fault (List Nat)
  | [] => .ok []
  | [some a, some b] | [some a, some b, none, none] => .ok [a, b]
  | [some a, some b, some c] | [some a, some b, some c, none] => .ok [a, b, c]
  | [some a, some b, some c, some d] => .ok [a, b, c, d]
  | _ => .error .trailingPadding

def values : List Symbol → Except Fault (List Nat)
  | a :: b :: c :: d :: e :: rest => do
    let group ← innerValues [a, b, c, d]
    return group ++ (← values (e :: rest))
  | last => lastValues last

def decode (text : List UInt8) : Except Fault (List UInt8) := do
  let symbols ← symbols (text.filter (!isSkipped ·))
  return pack (← values symbols)

end AmqpHandshake.Base64
