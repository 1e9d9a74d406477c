/-! Decimal and hexadecimal numerals in ASCII digits. -/
namespace AmqpHandshake.Text

def digitValue? (base : Nat) (c : Char) : Option Nat :=
  let value? :=
    if '0' ≤ c ∧ c ≤ '9' then some (c.toNat - '0'.toNat)
    else if 'a' ≤ c ∧ c ≤ 'f' then some (c.toNat - 'a'.toNat + 10)
    else if 'A' ≤ c ∧ c ≤ 'F' then some (c.toNat - 'A'.toNat + 10)
    else none
  value?.filter (· < base)

/-- The number that digits stand for, or nothing when one is no digit. -/
def digitsValue? (base : Nat) (digits : List Char) : Option Nat :=
  digits.foldlM (fun value c => (digitValue? base c).map (value * base + ·)) 0

def natural? (digits : List Char) : Option Nat :=
  if digits.isEmpty then none else digitsValue? 10 digits

/-- An optional sign followed by one or more decimal digits. -/
def signed? : List Char → Option Int
  | '-' :: digits => (natural? digits).map fun n => -(n : Int)
  | '+' :: digits => (natural? digits).map Int.ofNat
  | digits => (natural? digits).map Int.ofNat

/-- Whether a number fits a signed word of 64 bits. -/
def fitsInt64 (n : Int) : Bool := -Int.ofNat (Nat.pow 2 63) ≤ n && n < Int.ofNat (Nat.pow 2 63)

/-- Digits in lower case in a base up to sixteen. -/
def inBase (base n : Nat) : String := String.ofList (Nat.toDigits base n)

/-- Decimal digits with leading zeros up to a width. -/
def padded (width n : Nat) : String :=
  String.ofList (List.leftpad width '0' (Nat.toDigits 10 n))

/-- Hexadecimal digits in lower case with leading zeros up to a width. -/
def paddedHex (width n : Nat) : String :=
  String.ofList (List.leftpad width '0' (Nat.toDigits 16 n))

end AmqpHandshake.Text
