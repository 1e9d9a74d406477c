import AmqpHandshake.Json.Value
import AmqpHandshake.Text.Numeral

/-! Reading JSON numbers. A whole number within sixty-four bits stays whole. Any other becomes a
binary number: as many leading digits as fit sixty-four bits, multiplied or divided by a power of
ten, rounded at each step. -/
namespace AmqpHandshake.Json

structure Numeral where
  negative : Bool
  whole : List Char
  fraction : Option (List Char)
  exponent : Option Int
deriving DecidableEq, Repr

/-- A sign that may be absent, and the text behind it. -/
private def takeMinus : List Char → Bool × List Char
  | '-' :: rest => (true, rest)
  | text => (false, text)

/-- A fraction that may be absent, and the text behind it. -/
private def takeFraction? : List Char → Option (Option (List Char) × List Char)
  | '.' :: rest =>
    let digits := rest.takeWhile Char.isDigit
    if digits.isEmpty then none else some (some digits, rest.dropWhile Char.isDigit)
  | text => some (none, text)

/-- An exponent that may be absent and takes all the text. -/
private def takeExponent? : List Char → Option (Option Int)
  | [] => some none
  | mark :: digits =>
    if mark = 'e' ∨ mark = 'E' then (Text.signed? digits).map some else none

/-- The parts of a number. A leading zero stands alone. -/
def Numeral.parse? (text : List Char) : Option Numeral := do
  let (negative, text) := takeMinus text
  let whole := text.takeWhile Char.isDigit
  if whole.isEmpty ∨ whole.head? = some '0' ∧ whole ≠ ['0'] then none
  let (fraction, rest) ← takeFraction? (text.dropWhile Char.isDigit)
  let exponent ← takeExponent? rest
  return ⟨negative, whole, fraction, exponent⟩

/-- Digits taken behind a significand as long as it fits sixty-four bits, and the digits left. -/
def fill (significand : Nat) : List Char → Nat × List Char
  | [] => (significand, [])
  | c :: rest =>
    let next := significand * 10 + (Text.digitValue? 10 c).getD 0
    if next < UInt64.size then fill next rest else (significand, c :: rest)

/-- The greatest exponent of a power of ten within the range of binary numbers. -/
def maxPower : Nat := 308

private def power (exponent : Nat) : Ratio :=
  (Binary64.ofDecimal ⟨false, 1, exponent⟩).size?.getD ⟨1, 1⟩

/-- A number divided by a power of ten, in steps within the range. -/
def overPower (x : Binary64) (exponent : Nat) : Binary64 :=
  if exponent ≤ maxPower ∨ x.isZero then x.dividedBy (power (min exponent maxPower))
  else overPower (x.dividedBy (power maxPower)) (exponent - maxPower)
termination_by exponent
decreasing_by simp_all [maxPower]; omega

/-- A number times a power of ten, if that is finite. -/
private def timesPower? (x : Binary64) (exponent : Nat) : Option Binary64 :=
  if x.isZero then some x
  else if exponent > maxPower then none
  else match x.times (power exponent) with
    | .finite negative mantissa exponent => some (.finite negative mantissa exponent)
    | _ => none

private def scaled? (negative : Bool) (significand : Nat) (exponent : Int) : Option Binary64 :=
  let start := Binary64.ofDecimal ⟨negative, significand, 0⟩
  if exponent < 0 then some (overPower start exponent.natAbs)
  else timesPower? start exponent.natAbs

/-- The value of a number. Zero with a sign is not whole. A number too large for a binary number has
no value. -/
def Numeral.value? (numeral : Numeral) : Option Json :=
  let (significand, behind) := fill 0 numeral.whole
  let whole : Int := if numeral.negative then -significand else significand
  let isWhole := numeral.fraction.isNone && numeral.exponent.isNone && behind.isEmpty &&
    (!numeral.negative || (significand ≠ 0 && -Int.ofNat (Nat.pow 2 63) ≤ whole))
  if isWhole then some (.integer whole)
  else
    let fraction := numeral.fraction.getD []
    let (significand, dropped) := fill significand fraction
    let exponent : Int :=
      behind.length - (fraction.length - dropped.length : Nat) + numeral.exponent.getD 0
    (scaled? numeral.negative significand exponent).map .float

def ofNumeral? (text : List Char) : Option Json := (Numeral.parse? text).bind Numeral.value?

end AmqpHandshake.Json
