import AmqpHandshake.Decimal.Ratio

/-! Binary floating point numbers of sixty-four bits. Whatever is computed is computed exactly and
then rounded once, to the nearest number; a tie goes to the even mantissa. -/
namespace AmqpHandshake

/-- The decimal number `digits * 10 ^ exponent`, with a sign of its own for zero. -/
structure Decimal where
  negative : Bool
  digits : Nat
  exponent : Int
deriving DecidableEq, Repr

/-- A binary number: a mantissa below `2 ^ 53` times a power of two, an infinity or no number. -/
inductive Binary64
  | finite (negative : Bool) (mantissa : Nat) (exponent : Int)
  | infinite (negative : Bool)
  | notNumber
deriving DecidableEq, Repr

namespace Binary64

def leastExponent : Int := -1074

/-- The nearest binary number to a positive fraction. -/
def nearest (negative : Bool) (r : Ratio) : Binary64 :=
  let guess : Int := Int.ofNat (Nat.log2 r.num) - Int.ofNat (Nat.log2 r.den) - 53
  let atExponent (q : Int) : Nat := (r.times (.scaled 2 1 (-q))).round .toEven
  let fits (q : Int) : Bool := atExponent q ≤ Nat.pow 2 53
  let exponent := max leastExponent
    (if fits guess then guess else if fits (guess + 1) then guess + 1 else guess + 2)
  let rounded := atExponent exponent
  let (mantissa, exponent) :=
    if rounded == Nat.pow 2 53 then (Nat.pow 2 52, exponent + 1) else (rounded, exponent)
  if exponent > 971 then .infinite negative else .finite negative mantissa exponent

/-- The nearest binary number to a decimal number; beyond the range it is infinite. -/
def ofDecimal (d : Decimal) : Binary64 :=
  let magnitude := d.exponent + Int.ofNat (Nat.toDigits 10 d.digits).length
  if d.digits = 0 || magnitude < -330 then .finite d.negative 0 0
  else if magnitude > 310 then .infinite d.negative
  else nearest d.negative (.scaled 10 d.digits d.exponent)

def isZero : Binary64 → Bool
  | finite _ mantissa _ => mantissa == 0
  | _ => false

def size? : Binary64 → Option Ratio
  | finite _ mantissa exponent => some (.scaled 2 mantissa exponent)
  | _ => none

/-- What becomes of the size of a number under a function that keeps zero and nothing else at zero.
Infinities stay. -/
private def mapSize (change : Ratio → Ratio) (x : Binary64) : Binary64 :=
  match x with
  | finite negative mantissa exponent =>
    if mantissa = 0 then x else nearest negative (change (.scaled 2 mantissa exponent))
  | other => other

def times (x : Binary64) (r : Ratio) : Binary64 := x.mapSize (·.times r)

def dividedBy (x : Binary64) (r : Ratio) : Binary64 := x.mapSize (·.dividedBy r)

end Binary64

end AmqpHandshake
