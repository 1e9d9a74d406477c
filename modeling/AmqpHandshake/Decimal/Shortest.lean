import AmqpHandshake.Decimal.Binary64

/-! The text of a binary number: the fewest decimal digits that read back, in a style that says
which of two equally near decimals is taken and where the point stands. -/
namespace AmqpHandshake

/-- How numbers are written. -/
structure NumberStyle where
  /-- Where a number half-way between two decimals of the fewest digits goes. -/
  tie : Tie
  /-- The least and the greatest exponent of a leading digit that is written in its place. Beyond
  them the exponent is written out. Without bounds every digit is written in its place. -/
  places : Option (Int × Int)
deriving DecidableEq, Repr

def NumberStyle.isPlaced (style : NumberStyle) (leading : Int) : Bool :=
  match style.places with
  | some (least, greatest) => least ≤ leading && leading ≤ greatest
  | none => true

namespace Binary64

/-- The fewest decimal digits between the two neighbouring midpoints, and the exponent of the last.
Of two such decimals the nearer is taken. The midpoints belong to an even mantissa. -/
def shortest (tie : Tie) (mantissa : Nat) (exponent : Int) : Nat × Int :=
  let value := Ratio.scaled 2 mantissa exponent
  let high := Ratio.scaled 2 (2 * mantissa + 1) (exponent - 1)
  let low :=
    if mantissa = Nat.pow 2 52 ∧ exponent > leastExponent then
      Ratio.scaled 2 (4 * mantissa - 1) (exponent - 2)
    else Ratio.scaled 2 (2 * mantissa - 1) (exponent - 1)
  let inside (r : Ratio) : Bool :=
    if mantissa % 2 == 0 then low.le r && r.le high else low.lt r && r.lt high
  let whole := (Nat.toDigits 10 (value.num / value.den)).length
  let leading : Int :=
    if value.num ≥ value.den then Int.ofNat whole
    else 1 - Int.ofNat (Nat.toDigits 10 (value.den / value.num)).length
  let onGrid (count : Nat) : Option (Nat × Int) :=
    let scale : Int := leading + 1 - Int.ofNat count
    let steps := value.times (Ratio.scaled 10 1 (-scale))
    let below := steps.num / steps.den
    let nearer := steps.round tie
    let farther := if nearer = below then below + 1 else below
    if inside (Ratio.scaled 10 nearer scale) then some (nearer, scale)
    else if inside (Ratio.scaled 10 farther scale) then some (farther, scale)
    else none
  ((List.range 19).findSome? onGrid).getD (0, 0)

/-- Digits in their places, with at least one digit after the point. -/
private def placed (digits : List Char) (scale : Int) : String :=
  if 0 ≤ scale then String.ofList (digits ++ List.replicate scale.natAbs '0') ++ ".0"
  else
    let places := scale.natAbs
    let digits := List.leftpad (places + 1) '0' digits
    let (whole, part) := digits.splitAt (digits.length - places)
    String.ofList (whole ++ '.' :: part)

/-- The leading digit, the others after a point, and the exponent with its sign. -/
private def withExponent (digits : List Char) (leading : Int) : String :=
  let behind := digits.drop 1
  let point := if behind.isEmpty then [] else ['.']
  let sign := if leading < 0 then "e-" else "e+"
  String.ofList (digits.take 1 ++ point ++ behind) ++ sign ++ toString leading.natAbs

def text (style : NumberStyle) : Binary64 → String
  | .notNumber => "NaN"
  | .infinite negative => if negative then "-inf" else "inf"
  | .finite negative mantissa exponent =>
    let sign := if negative then "-" else ""
    if mantissa = 0 then sign ++ "0.0"
    else
      let (number, scale) := shortest style.tie mantissa exponent
      let digits := Nat.toDigits 10 number
      let leading := scale + Int.ofNat digits.length - 1
      sign ++ if style.isPlaced leading then placed digits scale else withExponent digits leading

end Binary64

end AmqpHandshake
