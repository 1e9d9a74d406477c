/-! Fractions of natural numbers, compared and rounded exactly. -/
namespace AmqpHandshake

/-- Where a number half-way between two neighbours goes. -/
inductive Tie
  | toEven
  | away
deriving DecidableEq, Repr

/-- A fraction; its denominator is positive. -/
structure Ratio where
  num : Nat
  den : Nat
deriving DecidableEq, Repr

namespace Ratio

def scaled (base digits : Nat) (exponent : Int) : Ratio :=
  let power := Nat.pow base exponent.natAbs
  if exponent < 0 then ⟨digits, power⟩ else ⟨digits * power, 1⟩

def times (r s : Ratio) : Ratio := ⟨r.num * s.num, r.den * s.den⟩

/-- The quotient by a fraction that is not zero. -/
def dividedBy (r s : Ratio) : Ratio := ⟨r.num * s.den, r.den * s.num⟩

def le (r s : Ratio) : Bool := r.num * s.den ≤ s.num * r.den

def lt (r s : Ratio) : Bool := r.num * s.den < s.num * r.den

def round (tie : Tie) (r : Ratio) : Nat :=
  let quotient := r.num / r.den
  let twice := 2 * (r.num % r.den)
  let up := twice > r.den || (twice == r.den && (tie == .away || quotient % 2 == 1))
  if up then quotient + 1 else quotient

end Ratio

end AmqpHandshake
