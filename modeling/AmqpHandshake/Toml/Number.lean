import AmqpHandshake.Text.Cut
import AmqpHandshake.Text.Numeral
import AmqpHandshake.Toml.Node

/-! Numbers, dates, times and truth values of TOML: the values that are written without marks. -/
namespace AmqpHandshake.Toml

/-- Digits of a base, where single underscores may stand between two of them. -/
def ungroup (base : Nat) (behindDigit : Bool) : List Char → Option (List Char)
  | [] => if behindDigit then some [] else none
  | c :: rest =>
    if c = '_' then if behindDigit then ungroup base false rest else none
    else if (Text.digitValue? base c).isSome then (ungroup base true rest).map (c :: ·)
    else none

private def unsigned? (base : Nat) (digits : List Char) : Option Nat := do
  Text.digitsValue? base (← ungroup base false digits)

/-- A sign that may be absent, and the text behind it. -/
def takeSign : List Char → Bool × List Char
  | '-' :: rest => (true, rest)
  | '+' :: rest => (false, rest)
  | rest => (false, rest)

def applySign (negative : Bool) (n : Nat) : Int := if negative then -(n : Int) else n

/-- Decimal digits without a leading zero. -/
def wholeDigits? (digits : List Char) : Option (List Char) := do
  let digits ← ungroup 10 false digits
  if digits.head? = some '0' ∧ digits ≠ ['0'] then none else some digits

/-- An integer: decimal with a sign, or with a mark for its base and no sign. -/
def integer? (token : List Char) : Option Int := do
  let value : Int ← match token with
    | '0' :: 'x' :: digits => (unsigned? 16 digits).map Int.ofNat
    | '0' :: 'o' :: digits => (unsigned? 8 digits).map Int.ofNat
    | '0' :: 'b' :: digits => (unsigned? 2 digits).map Int.ofNat
    | _ =>
      let (negative, digits) := takeSign token
      (wholeDigits? digits).bind fun digits =>
        (Text.digitsValue? 10 digits).map (applySign negative)
  if Text.fitsInt64 value then some value else none

private def isExponentMark (c : Char) : Bool := c = 'e' || c = 'E'

/-- The exponent behind its mark; without a mark it is zero. -/
private def exponent? : List Char → Option Int
  | [] => some 0
  | _ :: rest =>
    let (negative, digits) := takeSign rest
    (unsigned? 10 digits).map (applySign negative)

/-- A number with a fraction, an exponent or both. Too large a positive one is refused. -/
private def decimalFloat? (negative : Bool) (digits : List Char) : Option Binary64 := do
  let mantissa := digits.takeWhile (!isExponentMark ·)
  let tail := digits.dropWhile (!isExponentMark ·)
  let (whole, fraction) ← match Text.cutFirst '.' mantissa with
    | some (whole, fraction) => (ungroup 10 false fraction).map fun fraction => (whole, fraction)
    | none => if tail.isEmpty then none else some (mantissa, [])
  let whole ← wholeDigits? whole
  let value ← Text.digitsValue? 10 (whole ++ fraction)
  let exponent ← exponent? tail
  let float := Binary64.ofDecimal ⟨negative, value, exponent - (fraction.length : Int)⟩
  if float = .infinite false then none else some float

def float? (token : List Char) : Option Binary64 :=
  let (negative, digits) := takeSign token
  if digits = ['i', 'n', 'f'] then some (.infinite negative)
  else if digits = ['n', 'a', 'n'] then some .notNumber
  else decimalFloat? negative digits

private def isLeapYear (year : Nat) : Bool :=
  year % 4 == 0 && (year % 100 ≠ 0 || year % 400 == 0)

private def daysInMonth (year month : Nat) : Nat :=
  if month = 2 then if isLeapYear year then 29 else 28
  else if month = 4 ∨ month = 6 ∨ month = 9 ∨ month = 11 then 30
  else 31

/-- A number of exactly so many digits below a bound. -/
private def fixed? (digits : List Char) (low high : Nat) : Option Nat :=
  (Text.natural? digits).filter fun n => low ≤ n && n ≤ high

def isDate : List Char → Bool
  | [y1, y2, y3, y4, '-', m1, m2, '-', d1, d2] =>
    match fixed? [y1, y2, y3, y4] 0 9999, fixed? [m1, m2] 1 12, fixed? [d1, d2] 1 31 with
    | some year, some month, some day => day ≤ daysInMonth year month
    | _, _, _ => false
  | _ => false

/-- What follows a time of day, which may have a fraction of a second. -/
private def afterTime? : List Char → Option (List Char)
  | h1 :: h2 :: ':' :: m1 :: m2 :: ':' :: s1 :: s2 :: rest =>
    match fixed? [h1, h2] 0 23, fixed? [m1, m2] 0 59, fixed? [s1, s2] 0 60 with
    | some _, some _, some _ =>
      match rest with
      | '.' :: more =>
        if (more.head?.map Char.isDigit).getD false then some (more.dropWhile Char.isDigit)
        else none
      | _ => some rest
    | _, _, _ => none
  | _ => none

/-- The distance of a zone from UTC, which may be absent. -/
private def isOffset : List Char → Bool
  | [] => true
  | ['Z'] => true
  | ['z'] => true
  | [sign, h1, h2, ':', m1, m2] =>
    (sign = '+' || sign = '-') && (fixed? [h1, h2] 0 23).isSome && (fixed? [m1, m2] 0 59).isSome
  | _ => false

/-- A time of day with the offset that may follow it in a full date and time. -/
def isTimeWithOffset (text : List Char) : Bool := (afterTime? text).any isOffset

/-- A date, a time, or both with a letter between them. -/
def isMoment (token : List Char) : Bool :=
  if isDate (token.take 10) then
    match token.drop 10 with
    | [] => true
    | mark :: rest => (mark = 'T' || mark = 't') && isTimeWithOffset rest
  else afterTime? token = some []

/-- The value of a text without marks. -/
def scalarOf? (token : List Char) : Option Scalar :=
  if token = "true".toList then some (.boolean true)
  else if token = "false".toList then some (.boolean false)
  else match integer? token with
    | some value => some (.integer value)
    | none =>
      match float? token with
      | some value => some (.float value)
      | none => if isMoment token then some .moment else none

/-- What a value without marks may be made of. -/
def isTokenCharacter (c : Char) : Bool :=
  c.isAlphanum || c = '_' || c = '+' || c = '-' || c = '.' || c = ':'

/-- A value without marks. A blank may stand between a date and a time. -/
def readToken? (text : List Char) : Option (Scalar × List Char) :=
  let token := text.takeWhile isTokenCharacter
  let rest := text.dropWhile isTokenCharacter
  let time := (rest.drop 1).takeWhile isTokenCharacter
  if isDate token ∧ rest.head? = some ' ' ∧ isTimeWithOffset time then
    some (.moment, (rest.drop 1).dropWhile isTokenCharacter)
  else (scalarOf? token).map fun value => (value, rest)

end AmqpHandshake.Toml
