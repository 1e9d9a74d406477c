import AmqpHandshake.Text.Numeral

/-! Points in time, whole seconds in UTC, and their text. The range is that of the civil years
from -262143 to 262142. -/
namespace AmqpHandshake

/-- A day of the proleptic Gregorian calendar. -/
structure CivilDate where
  year : Int
  month : Nat
  day : Nat
deriving DecidableEq, Repr

/-- The day that lies a number of days after 1 January 1970. Years are counted from 1 March, in
eras of four hundred years, so that the leap day comes last. -/
def CivilDate.ofDays (days : Int) : CivilDate :=
  let shifted := days + 719468
  let era := shifted / 146097
  let dayOfEra := (shifted % 146097).toNat
  let yearOfEra :=
    (dayOfEra - dayOfEra / 1460 + dayOfEra / 36524 - dayOfEra / 146096) / 365
  let dayOfYear := dayOfEra - (365 * yearOfEra + yearOfEra / 4 - yearOfEra / 100)
  let fromMarch := (5 * dayOfYear + 2) / 153
  let month := if fromMarch < 10 then fromMarch + 3 else fromMarch - 9
  { year := yearOfEra + era * 400 + if month ≤ 2 then 1 else 0
    month
    day := dayOfYear - (153 * fromMarch + 2) / 5 + 1 }

/-- Years of four digits stand alone, all others carry a sign. -/
def CivilDate.text (date : CivilDate) : String :=
  let year :=
    if 0 ≤ date.year ∧ date.year ≤ 9999 then Text.padded 4 date.year.natAbs
    else (if date.year < 0 then "-" else "+") ++ Text.padded 4 date.year.natAbs
  year ++ "-" ++ Text.padded 2 date.month ++ "-" ++ Text.padded 2 date.day

/-- Seconds since 1 January 1970, within the representable range. -/
structure UtcTime where
  seconds : Int
  earliest : -8334601228800 ≤ seconds
  latest : seconds ≤ 8210266876799
deriving DecidableEq

def UtcTime.ofSeconds? (seconds : Int) : Option UtcTime :=
  if h : -8334601228800 ≤ seconds ∧ seconds ≤ 8210266876799 then some ⟨seconds, h.1, h.2⟩
  else none

theorem UtcTime.ofSeconds?_seconds (time : UtcTime) : ofSeconds? time.seconds = some time := by
  simp [ofSeconds?, time.earliest, time.latest]

private def UtcTime.civilText (time : UtcTime) : String :=
  let second := (time.seconds % 86400).toNat
  (CivilDate.ofDays (time.seconds / 86400)).text ++ "T" ++ Text.padded 2 (second / 3600) ++ ":" ++
    Text.padded 2 (second / 60 % 60) ++ ":" ++ Text.padded 2 (second % 60)

/-- Date and time with a numeric offset. -/
def UtcTime.rfc3339 (time : UtcTime) : String := time.civilText ++ "+00:00"

/-- Date and time with the letter for UTC. -/
def UtcTime.inspect (time : UtcTime) : String := time.civilText ++ "Z"

end AmqpHandshake
