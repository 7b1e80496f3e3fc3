/-!
# Instants

Milliseconds since the start of 1970 as a date and a time of day, in the calendar that repeats
itself every 400 years and was never changed. Years are counted through zero.
-/

namespace TierCascade

structure Date where
  year : Int
  month : Nat
  day : Nat
  deriving Repr, DecidableEq

/-- The number of days of 400 years. -/
def daysPerEra : Int := 146097

/-- The date of a day, counted from the first day of 1970. Years are taken to start in March here,
so that the leap day is the last day of its year. -/
def Date.ofDay (day : Int) : Date :=
  let shifted := day + 719468
  let era := Int.fdiv shifted daysPerEra
  let dayOfEra := (Int.fmod shifted daysPerEra).toNat
  let yearOfEra := (dayOfEra - dayOfEra / 1460 + dayOfEra / 36524 - dayOfEra / 146096) / 365
  let dayOfYear := dayOfEra - (365 * yearOfEra + yearOfEra / 4 - yearOfEra / 100)
  let march := (5 * dayOfYear + 2) / 153
  let month := if march < 10 then march + 3 else march - 9
  { year := yearOfEra + era * 400 + (if month ≤ 2 then 1 else 0)
    month
    day := dayOfYear - (153 * march + 2) / 5 + 1 }

def paddedDigits (width n : Nat) : String :=
  let ds := Nat.toDigits 10 n
  String.ofList (List.replicate (width - ds.length) '0' ++ ds)

/-- A year has four digits or more, and a sign if it needs more than four or comes before zero. -/
def yearText (year : Int) : String :=
  let digits := paddedDigits 4 year.natAbs
  if year < 0 then "-" ++ digits else if 9999 < year then "+" ++ digits else digits

/-- The first instant that is written as a date, in the year -262143. -/
def firstInstant : Int := -8334601228800000

/-- The last instant that is written as a date, in the year 262142. -/
def lastInstant : Int := 8210266876799999

def millisPerDay : Int := 86400000

/-- An instant as date and time; one outside the calendar as a plain number. -/
def instantText (millis : Int) : String :=
  if millis < firstInstant ∨ lastInstant < millis then toString millis
  else
    let date := Date.ofDay (Int.fdiv millis millisPerDay)
    let time := (Int.fmod millis millisPerDay).toNat
    yearText date.year ++ "-" ++ paddedDigits 2 date.month ++ "-" ++ paddedDigits 2 date.day ++ "T"
      ++ paddedDigits 2 (time / 3600000) ++ ":" ++ paddedDigits 2 (time / 60000 % 60) ++ ":"
      ++ paddedDigits 2 (time / 1000 % 60) ++ "." ++ paddedDigits 3 (time % 1000) ++ "Z"

end TierCascade
