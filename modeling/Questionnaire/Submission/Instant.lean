/-
  Points in time, and their text.

  Key definitions include:
    * `Instant`
    * `Date.ofDays`
    * `Instant.text`

  The calendar is the Gregorian one, also before it was
  introduced, and there is a year zero.
-/

------------------------------------------------------------
-- Dates
------------------------------------------------------------

namespace Questionnaire

/- A day of the Gregorian calendar. -/
structure Date where
  year : Int
  month : Nat
  day : Nat
  deriving DecidableEq, Repr

/-
  The date of a day counted from 1 January 1970.  Years are
  taken to begin in March, so that a leap day ends its year;
  the calendar repeats every 400 years of 146097 days.
-/
def Date.ofDays
    (days : Int) : Date :=
  let shifted := days + 719468
  let era := shifted / 146097
  let dayOfEra := (shifted % 146097).toNat
  let yearOfEra :=
    (dayOfEra - dayOfEra / 1460 + dayOfEra / 36524
      - dayOfEra / 146096) / 365
  let dayOfYear :=
    dayOfEra - (365 * yearOfEra + yearOfEra / 4 - yearOfEra / 100)
  let monthFromMarch := (5 * dayOfYear + 2) / 153
  let month :=
    if monthFromMarch < 10 then
      monthFromMarch + 3
    else
      monthFromMarch - 9
  { year := era * 400 + yearOfEra + (if month ≤ 2 then 1 else 0)
    month := month
    day := dayOfYear - (153 * monthFromMarch + 2) / 5 + 1 }

end Questionnaire

------------------------------------------------------------
-- Instants
------------------------------------------------------------

namespace Questionnaire

/-
  Seconds since the beginning of 1970 and the nanoseconds of the
  second; a leap second has nanoseconds from 10^9 on.
-/
structure Instant where
  seconds : Int
  nanoseconds : Nat
  deriving DecidableEq, Repr

/- A number in at least so many digits. -/
def padded
    (width : Nat)
    (n : Nat) : List Char :=
  let digits := Nat.toDigits 10 n
  List.replicate (width - digits.length) '0' ++ digits

/- A year; one beyond four digits has its sign. -/
def yearText
    (year : Int) : List Char :=
  if 0 ≤ year && year ≤ 9999 then
    padded 4 year.toNat
  else
    (if year < 0 then '-' else '+') :: padded 4 year.natAbs

/- An instant to the millisecond, in universal time. -/
def Instant.text
    (instant : Instant) : String :=
  let date := Date.ofDays (instant.seconds / 86400)
  let second := (instant.seconds % 86400).toNat
  String.ofList
    (yearText date.year
      ++ '-' :: padded 2 date.month
      ++ '-' :: padded 2 date.day
      ++ 'T' :: padded 2 (second / 3600)
      ++ ':' :: padded 2 (second / 60 % 60)
      ++ ':' :: padded 2
        (second % 60 + instant.nanoseconds / Nat.pow 10 9)
      ++ '.' :: padded 3
        (instant.nanoseconds % Nat.pow 10 9 / Nat.pow 10 6)
      ++ ['Z'])

end Questionnaire
