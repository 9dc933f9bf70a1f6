import CausalTrace.Text.Decimal

/-!
# Dates of points in time

A point in time is a count of milliseconds since the start of 1970.  Its date is that of the
proleptic Gregorian calendar, with a year 0 and negative years before it.  The day count is cut
into eras of 400 years, which all have the same number of days; within an era years start in
March, so the leap day is the last of its year.
-/

namespace CausalTrace.Calendar

/-- A day of the calendar. -/
structure Date where
  year : Int
  month : Nat
  day : Nat
  deriving DecidableEq, Repr, Inhabited

/-- The date of a day, counted from the first day of 1970. -/
def date (dayCount : Int) : Date :=
  let shifted := dayCount + 719468
  let era := shifted / 146097
  let dayOfEra := (shifted % 146097).toNat
  let yearOfEra :=
    (dayOfEra - dayOfEra / 1460 + dayOfEra / 36524 - dayOfEra / 146096) / 365
  let dayOfYear := dayOfEra - (365 * yearOfEra + yearOfEra / 4 - yearOfEra / 100)
  let monthFromMarch := (5 * dayOfYear + 2) / 153
  let day := dayOfYear - (153 * monthFromMarch + 2) / 5 + 1
  let month := if monthFromMarch < 10 then monthFromMarch + 3 else monthFromMarch - 9
  let year := (yearOfEra : Int) + era * 400 + if month ≤ 2 then 1 else 0
  ⟨year, month, day⟩

/-- Milliseconds in a day. -/
def dayLength : Int := 86400000

/-- The first point in time that has a date. -/
def first : Int := -8334601228800000

/-- The last point in time that has a date. -/
def last : Int := 8210266876799999

/-- A year of the range 0 to 9999 has four digits; any other has a sign as well. -/
def renderYear (year : Int) : String :=
  if 0 ≤ year ∧ year ≤ 9999 then Decimal.padded 4 year.toNat
  else (if year < 0 then "-" else "+") ++ Decimal.padded 4 year.natAbs

/-- Date and time of day with separators between their parts. -/
def renderParts (time : Int) (inDate between inTime : String) : String :=
  let date := date (time / dayLength)
  let rest := (time % dayLength).toNat
  let two := Decimal.padded 2
  renderYear date.year ++ inDate ++ two date.month ++ inDate ++ two date.day
    ++ between ++ two (rest / 3600000) ++ inTime ++ two (rest / 60000 % 60)
    ++ inTime ++ two (rest / 1000 % 60) ++ "." ++ Decimal.padded 3 (rest % 1000)

/-- Date and time of day, or the plain number for a point in time without a date. -/
def render (time : Int) : String :=
  if first ≤ time ∧ time ≤ last then renderParts time "-" " " ":" else Decimal.renderInt time

end CausalTrace.Calendar
