/-!
The Gregorian calendar, extended back to the first of January of year 1, which is day 0. `CivilDate.dayNumber`
counts days, `CivilDate.ofDayNumber` finds the date again.
-/

namespace CertInventory.Time

/-- A year, a month from 1 and a day of the month from 1. -/
structure CivilDate where
  year : Nat
  month : Nat
  day : Nat
  deriving DecidableEq, Repr

/-- Years divisible by four, except full centuries that are not divisible by four hundred. -/
def isLeapYear (year : Nat) : Bool :=
  year % 4 == 0 && (year % 100 != 0 || year % 400 == 0)

def monthLengths (year : Nat) : List Nat :=
  [31, if isLeapYear year then 29 else 28, 31, 30, 31, 30, 31, 31, 30, 31, 30, 31]

def daysBeforeYear (year : Nat) : Nat :=
  365 * (year - 1) + (year - 1) / 4 + (year - 1) / 400 - (year - 1) / 100

def CivilDate.isWritable (d : CivilDate) : Bool :=
  d.year ≤ 9999 && 1 ≤ d.month && d.month ≤ 12 && 1 ≤ d.day && d.day ≤ (monthLengths d.year).getD (d.month - 1) 0

def CivilDate.isValid (d : CivilDate) : Bool := 1 ≤ d.year && d.isWritable

def CivilDate.dayNumber (d : CivilDate) : Nat :=
  daysBeforeYear d.year + ((monthLengths d.year).take (d.month - 1)).foldl (· + ·) 0 + (d.day - 1)

/-- The month that a day of the year falls in, counted from 0, and the day in it, counted from 0. -/
def locateDay : List Nat → Nat → Nat × Nat
  | [], day => (0, day)
  | length :: rest, day =>
    if day < length then (0, day)
    else
      let (month, inMonth) := locateDay rest (day - length)
      (month + 1, inMonth)

/-- The year that a day number falls in: the mean length of a year puts the estimate at most one year off. -/
def yearOfDay (n : Nat) : Nat :=
  let guess := n * 400 / 146097 + 1
  if daysBeforeYear (guess + 1) ≤ n then guess + 1
  else if n < daysBeforeYear guess then guess - 1
  else guess

def CivilDate.ofDayNumber (n : Nat) : CivilDate :=
  let year := yearOfDay n
  let (month, day) := locateDay (monthLengths year) (n - daysBeforeYear year)
  ⟨year, month + 1, day + 1⟩

end CertInventory.Time
