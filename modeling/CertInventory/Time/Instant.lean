import CertInventory.Time.Calendar
import CertInventory.Time.Duration

/-!
Instants of universal time in years 1 to 9999, to the microsecond, and their written form.
-/

namespace CertInventory.Time

def dayMicros : Nat := 86400000000

def endOfCalendar : Nat := 3652059 * 86400000000

structure Instant where
  micros : Nat
  inCalendar : micros < endOfCalendar
  deriving DecidableEq

namespace Instant

instance : LT Instant := ⟨fun a b => a.micros < b.micros⟩

instance : LE Instant := ⟨fun a b => a.micros ≤ b.micros⟩

instance (a b : Instant) : Decidable (a < b) := inferInstanceAs (Decidable (a.micros < b.micros))

instance (a b : Instant) : Decidable (a ≤ b) := inferInstanceAs (Decidable (a.micros ≤ b.micros))

/-- The instant so many microseconds after the start of year 1, if the calendar reaches it. -/
def ofMicros? (micros : Int) : Option Instant :=
  if h : 0 ≤ micros ∧ micros < (endOfCalendar : Int) then some ⟨micros.toNat, by omega⟩ else none

def add? (t : Instant) (d : Duration) : Option Instant := ofMicros? (t.micros + d.micros)

def date (t : Instant) : CivilDate := CivilDate.ofDayNumber (t.micros / dayMicros)

def ofCivil? (d : CivilDate) (micros : Nat) : Option Instant :=
  if d.isValid then ofMicros? (d.dayNumber * dayMicros + micros) else none

def dateText (d : CivilDate) : List Char :=
  Text.padded 4 d.year ++ '-' :: Text.padded 2 d.month ++ '-' :: Text.padded 2 d.day

def clockText (seconds : Nat) : List Char :=
  Text.padded 2 (seconds / 3600) ++ ':' :: Text.padded 2 (seconds / 60 % 60) ++
    ':' :: Text.padded 2 (seconds % 60)

def secondChars (t : Instant) : List Char :=
  dateText t.date ++ 'T' :: clockText (t.micros % dayMicros / 1000000)

/-- Date and time to the second, in universal time, the year without leading zeros. -/
def secondText (t : Instant) : String := String.ofList (Text.decimal t.date.year ++ (secondChars t).drop 4 ++ ['Z'])

/-- Date and time in universal time, with six places where the microseconds are not zero. -/
def chars (t : Instant) : List Char :=
  let fraction := t.micros % 1000000
  secondChars t ++ (if fraction = 0 then [] else '.' :: Text.padded 6 fraction) ++ ['Z']

def text (t : Instant) : String := String.ofList t.chars

/-- The start of the Unix epoch, in microseconds since the start of year 1. -/
def unixEpoch : Int := 719162 * 86400000000

end Instant

end CertInventory.Time
