import CertInventory.Decimal.Shortest

/-!
Spans of time in whole microseconds, at most 999 999 999 days long either way.
-/

namespace CertInventory.Time

structure Duration where
  micros : Int
  deriving DecidableEq, Repr

inductive SecondsError where
  | notANumber
  | outOfRange
  deriving DecidableEq, Repr

namespace Duration

def microsPerSecond : Int := 1000000

def microsPerDay : Int := 86400 * microsPerSecond

def maxDays : Int := 999999999

def ofMicros? (micros : Int) : Option Duration :=
  if -maxDays ≤ micros.fdiv microsPerDay ∧ micros.fdiv microsPerDay ≤ maxDays then some ⟨micros⟩ else none

def ofSeconds (seconds : Int) : Duration := ⟨seconds * microsPerSecond⟩

def ofWholeSeconds (seconds : Int) : Except SecondsError Duration :=
  match ofMicros? (seconds * microsPerSecond) with
  | some d => .ok d
  | none => .error .outOfRange

/-- Adds a fraction of a microsecond, between -1 and 1: to the nearest whole one, a half to the even neighbour. -/
def roundInto (micros : Int) (rest : Float) : Int :=
  let size := rest.abs
  let away : Int := if rest < 0 then micros - 1 else micros + 1
  if size < 0.5 then micros
  else if 0.5 < size then away
  else if micros % 2 = 0 then micros else away

def wholePart (x : Float) : Float := if x < 0 then x.ceil else x.floor

/-- The duration of a number of seconds: the fraction of the last second is scaled to microseconds in double
precision and then rounded. -/
def ofFloatSeconds (x : Float) : Except SecondsError Duration :=
  if x.isNaN then .error .notANumber
  else
    match Decimal.Dyadic.ofFloat? x with
    | none => .error .outOfRange
    | some d =>
      let fraction := (x - wholePart x) * 1000000.0
      let whole := wholePart fraction
      let extra := match Decimal.Dyadic.ofFloat? whole with
        | some e => e.truncate
        | none => 0
      match ofMicros? (roundInto (d.truncate * microsPerSecond + extra) (fraction - whole)) with
      | some r => .ok r
      | none => .error .outOfRange

/-- Days, hours, minutes and seconds; the days may be negative, the rest counts up from them. -/
def text (d : Duration) : String :=
  let days := d.micros.fdiv microsPerDay
  let inDay := (d.micros.fmod microsPerDay).toNat
  let seconds := inDay / 1000000
  let micros := inDay % 1000000
  let dayText :=
    if days = 0 then []
    else Text.signedDecimal days ++ (if days.natAbs = 1 then " day, " else " days, ").toList
  let clock := Text.decimal (seconds / 3600) ++ ':' :: Text.padded 2 (seconds / 60 % 60) ++
    ':' :: Text.padded 2 (seconds % 60)
  let fraction := if micros = 0 then [] else '.' :: Text.padded 6 micros
  String.ofList (dayText ++ clock ++ fraction)

def wholeSeconds (d : Duration) : Int := d.micros.tdiv microsPerSecond

end Duration

end CertInventory.Time
