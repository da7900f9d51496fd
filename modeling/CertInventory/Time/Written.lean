import CertInventory.Time.Instant
import CertInventory.Text.Numeral

/-!
Times as they are written in documents: a date, a date with a time and perhaps an offset, or a number of Unix
seconds. A time without an offset is universal time. Year 0 can be written, but the calendar does not reach it.
-/

namespace CertInventory.Time

/-- A date and time as written, with the offset in seconds if there is one. -/
structure WrittenTime where
  reading : Instant
  offset : Option Int

def WrittenTime.toInstant? (w : WrittenTime) : Option Instant :=
  Instant.ofMicros? (w.reading.micros - w.offset.getD 0 * 1000000)

namespace WrittenTime

def twoDigits? (a b : Char) : Option Nat := do
  let x ← Text.asciiDigit? a
  let y ← Text.asciiDigit? b
  return 10 * x + y

def date? : List Char → Option (CivilDate × List Char)
  | y1 :: y2 :: y3 :: y4 :: '-' :: m1 :: m2 :: '-' :: d1 :: d2 :: r => do
    let century ← twoDigits? y1 y2
    let years ← twoDigits? y3 y4
    let month ← twoDigits? m1 m2
    let day ← twoDigits? d1 d2
    let d : CivilDate := ⟨100 * century + years, month, day⟩
    if d.isWritable then some (d, r) else none
  | _ => none

def fractionMicros (ds : List Nat) : Nat :=
  Text.ofDigits 10 (ds.take 6) * Nat.pow 10 (6 - (ds.take 6).length)

/-- Decimal places behind a point or a comma, if there is one; at least one digit must follow it. -/
def fraction? : List Char → Option (Nat × List Char)
  | c :: r =>
    if c = '.' ∨ c = ',' then
      let ds := (r.takeWhile fun d => (Text.asciiDigit? d).isSome).filterMap Text.asciiDigit?
      if ds.isEmpty then none
      else some (fractionMicros ds, r.dropWhile fun d => (Text.asciiDigit? d).isSome)
    else some (0, c :: r)
  | [] => some (0, [])

/-- The time of day at the front of a text, in microseconds; seconds may be left out. -/
def clock? : List Char → Option (Nat × List Char)
  | h1 :: h2 :: ':' :: m1 :: m2 :: r => do
    let hour ← twoDigits? h1 h2
    let minute ← twoDigits? m1 m2
    if 23 < hour ∨ 59 < minute then none
    else
      match r with
      | ':' :: s1 :: s2 :: r => do
        let second ← twoDigits? s1 s2
        if 59 < second then none
        else
          let (micros, rest) ← fraction? r
          return ((hour * 3600 + minute * 60 + second) * 1000000 + micros, rest)
      | ':' :: _ => none
      | _ => some ((hour * 3600 + minute * 60) * 1000000, r)
  | _ => none

def signedOffset? (sign : Int) (h1 h2 m1 m2 : Char) : Option (Option Int) := do
  let hour ← twoDigits? h1 h2
  let minute ← twoDigits? m1 m2
  if 59 < minute ∨ 23 < hour then none else some (some (sign * (hour * 3600 + minute * 60)))

def offset? : List Char → Option (Option Int)
  | [] => some none
  | ['Z'] => some (some 0)
  | ['z'] => some (some 0)
  | [s, h1, h2, ':', m1, m2] =>
    if s = '+' then signedOffset? 1 h1 h2 m1 m2
    else if s = '-' ∨ s = '−' then signedOffset? (-1) h1 h2 m1 m2
    else none
  | [s, h1, h2, m1, m2] =>
    if s = '+' then signedOffset? 1 h1 h2 m1 m2
    else if s = '-' ∨ s = '−' then signedOffset? (-1) h1 h2 m1 m2
    else none
  | _ => none

abbrev Parts := CivilDate × Nat × Option Int

/-- A date and a time with one of the characters `T`, `t`, space and `_` between them. -/
def dateTime? (cs : List Char) : Option Parts := do
  let (d, r) ← date? cs
  match r with
  | sep :: r =>
    if sep = 'T' ∨ sep = 't' ∨ sep = ' ' ∨ sep = '_' then
      let (micros, rest) ← clock? r
      let offset ← offset? rest
      return (d, micros, offset)
    else none
  | [] => none

def midnight? (cs : List Char) : Option Parts := do
  let (d, r) ← date? cs
  if r.isEmpty then return (d, 0, none) else none

def ofParts? : Parts → Option WrittenTime
  | (d, micros, offset) => (Instant.ofCivil? d micros).map fun t => ⟨t, offset⟩

def read? (cs : List Char) : Option WrittenTime := ((dateTime? cs).orElse fun () => midnight? cs).bind ofParts?

end WrittenTime

namespace Unix

/-- Numbers up to this one count seconds, and greater ones count milliseconds. -/
def secondsLimit : Nat := 20000000000

def micros (n : Int) : Int := if n.natAbs ≤ secondsLimit then n * 1000000 else n * 1000

/-- Microseconds from the start of the Unix epoch to a double: the whole number below it, and the rest rounded. -/
def microsOfFloat? (x : Float) : Option Int := do
  let whole ← Decimal.Dyadic.ofFloat? x.floor
  let unit : Nat := if x.abs ≤ 20000000000.0 then 1000000 else 1000
  let rest ← Decimal.Dyadic.ofFloat? ((x - x.floor) * unit.toFloat).round
  return whole.truncate * unit + rest.truncate

def instant? (micros : Int) : Option Instant := Instant.ofMicros? (Instant.unixEpoch + micros)

def digitRun (cs : List Char) : List Nat × List Char :=
  ((cs.takeWhile fun c => (Text.asciiDigit? c).isSome).filterMap Text.asciiDigit?,
    cs.dropWhile fun c => (Text.asciiDigit? c).isSome)

def exponent? : List Char → Option Int
  | [] => some 0
  | c :: r =>
    let (negative, body) := Text.signOf r
    match digitRun body with
    | (d :: ds, []) =>
      if c ≠ 'e' ∧ c ≠ 'E' then none
      else some (if negative then -(Text.ofDigits 10 (d :: ds) : Int) else Text.ofDigits 10 (d :: ds))
    | _ => none

/-- Microseconds from the start of the Unix epoch to a number written with ASCII digits. Only behind a point may an
exponent stand. -/
def written? (cs : List Char) : Option Int :=
  let (negative, body) := Text.signOf cs
  match digitRun body with
  | ([], []) => none
  | (whole, []) =>
    let n : Int := Text.ofDigits 10 whole
    some (micros (if negative then -n else n))
  | (whole, '.' :: r) => do
    let (places, r) := digitRun r
    if whole.isEmpty && places.isEmpty then none
    else
      let x := Text.nearestFloat (whole ++ places) ((← exponent? r) - places.length)
      microsOfFloat? (if negative then -x else x)
  | _ => none

/-- The first microsecond of year 0, seen from the start of the Unix epoch. -/
def yearZero : Int := -Instant.unixEpoch - 366 * 86400000000

def read? (cs : List Char) : Option Int :=
  (written? cs).filter fun m => yearZero ≤ m && Instant.unixEpoch + m < endOfCalendar

end Unix

/-- Why a text names no time: it has no form of one, or the calendar does not reach back to it. -/
inductive ReadProblem where
  | unreadable
  | beforeCalendar
  deriving DecidableEq, Repr

/-- The time that a text names, in the first of its forms that fits: a date and time, Unix seconds, a date. -/
def readTime (cs : List Char) : Except ReadProblem WrittenTime :=
  let found (w : Option WrittenTime) : Except ReadProblem WrittenTime :=
    match w with
    | some w => .ok w
    | none => .error .beforeCalendar
  match WrittenTime.dateTime? cs, Unix.read? cs, WrittenTime.midnight? cs with
  | some parts, _, _ => found (WrittenTime.ofParts? parts)
  | none, some micros, _ => found ((Unix.instant? micros).map fun t => ⟨t, none⟩)
  | none, none, some parts => found (WrittenTime.ofParts? parts)
  | none, none, none => .error .unreadable

end CertInventory.Time
