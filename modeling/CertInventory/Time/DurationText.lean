import CertInventory.Time.Duration
import CertInventory.Text.Numeral

/-!
The two written forms of a duration: a real number literal counts seconds, and a list of items such as `1h30m`
adds them up. The literal is tried first; only a literal that is no number gives way to the list. Items are searched
for with backtracking, and what a search passes over is an error.
-/

namespace CertInventory.Time

inductive TimeUnit where
  | hour | minute | second | millisecond | microsecond | nanosecond
  deriving DecidableEq, Repr

def TimeUnit.seconds : TimeUnit → Float
  | .hour => 3600.0
  | .minute => 60.0
  | .second => 1.0
  | .millisecond => 1e-3
  | .microsecond => 1e-6
  | .nanosecond => 1e-9

def TimeUnit.read? : List Char → Option (TimeUnit × List Char)
  | 'm' :: 's' :: r => some (.millisecond, r)
  | 'u' :: 's' :: r => some (.microsecond, r)
  | 'µ' :: 's' :: r => some (.microsecond, r)
  | 'n' :: 's' :: r => some (.nanosecond, r)
  | 'h' :: r => some (.hour, r)
  | 'm' :: r => some (.minute, r)
  | 's' :: r => some (.second, r)
  | _ => none

/-- A number of units: digits before the point, digits behind it. -/
structure DurationItem where
  whole : List Nat
  fraction : List Nat
  unit : TimeUnit
  deriving DecidableEq, Repr

/-- The ways to take decimal digits off the front, at least one; the most of them first. -/
def digitRuns : List Char → List (List Nat × List Char)
  | [] => []
  | c :: r =>
    match Text.decimalDigit? c with
    | none => []
    | some d => (digitRuns r).map (fun (ds, rest) => (d :: ds, rest)) ++ [([d], r)]

/-- The ways to take a point and digits behind it off the front, the most digits first; last of all, to take nothing. -/
def fractionRuns : List Char → List (List Nat × List Char)
  | '.' :: r => digitRuns r ++ [([], '.' :: r)]
  | r => [([], r)]

/-- The item at the front of a text, by the first way to take digits and a fraction that leaves a unit. -/
def DurationItem.read? (cs : List Char) : Option (DurationItem × List Char) :=
  (digitRuns cs).findSome? fun (whole, r) =>
    (fractionRuns r).findSome? fun (fraction, r) =>
      (TimeUnit.read? r).map fun (unit, rest) => (⟨whole, fraction, unit⟩, rest)

/-- The first item that stands in a text: how many characters stand before it, the item, and what stands behind it. -/
def DurationItem.find? : List Char → Option (Nat × DurationItem × List Char)
  | [] => none
  | c :: r =>
    match DurationItem.read? (c :: r) with
    | some found => some (0, found)
    | none => (find? r).map fun (skipped, found) => (skipped + 1, found)

/-- The items of a text, searched for one after the other. Each must start where the one before it ends, and the last
must end the text. -/
def DurationItem.readAll? (cs : List Char) : Option (List DurationItem) :=
  match DurationItem.find? cs with
  | none => if cs.isEmpty then some [] else none
  | some (skipped, item, rest) =>
    -- No item is empty, so what stands behind one is always shorter.
    if skipped = 0 ∧ rest.length < cs.length then (DurationItem.readAll? rest).map (item :: ·) else none
termination_by cs.length

def DurationItem.toSeconds (item : DurationItem) : Float :=
  Text.nearestFloat (item.whole ++ item.fraction) (-(item.fraction.length : Int)) * item.unit.seconds

inductive DurationError where
  | empty
  | invalid
  | outOfRange
  deriving DecidableEq, Repr

namespace Duration

def signedItems? (cs : List Char) : Option (Bool × List DurationItem) :=
  let (negative, body) := Text.signOf cs
  match DurationItem.readAll? body with
  | some (item :: items) => some (negative, item :: items)
  | _ => none

/-- The seconds of a list of items, added from the left in double precision. -/
def itemSeconds (negative : Bool) (items : List DurationItem) : Float :=
  let total := items.foldl (fun sum item => sum + item.toSeconds) 0.0
  (if negative then -1.0 else 1.0) * total

def ofItems (cs : List Char) : Except DurationError Duration :=
  match signedItems? cs with
  | none => .error .invalid
  | some (negative, items) =>
    match ofFloatSeconds (itemSeconds negative items) with
    | .ok d => .ok d
    | .error .notANumber => .error .invalid
    | .error .outOfRange => .error .outOfRange

/-- Reads either form, blanks around it aside. -/
def parse (s : String) : Except DurationError Duration :=
  let cs := Text.trim s.toList
  if cs.isEmpty then .error .empty
  else
    match Text.real? cs with
    | none => ofItems cs
    | some literal =>
      match ofFloatSeconds literal.toFloat with
      | .ok d => .ok d
      | .error .notANumber => ofItems cs
      | .error .outOfRange => .error .outOfRange

end Duration

end CertInventory.Time
