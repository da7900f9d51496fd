import CertInventory.Datum.Shown
import CertInventory.Datum.Yaml.Graph
import CertInventory.Datum.Yaml.Scalar
import CertInventory.Text.Base64
import CertInventory.Text.Case
import CertInventory.Text.Cut
import CertInventory.Text.Numeral

/-!
The values that the texts of scalars stand for, by their tags. The text of a scalar with a tag of its own need not have
the form that the tag asks for, so every reading can fail. A map stands for a scalar too where it has an entry for a
default value.
-/

namespace CertInventory.Yaml

open Time

inductive ValueError where
  | malformed
  | refused (message : String)
  | unknownTruth
  | unmatchedTime
  | timeOfMap
  | emptyNumber
  | outOfRange
  | tooDeep
  deriving DecidableEq, Repr

namespace Literal

def isCharacter (n : Nat) : Bool := n.isValidChar

/-- A text as characters. A code that is no character becomes NUL, which no literal holds. -/
def chars (text : List Nat) : List Char := text.map Char.ofNat

def string (text : List Nat) : String := String.ofList (chars text)

/-- The small form of a text. Runs of characters are made small one by one, and other codes are kept. -/
def lower (text : List Nat) : List Nat :=
  (text.splitBy fun a b => isCharacter a == isCharacter b).flatMap fun run =>
    if run.all isCharacter then codes (Text.lower (chars run)) else run

def withoutUnderscores (text : List Nat) : List Nat := text.filter (· ≠ '_'.toNat)

/-- Whether a minus sign stands before a number, and the number; an empty text has none. -/
def signed : List Nat → Except ValueError (Bool × List Nat)
  | [] => .error .emptyNumber
  | c :: r => .ok (c = '-'.toNat, if c = '-'.toNat ∨ c = '+'.toNat then r else c :: r)

def sixties (text : List Nat) : List (List Nat) := Text.splitAll ':'.toNat text

def intIn (base : Nat) (text : List Nat) : Except ValueError Int :=
  match Text.integerIn base (chars text) with
  | .ok n => .ok n
  | .error (.tooLong digits) => .error (.refused (Text.tooLongMessage digits))
  | .error .malformed => .error (.refused (Text.noIntegerMessage base (Text.quotedCodes text)))

/-- A whole number without a sign: in base two, sixteen or eight by its beginning, in base sixty by its colons. -/
def unsignedInt (text : List Nat) : Except ValueError Int :=
  match chars text with
  | [] => .error .emptyNumber
  | ['0'] => .ok 0
  | '0' :: 'b' :: _ => intIn 2 (text.drop 2)
  | '0' :: 'x' :: _ => intIn 16 (text.drop 2)
  | '0' :: _ => intIn 8 text
  | cs =>
    if cs.contains ':' then (sixties text).foldlM (fun n part => (intIn 10 part).map (60 * n + ·)) 0
    else intIn 10 text

def int (text : List Nat) : Except ValueError Int := do
  let (negative, body) ← signed (withoutUnderscores text)
  let n ← unsignedInt body
  return if negative then -n else n

def decimalFloat (text : List Nat) : Except ValueError Float :=
  match Text.real? (chars text) with
  | some literal => .ok literal.toFloat
  | none => .error (.refused ("could not convert string to float: " ++ Text.quotedCodes text))

/-- The parts of a number in base sixty, least first and from a power of sixty on, added to a sum. A power must have a
nearest double. -/
def sixtiesSum (sum : Float) (power : Nat) : List Float → Except ValueError Float
  | [] => .ok sum
  | x :: r =>
    if Decimal.floatLimit ≤ power then .error .outOfRange
    else sixtiesSum (sum + x * Float.ofNat power) (power * 60) r

def notANumber : List Nat := codes ".nan".toList

def float (text : List Nat) : Except ValueError Float := do
  let (negative, body) ← signed (lower (withoutUnderscores text))
  let sign : Float := if negative then -1.0 else 1.0
  if body == codes ".inf".toList then return sign * (1.0 / 0.0)
  else if body == notANumber then return 0.0 / 0.0
  else if body.contains ':'.toNat then
    let parts ← (sixties body).mapM decimalFloat
    return sign * (← sixtiesSum 0.0 1 parts.reverse)
  else return sign * (← decimalFloat body)

/-- Whether a fractional number is written as `notANumber`. All these are one value, as a key too. -/
def isNotANumber (text : List Nat) : Bool :=
  match signed (lower (withoutUnderscores text)) with
  | .ok (_, body) => body == notANumber
  | .error _ => false

def offset : Option (Bool × Nat × Nat) → Except ValueError Int
  | none => .ok 0
  | some (negative, hours, minutes) =>
    let size : Int := hours * 3600 + minutes * 60
    let seconds := if negative then -size else size
    if size < 86400 then .ok seconds
    else .error (.refused ("offset must be a timedelta strictly between -timedelta(hours=24) and " ++
      "timedelta(hours=24), not " ++ Datum.shownOffset seconds ++ "."))

def date (t : Tag.WrittenTimestamp) : Except ValueError CivilDate :=
  let d : CivilDate := ⟨t.year, t.month, t.day⟩
  if t.year = 0 then .error (.refused "year 0 is out of range")
  else if t.month < 1 ∨ 12 < t.month then .error (.refused "month must be in 1..12")
  else if !d.isValid then .error (.refused "day is out of range for month")
  else .ok d

def fractionMicros (ds : List Nat) : Nat :=
  let ds := ds.take 6
  Text.ofDigits 10 (ds ++ List.replicate (6 - ds.length) 0)

def timestamp (text : List Nat) : Except ValueError Scalar :=
  match Tag.timestamp? (Tag.withoutLineEnd (chars text)) with
  | none => .error .unmatchedTime
  | some t =>
    match t.clock with
    | none => (date t).map .date
    | some (hour, minute, second, fraction) => do
      let zone ← match t.zone with
        | none => pure none
        | some z => (offset z).map some
      let d ← date t
      if 23 < hour then .error (.refused "hour must be in 0..23")
      else if 59 < minute then .error (.refused "minute must be in 0..59")
      else if 59 < second then .error (.refused "second must be in 0..59")
      else
        match Instant.ofCivil? d (((hour * 60 + minute) * 60 + second) * 1000000 + fractionMicros fraction) with
        | some reading => return .time ⟨reading, zone⟩
        | none => .error .malformed

def truth (text : List Nat) : Except ValueError Bool :=
  let word := Text.lowered (string text)
  if ["yes", "true", "on"].contains word then .ok true
  else if ["no", "false", "off"].contains word then .ok false
  else .error .unknownTruth

def bytes (text : List Nat) : Except ValueError (List UInt8) :=
  if text.all (· < 0x80) then
    match Text.Base64.gather? (chars text) with
    | some bs => .ok bs
    | none => .error .malformed
  else .error .malformed

end Literal

namespace Graph

/-- The text of a node: a scalar's own, or that of a map's entry for a default value. The node at the end of a chain of
such entries is found in as many steps as there are nodes, unless they lead in a circle. -/
def textIn (g : Graph) : Nat → NodeId → Except ValueError (List Nat)
  | 0, _ => .error .tooDeep
  | fuel + 1, id =>
    match g.content id with
    | .scalar text => .ok text
    | .list _ => .error .malformed
    | .map es =>
      match es.find? fun (k, _) => g.tag k = .defaultValue with
      | some (_, value) => g.textIn fuel value
      | none => .error .malformed

def text (g : Graph) (id : NodeId) : Except ValueError (List Nat) := g.textIn (g.size + 1) id

/-- The value of a node whose tag is that of a scalar. Of a map, a timestamp has no value, even where it has a text. -/
def scalar (g : Graph) (id : NodeId) : Except ValueError Scalar := do
  match g.tag id with
  | .null =>
    let _ ← g.text id
    return .null
  | .bool => return .bool (← Literal.truth (← g.text id))
  | .int => return .int (← Literal.int (← g.text id))
  | .float => return .real (← Literal.float (← g.text id))
  | .timestamp =>
    let text ← g.text id
    match g.content id with
    | .scalar _ => Literal.timestamp text
    | _ => throw .timeOfMap
  | .text => return .ofCodes (← g.text id)
  | .binary => return .bytes (← Literal.bytes (← g.text id))
  | _ => throw .malformed

def isNotANumber (g : Graph) (id : NodeId) : Bool :=
  g.tag id == .float && match g.text id with
    | .ok text => Literal.isNotANumber text
    | .error _ => false

end Graph

end CertInventory.Yaml
