import CertInventory.Datum.Basic
import CertInventory.Text.Cut
import CertInventory.Text.Utf8

/-!
Reading typed values out of a document's content. A reading either succeeds or lists every problem it met, each
with the path to it; a number that leaves the range of times breaks off the whole reading.
-/

namespace CertInventory

inductive PathStep where
  | field (name : String)
  | index (i : Nat)
  deriving DecidableEq, Repr

inductive Problem where
  | missing
  | notText
  | notUnicode
  | notBytes
  | notTruth
  | unreadableTruth
  | notInteger
  | unreadableInteger
  | fractionalInteger
  | oversizedInteger
  | infiniteNumber
  | notList
  | notRecord
  | notMap
  | notAmongChoices
  | notTime
  | unreadableTime
  | timeOutOfReach
  | noSuchField
  | rejected (message : String)
  deriving DecidableEq, Repr

def Problem.code : Problem → String
  | .missing => "missing"
  | .notText => "string_type"
  | .notUnicode => "string_unicode"
  | .notBytes => "bytes_type"
  | .notTruth => "bool_type"
  | .unreadableTruth => "bool_parsing"
  | .notInteger => "int_type"
  | .unreadableInteger => "int_parsing"
  | .fractionalInteger => "int_from_float"
  | .oversizedInteger => "int_parsing_size"
  | .infiniteNumber => "finite_number"
  | .notList => "list_type"
  | .notRecord => "model_type"
  | .notMap => "dict_type"
  | .notAmongChoices => "literal_error"
  | .notTime => "datetime_type"
  | .unreadableTime => "datetime_from_date_parsing"
  | .timeOutOfReach => "datetime_parsing"
  | .noSuchField => "no_such_attribute"
  | .rejected _ => "value_error"

structure Detail where
  path : List PathStep
  problem : Problem
  deriving DecidableEq, Repr

inductive Refusal where
  | invalid (details : List Detail)
  | outOfRange
  deriving DecidableEq, Repr

/-- Both refusals at once: problems add up, and a number out of range hides them. -/
def Refusal.and : Refusal → Refusal → Refusal
  | .invalid a, .invalid b => .invalid (a ++ b)
  | _, _ => .outOfRange

def Refusal.under (step : PathStep) : Refusal → Refusal
  | .invalid ds => .invalid (ds.map fun d => { d with path := step :: d.path })
  | .outOfRange => .outOfRange

inductive Checked (α : Type) where
  | good (a : α)
  | refused (r : Refusal)

namespace Checked

def problem {α : Type} (p : Problem) : Checked α := .refused (.invalid [⟨[], p⟩])

def under {α : Type} (step : PathStep) : Checked α → Checked α
  | .good a => .good a
  | .refused r => .refused (r.under step)

def map {α β : Type} (f : α → β) : Checked α → Checked β
  | .good a => .good (f a)
  | .refused r => .refused r

def both {α β : Type} : Checked (α → β) → Checked α → Checked β
  | .good f, .good a => .good (f a)
  | .good _, .refused r => .refused r
  | .refused r, .good _ => .refused r
  | .refused r, .refused s => .refused (r.and s)

instance : Functor Checked where
  map := Checked.map

instance : Seq Checked where
  seq f x := Checked.both f (x ())

instance : Pure Checked where
  pure := Checked.good

def toExcept {α : Type} : Checked α → Except Refusal α
  | .good a => .ok a
  | .refused r => .error r

end Checked

namespace Datum

/-- The text of a value: text as it is, and bytes that are UTF-8. Bytes of another form are the given problem, wide text
is none that is kept here, and a value of another kind has no text. -/
def textForm? (damaged : Problem) : Datum → Option (Checked String)
  | .text s => some (.good s)
  | .scalar (.wide _) => some (.problem .notUnicode)
  | .scalar (.bytes bs) =>
    match Text.Utf8.decode? bs with
    | some cs => some (.good (String.ofList cs))
    | none => some (.problem damaged)
  | _ => none

def byText {α : Type} (damaged other : Problem) (read : String → Checked α) (d : Datum) : Checked α :=
  match d.textForm? damaged with
  | some (.good s) => read s
  | some (.refused r) => .refused r
  | none => .problem other

def toText (d : Datum) : Checked String := d.byText .notUnicode .notText .good

def truthOfWord? (s : String) : Option Bool :=
  let w := String.ofList (Text.asciiLower s.toList)
  if w ∈ ["1", "on", "t", "true", "y", "yes"] then some true
  else if w ∈ ["0", "off", "f", "false", "n", "no"] then some false
  else none

def truthOfText (s : String) : Checked Bool :=
  match truthOfWord? s with
  | some b => .good b
  | none => .problem .unreadableTruth

def truthOfNumber (n : Int) : Checked Bool :=
  if n = 0 then .good false else if n = 1 then .good true else .problem .unreadableTruth

/-- Truth values, the numbers zero and one, and the words for them. A number that is not whole or beyond 64 bits is
none at all. -/
def toTruth : Datum → Checked Bool
  | .bool b => .good b
  | .int n => if -(Nat.pow 2 63 : Int) ≤ n ∧ n < (Nat.pow 2 63 : Int) then truthOfNumber n else .problem .notTruth
  | .real x =>
    match Decimal.Dyadic.ofFloat? x with
    | some d => if d.isWhole && d.truncate.natAbs < Nat.pow 2 63 then truthOfNumber d.truncate else .problem .notTruth
    | none => .problem .notTruth
  | d => d.byText .unreadableTruth .notTruth truthOfText

inductive Numeral where
  | value (n : Int)
  | tooLong
  | bad

/-- The integer that a text of ASCII digits spells, perhaps behind a minus sign. No zero may stand before another
digit, and a sign and digits of too many characters are not read, whatever stands behind them. -/
def strictNumeral (cs : List Char) : Numeral :=
  let (negative, body) := match cs with
    | '-' :: r => (true, r)
    | r => (false, r)
  let ds := (body.takeWhile fun c => (Text.asciiDigit? c).isSome).filterMap Text.asciiDigit?
  match ds with
  | [] => .bad
  | 0 :: _ => if body.length = 1 then .value 0 else .bad
  | _ =>
    if Text.digitLimit < ds.length + (cs.length - body.length) then .tooLong
    else if ds.length = body.length then
      .value (if negative then -(Text.ofDigits 10 ds : Int) else Text.ofDigits 10 ds)
    else .bad

/-- The text behind leading zeros, in which underscores may stand. A last zero is kept, and so is one before a
point; behind zeros a minus sign may follow. -/
def behindZeros? (last : Char) : List Char → Option (List Char)
  | [] => some [last]
  | c :: r =>
    if c = '0' ∨ c = '_' then behindZeros? c r
    else if c = '-' ∨ (Text.asciiDigit? c).isSome then some (c :: r)
    else if c = '.' then some (last :: c :: r)
    else none

/-- `behindZeros?` on a text, which has to start with a digit or a minus sign. -/
def withoutLeadingZeros? (cs : List Char) : Option (List Char) :=
  match cs with
  | '0' :: r => behindZeros? '0' r
  | c :: r => if c = '-' ∨ (Text.asciiDigit? c).isSome then some (c :: r) else none
  | [] => none

def withoutPlaces (cs : List Char) : List Char :=
  match Text.cutFirst '.' cs with
  | (whole, some (c :: r)) => if (c :: r).all (· == '0') then whole else cs
  | _ => cs

/-- Text without its underscores, if each of them stands alone and inside. -/
def withoutUnderscores (cs : List Char) : List Char :=
  if (Text.splitAll '_' cs).all fun g => !g.isEmpty then cs.filter (· != '_') else cs

def tidied? (cs : List Char) : Option (List Char) := do
  let cs := Text.unpadded cs
  let cs ← match cs with
    | '+' :: '-' :: _ => none
    | '+' :: r => some r
    | r => some r
  return withoutUnderscores (withoutPlaces (← withoutLeadingZeros? cs))

/-- The integer that a text spells, in strict form or in one that can be brought into it. -/
def integerOfText (s : String) : Checked Int :=
  match strictNumeral s.toList with
  | .value n => .good n
  | .tooLong => .problem .oversizedInteger
  | .bad =>
    match (tidied? s.toList).map strictNumeral with
    | some (.value n) => .good n
    | _ => .problem .unreadableInteger

def toInteger : Datum → Checked Int
  | .int n => .good n
  | .bool b => .good (if b then 1 else 0)
  | .real x =>
    match Decimal.Dyadic.ofFloat? x with
    | none => .problem .infiniteNumber
    | some d =>
      if !d.isWhole then .problem .fractionalInteger
      else if d.truncate.natAbs < Nat.pow 2 63 then .good d.truncate
      else .problem .oversizedInteger
  | d => d.byText .unreadableInteger .notInteger integerOfText

def timeOfWritten (w : Time.WrittenTime) : Checked Time.Instant :=
  match w.toInstant? with
  | some t => .good t
  | none => .refused .outOfRange

def timeOfText (s : String) : Checked Time.Instant :=
  match Time.readTime s.toList with
  | .ok w => timeOfWritten w
  | .error .unreadable => .problem .unreadableTime
  | .error .beforeCalendar => .problem .timeOutOfReach

def timeOfMicros (micros : Option Int) : Checked Time.Instant :=
  match micros.bind Time.Unix.instant? with
  | some t => .good t
  | none => .problem .timeOutOfReach

def toTime : Datum → Checked Time.Instant
  | .int n => if n.natAbs < Decimal.floatLimit then timeOfMicros (some (Time.Unix.micros n)) else .problem .notTime
  | .real x => timeOfMicros (Time.Unix.microsOfFloat? x)
  | .scalar (.time w) => timeOfWritten w
  | .scalar (.date d) =>
    match Time.Instant.ofCivil? d 0 with
    | some t => .good t
    | none => .problem .notTime
  | d => d.byText .unreadableTime .notTime timeOfText

def toOptionalTime : Datum → Checked (Option Time.Instant)
  | .null => .good none
  | d => d.toTime.map some

def readItems {α : Type} (read : Datum → Checked α) (start : Nat) : List Datum → Checked (List α)
  | [] => .good []
  | v :: r => ((read v).under (.index start)).map List.cons |>.both (readItems read (start + 1) r)

def toList {α : Type} (read : Datum → Checked α) (d : Datum) : Checked (List α) :=
  match d.opened with
  | .list items => readItems read 0 items
  | .set members => readItems read 0 (members.map .scalar)
  | _ => .problem .notList

def readTextEntries : List (Scalar × Datum) → Checked (List (String × String))
  | [] => .good []
  | (k, v) :: r =>
    let step := match k with
      | .text name => PathStep.field name
      | _ => PathStep.field ""
    let entry := ((Datum.scalar k).toText.map Prod.mk |>.both v.toText).under step
    entry.map List.cons |>.both (readTextEntries r)

def toTextMap (d : Datum) : Checked (List (String × String)) :=
  match d.opened with
  | .map entries => readTextEntries entries
  | _ => .problem .notMap

/-- The value of a field with two spellings, of which the first counts where both are there, and the spelling found. -/
def spelled? (entries : List (Scalar × Datum)) (name otherName : String) : Option (String × Datum) :=
  match field? entries name with
  | some v => some (name, v)
  | none => (field? entries otherName).map fun v => (otherName, v)

def fieldOr {α : Type} (entries : List (Scalar × Datum)) (name otherName : String) (default : α)
    (read : Datum → Checked α) : Checked α :=
  match spelled? entries name otherName with
  | some (found, v) => (read v).under (.field found)
  | none => .good default

def requiredField {α : Type} (entries : List (Scalar × Datum)) (name otherName : String)
    (read : Datum → Checked α) : Checked α :=
  match spelled? entries name otherName with
  | some (found, v) => (read v).under (.field found)
  | none => (Checked.problem .missing).under (.field name)

def toRecord {α : Type} (read : List (Scalar × Datum) → Checked α) (d : Datum) : Checked α :=
  match d.opened with
  | .map entries => read entries
  | _ => .problem .notRecord

end Datum

end CertInventory
