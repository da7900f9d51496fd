import CertInventory.Datum.Basic
import CertInventory.Decimal.Shortest
import CertInventory.Text.Numeral
import CertInventory.Text.Quoted

/-!
How a document's content is shown inside messages: text quoted, lists in square brackets, pairs in round ones, maps
and sets in braces, dates and times by their parts. A container inside itself is three dots between its brackets.
-/

namespace CertInventory

open Time

namespace Datum

def commaSeparated (parts : List String) : String := ", ".intercalate parts

def shownOffset (seconds : Int) : String :=
  let days := seconds.fdiv 86400
  let rest := seconds.fmod 86400
  let dayPart := if days = 0 then [] else ["days=" ++ Text.showInt days]
  let restPart := if rest = 0 then [] else ["seconds=" ++ Text.showInt rest]
  "datetime.timedelta(" ++ commaSeparated (dayPart ++ restPart) ++ ")"

/-- A date and time by its parts; seconds and microseconds only as far as the last one that is not zero. -/
def shownTime (w : WrittenTime) : String :=
  let d := w.reading.date
  let inDay := w.reading.micros % dayMicros
  let seconds := inDay / 1000000
  let micros := inDay % 1000000
  let tail := if micros ≠ 0 then [seconds % 60, micros] else if seconds % 60 ≠ 0 then [seconds % 60] else []
  let parts := [d.year, d.month, d.day, seconds / 3600, seconds / 60 % 60] ++ tail
  let zone := match w.offset with
    | none => []
    | some 0 => ["tzinfo=datetime.timezone.utc"]
    | some s => ["tzinfo=datetime.timezone(" ++ shownOffset s ++ ")"]
  "datetime.datetime(" ++ commaSeparated (parts.map Text.showNat ++ zone) ++ ")"

def shownScalar : Scalar → String
  | .null => "None"
  | .bool true => "True"
  | .bool false => "False"
  | .int n => Text.showInt n
  | .real x => String.ofList (Decimal.realText x)
  | .text s => Text.quoted s
  | .wide codes => Text.quotedCodes codes
  | .bytes bs => Text.quotedBytes bs
  | .date d => "datetime.date(" ++ commaSeparated ([d.year, d.month, d.day].map Text.showNat) ++ ")"
  | .time w => shownTime w

def shownSet : List Scalar → String
  | [] => "set()"
  | members => "\x7b" ++ commaSeparated (members.map shownScalar) ++ "\x7d"

def shownAgain (isMap : Bool) : String := if isMap then "\x7b...\x7d" else "[...]"

def isMap : Datum → Bool
  | .map _ => true
  | _ => false

mutual

def shownInside (inside : List Nat) : Datum → String
  | .scalar s => shownScalar s
  | .list items => "[" ++ commaSeparated (shownItems inside items) ++ "]"
  | .pair first second => "(" ++ shownInside inside first ++ ", " ++ shownInside inside second ++ ")"
  | .set members => shownSet members
  | .map entries => "\x7b" ++ commaSeparated (shownEntries inside entries) ++ "\x7d"
  | .knot id body => if inside.contains id then shownAgain body.isMap else shownInside (id :: inside) body
  | .again _ isMap => shownAgain isMap

def shownItems (inside : List Nat) : List Datum → List String
  | [] => []
  | v :: r => shownInside inside v :: shownItems inside r

def shownEntries (inside : List Nat) : List (Scalar × Datum) → List String
  | [] => []
  | (k, v) :: r => (shownScalar k ++ ": " ++ shownInside inside v) :: shownEntries inside r

end

/-- Whether content can be shown: a whole number in it has at most `Text.digitLimit` digits. -/
def isShowable (d : Datum) : Bool :=
  d.everyScalar fun
    | .int n => n.natAbs < Nat.pow 10 Text.digitLimit
    | _ => true

def shown (d : Datum) : String := d.shownInside []

end Datum

end CertInventory
