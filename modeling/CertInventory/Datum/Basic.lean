import CertInventory.Time.Written

/-!
The content of a document: scalars, lists, pairs, sets, and maps whose keys are scalars and whose order is that of
first appearance. A container may hold itself. It then stands in a knot, which gives it a number, and every place in
it where it comes up again says so by that number; `opened` unties one turn of it.
-/

namespace CertInventory

open Time

/-- A single value. Wide text is text with a half of a surrogate pair in it, which is no character. -/
inductive Scalar where
  | null
  | bool (b : Bool)
  | int (n : Int)
  | real (x : Float)
  | text (s : String)
  | wide (codes : List Nat)
  | bytes (bs : List UInt8)
  | date (d : CivilDate)
  | time (w : WrittenTime)

/-- A value or a container. `again id` stands for the container that is tied by the knot of that number; `isMap` tells
whether that is a map. -/
inductive Datum where
  | scalar (s : Scalar)
  | list (items : List Datum)
  | pair (first second : Datum)
  | set (members : List Scalar)
  | map (entries : List (Scalar × Datum))
  | knot (id : Nat) (body : Datum)
  | again (id : Nat) (isMap : Bool)

instance : Inhabited Datum := ⟨.scalar .null⟩

namespace Scalar

/-- The text of a list of codes, each of them a character or half of a surrogate pair. -/
def ofCodes (codes : List Nat) : Scalar :=
  if codes.all fun n => n.isValidChar then .text (String.ofList (codes.map Char.ofNat)) else .wide codes

/-- The number that a truth value, a whole number or a double stands for as a key. -/
def wholeNumber? : Scalar → Option Int
  | .bool b => some (if b then 1 else 0)
  | .int n => some n
  | .real x =>
    match Decimal.Dyadic.ofFloat? x with
    | some d => if d.isWhole then some d.truncate else none
    | none => none
  | _ => none

/-- Whether two written times are one key: those with an offset by their instant, the others by their reading. -/
def sameTime (a b : WrittenTime) : Bool :=
  a.offset.isSome == b.offset.isSome &&
    (a.reading.micros : Int) - a.offset.getD 0 * 1000000 == b.reading.micros - b.offset.getD 0 * 1000000

/-- Whether two scalars are one key: numbers by value, anything else by kind and value. -/
def sameKey : Scalar → Scalar → Bool
  | .null, .null => true
  | .text a, .text b => a == b
  | .wide a, .wide b => a == b
  | .bytes a, .bytes b => a == b
  | .date a, .date b => a == b
  | .time a, .time b => sameTime a b
  | a, b =>
    match wholeNumber? a, wholeNumber? b with
    | some m, some n => m == n
    | none, none =>
      match a, b with
      | .real x, .real y => x == y
      | _, _ => false
    | _, _ => false

/-- Whether a value has a form in strict JSON of valid characters: it is no double without a finite value, and holds
no half of a surrogate pair. -/
def isSendable : Scalar → Bool
  | .real x => !(x.isNaN || x.isInf)
  | .wide _ => false
  | _ => true

end Scalar

namespace Datum

@[match_pattern] abbrev null : Datum := .scalar .null

@[match_pattern] abbrev bool (b : Bool) : Datum := .scalar (.bool b)

@[match_pattern] abbrev int (n : Int) : Datum := .scalar (.int n)

@[match_pattern] abbrev real (x : Float) : Datum := .scalar (.real x)

@[match_pattern] abbrev text (s : String) : Datum := .scalar (.text s)

def object (fields : List (String × Datum)) : Datum := .map (fields.map fun (name, v) => (.text name, v))

def texts (items : List String) : Datum := .list (items.map .text)

/-- Puts an entry into a list of entries: a key that is there keeps its place and takes the new value. -/
def put (key : Scalar) (v : Datum) : List (Scalar × Datum) → List (Scalar × Datum)
  | [] => [(key, v)]
  | (k, w) :: r => if k.sameKey key then (k, v) :: r else (k, w) :: put key v r

def field? (entries : List (Scalar × Datum)) (name : String) : Option Datum :=
  match entries with
  | [] => none
  | (.text k, v) :: r => if k = name then some v else field? r name
  | _ :: r => field? r name

def textEntries (entries : List (Scalar × Datum)) : List (String × Datum) :=
  entries.filterMap fun
    | (.text name, v) => some (name, v)
    | _ => none

def isVoid : Datum → Bool
  | .null => true
  | .bool b => !b
  | .int n => n == 0
  | .real x => x == 0.0
  | .text s => s.isEmpty
  | .scalar (.bytes bs) => bs.isEmpty
  | .list items => items.isEmpty
  | .set members => members.isEmpty
  | .map entries => entries.isEmpty
  | _ => false

mutual

/-- Whether all scalars in a content, keys and members included, satisfy `p`. -/
def everyScalar (p : Scalar → Bool) : Datum → Bool
  | .scalar s => p s
  | .list items => everyItem p items
  | .pair first second => everyScalar p first && everyScalar p second
  | .set members => members.all p
  | .map entries => everyEntry p entries
  | .knot _ body => everyScalar p body
  | .again _ _ => true

def everyItem (p : Scalar → Bool) : List Datum → Bool
  | [] => true
  | v :: r => everyScalar p v && everyItem p r

def everyEntry (p : Scalar → Bool) : List (Scalar × Datum) → Bool
  | [] => true
  | (k, v) :: r => p k && everyScalar p v && everyEntry p r

end

def isSendable (d : Datum) : Bool := d.everyScalar Scalar.isSendable

mutual

def fill (id : Nat) (container : Datum) : Datum → Datum
  | .list items => .list (fillItems id container items)
  | .pair first second => .pair (fill id container first) (fill id container second)
  | .map entries => .map (fillEntries id container entries)
  | .knot other body => if other = id then .knot other body else .knot other (fill id container body)
  | .again other isMap => if other = id then container else .again other isMap
  | d => d

def fillItems (id : Nat) (container : Datum) : List Datum → List Datum
  | [] => []
  | v :: r => fill id container v :: fillItems id container r

def fillEntries (id : Nat) (container : Datum) : List (Scalar × Datum) → List (Scalar × Datum)
  | [] => []
  | (k, v) :: r => (k, fill id container v) :: fillEntries id container r

end

/-- A container without the knot around it; where it holds itself, it holds the knot. -/
def opened : Datum → Datum
  | .knot id body => fill id (.knot id body) body
  | d => d

end Datum

end CertInventory
