import CertInventory.Text.Digit

/-!
The tags of YAML nodes, and the tag that a scalar has by its form alone: truth values, whole and fractional numbers,
dates and times, null, the two signs that mean something in keys, and the three that mean something before a node.
-/

namespace CertInventory.Yaml

/-- What kind of value a node stands for; `unknown` is a tag without a meaning here. -/
inductive Tag where
  | null
  | bool
  | int
  | float
  | timestamp
  | text
  | binary
  | list
  | map
  | set
  | orderedMap
  | pairs
  | merge
  | defaultValue
  | unknown
  deriving DecidableEq, Repr

namespace Tag

def ofName (name : String) : Tag :=
  let head := "tag:yaml.org,2002:"
  let known := [("null", Tag.null), ("bool", .bool), ("int", .int), ("float", .float), ("timestamp", .timestamp),
    ("str", .text), ("binary", .binary), ("seq", .list), ("map", .map), ("set", .set), ("omap", .orderedMap),
    ("pairs", .pairs), ("merge", .merge), ("value", .defaultValue)]
  ((known.map fun (short, t) => (head ++ short, t)).lookup name).getD .unknown

def isDigit (c : Char) : Bool := (Text.asciiDigit? c).isSome

def isNumeral (c : Char) : Bool := isDigit c || c == '_'

def unsigned (cs : List Char) : List Char :=
  match cs with
  | '+' :: r => r
  | '-' :: r => r
  | _ => cs

/-- One or two digits below sixty behind each of several colons, and what follows them. -/
def sixties : List Char → Option (List Char)
  | ':' :: a :: b :: r =>
    if !isDigit a then none
    else if isDigit b then
      if a.toNat ≤ 0x35 then
        match r with
        | ':' :: _ => sixties r
        | _ => some r
      else none
    else if b == ':' then sixties (b :: r)
    else some (b :: r)
  | [':', a] => if isDigit a then some [] else none
  | _ => none

def isInt (cs : List Char) : Bool :=
  match unsigned cs with
  | '0' :: 'b' :: r => !r.isEmpty && r.all fun c => c == '0' || c == '1' || c == '_'
  | '0' :: 'x' :: r => !r.isEmpty && r.all fun c => (Text.hexDigit? c).isSome || c == '_'
  | '0' :: r => r.all fun c => (isDigit c && c.toNat ≤ 0x37) || c == '_'
  | c :: r =>
    isDigit c &&
      match r.dropWhile isNumeral with
      | [] => true
      | rest => sixties rest == some []
  | [] => false

def isExponent (cs : List Char) : Bool :=
  match cs with
  | [] => true
  | e :: sign :: ds =>
    (e == 'e' || e == 'E') && (sign == '+' || sign == '-') && !ds.isEmpty && ds.all isDigit
  | _ => false

/-- Whether text starts with a digit, has digits and underscores up to a point, and a fraction behind it. -/
def isPointed (cs : List Char) : Bool :=
  match cs with
  | c :: r =>
    isDigit c &&
      match r.dropWhile isNumeral with
      | '.' :: fraction => isExponent (fraction.dropWhile isNumeral)
      | rest =>
        match sixties rest with
        | some ('.' :: fraction) => fraction.all isNumeral
        | _ => false
  | [] => false

def isFloat (cs : List Char) : Bool :=
  isPointed (unsigned cs) ||
    (match cs with
      | '.' :: c :: r => isDigit c && isExponent (r.dropWhile isNumeral)
      | _ => false) ||
    [".inf", ".Inf", ".INF"].contains (String.ofList (unsigned cs)) ||
    [".nan", ".NaN", ".NAN"].contains (String.ofList cs)

/-- The parts of a date, perhaps with a time of day and an offset, as they are written. -/
structure WrittenTimestamp where
  year : Nat
  month : Nat
  day : Nat
  clock : Option (Nat × Nat × Nat × List Nat)
  zone : Option (Option (Bool × Nat × Nat))

def oneOrTwo? (cs : List Char) : Option (Nat × List Char) :=
  match cs with
  | a :: b :: r =>
    match Text.asciiDigit? a, Text.asciiDigit? b with
    | some x, some y => some (10 * x + y, r)
    | some x, none => some (x, b :: r)
    | none, _ => none
  | [a] => (Text.asciiDigit? a).map fun x => (x, [])
  | [] => none

def two? (cs : List Char) : Option (Nat × List Char) :=
  match cs with
  | a :: b :: r => do
    let x ← Text.asciiDigit? a
    let y ← Text.asciiDigit? b
    return (10 * x + y, r)
  | _ => none

def zone? (cs : List Char) : Option (Option (Option (Bool × Nat × Nat))) :=
  match cs.dropWhile fun c => c == ' ' || c == '\t' with
  | [] => if cs.isEmpty then some none else none
  | ['Z'] => some (some none)
  | sign :: r =>
    if sign != '+' && sign != '-' then none
    else
      match oneOrTwo? r with
      | some (h, []) => some (some (some (sign == '-', h, 0)))
      | some (h, ':' :: r) =>
        match two? r with
        | some (m, []) => some (some (some (sign == '-', h, m)))
        | _ => none
      | _ => none

def clock? (cs : List Char) : Option ((Nat × Nat × Nat × List Nat) × Option (Option (Bool × Nat × Nat))) := do
  let (hour, r) ← oneOrTwo? cs
  let (minute, r) ← (match r with
    | ':' :: r => two? r
    | _ => none)
  let (second, r) ← (match r with
    | ':' :: r => two? r
    | _ => none)
  let (fraction, r) := match r with
    | '.' :: r => ((r.takeWhile isDigit).filterMap Text.asciiDigit?, r.dropWhile isDigit)
    | _ => ([], r)
  return ((hour, minute, second, fraction), ← zone? r)

def behindDate? (cs : List Char) : Option (List Char) :=
  match cs with
  | 'T' :: r => some r
  | 't' :: r => some r
  | ' ' :: r => some (r.dropWhile fun c => c == ' ' || c == '\t')
  | '\t' :: r => some (r.dropWhile fun c => c == ' ' || c == '\t')
  | _ => none

def timestamp? (cs : List Char) : Option WrittenTimestamp := do
  let (century, r) ← two? cs
  let (year, r) ← two? r
  let (month, r) ← (match r with
    | '-' :: r => oneOrTwo? r
    | _ => none)
  let (day, r) ← (match r with
    | '-' :: r => oneOrTwo? r
    | _ => none)
  if r.isEmpty then return ⟨100 * century + year, month, day, none, none⟩
  else
    let (clock, zone) ← clock? (← behindDate? r)
    return ⟨100 * century + year, month, day, some clock, zone⟩

/-- Whether a plain scalar is a timestamp: a date alone must have two digits for month and day. -/
def isTimestamp (cs : List Char) : Bool :=
  match timestamp? cs with
  | none => false
  | some t => t.clock.isSome || cs.length == 10

def truthWords : List String :=
  ["yes", "Yes", "YES", "no", "No", "NO", "true", "True", "TRUE", "false", "False", "FALSE", "on", "On", "ON", "off",
    "Off", "OFF"]

def nullWords : List String := ["~", "null", "Null", "NULL", ""]

def withoutLineEnd (cs : List Char) : List Char := if cs.getLast? == some '\n' then cs.dropLast else cs

/-- The tag that a text has by its form. A line end at its very end does not count, unless it is all of the text. -/
def ofForm (text : List Char) : Tag :=
  let cs := if text.length ≤ 1 then text else withoutLineEnd text
  let s := String.ofList cs
  if truthWords.contains s then .bool
  else if isFloat cs then .float
  else if isInt cs then .int
  else if s == "<<" then .merge
  else if nullWords.contains s then .null
  else if isTimestamp cs then .timestamp
  else if s == "=" then .defaultValue
  else if s == "!" || s == "&" || s == "*" then .unknown
  else .text

end Tag

end CertInventory.Yaml
