import CertInventory.Datum.Basic

/-!
Reading JSON text. The names `NaN`, `Infinity` and `-Infinity` count as numbers, of two members with one name the
later gives the value, and nothing but blanks may follow the document. Half of a surrogate pair may stand alone in a
string. A whole number with too many digits is refused as soon as it is met.
-/

namespace CertInventory.Json

/-- Why a text is refused: it is not JSON, or a number in it has too many digits. -/
inductive ReadProblem where
  | malformed
  | tooLong (digits : Nat)
  deriving DecidableEq, Repr

def found {α : Type} : Option α → Except ReadProblem α
  | some a => .ok a
  | none => .error .malformed

def isGap (c : Char) : Bool := c == ' ' || c == '\t' || c == '\n' || c == '\r'

def skipGap (cs : List Char) : List Char := cs.dropWhile isGap

def fourHex? : List Char → Option (Nat × List Char)
  | a :: b :: c :: d :: r => do
    let w ← Text.hexDigit? a
    let x ← Text.hexDigit? b
    let y ← Text.hexDigit? c
    let z ← Text.hexDigit? d
    return (((w * 16 + x) * 16 + y) * 16 + z, r)
  | _ => none

def unicodeEscape? (cs : List Char) : Option (Nat × List Char) := do
  let (hi, r) ← fourHex? cs
  match r with
  | '\\' :: 'u' :: r' =>
    if 0xD800 ≤ hi ∧ hi < 0xDC00 then
      let (lo, rest) ← fourHex? r'
      if 0xDC00 ≤ lo ∧ lo < 0xE000 then return (0x10000 + (hi - 0xD800) * 0x400 + (lo - 0xDC00), rest)
      else return (hi, r)
    else return (hi, r)
  | _ => return (hi, r)

def plainEscape? (c : Char) : Option Char :=
  if c = '"' ∨ c = '\\' ∨ c = '/' then some c
  else if c = 'b' then some (Char.ofNat 8)
  else if c = 'f' then some (Char.ofNat 12)
  else if c = 'n' then some '\n'
  else if c = 'r' then some '\r'
  else if c = 't' then some '\t'
  else none

/-- The codes of a string behind its opening quote, with so many steps to go. -/
def stringBody : Nat → List Char → Option (List Nat × List Char)
  | 0, _ => none
  | fuel + 1, cs =>
    match cs with
    | [] => none
    | c :: r =>
      if c = '"' then some ([], r)
      else if c = '\\' then
        match r with
        | [] => none
        | e :: r' =>
          if e = 'u' then do
            let (x, rest) ← unicodeEscape? r'
            let (xs, rest) ← stringBody fuel rest
            return (x :: xs, rest)
          else do
            let x ← plainEscape? e
            let (xs, rest) ← stringBody fuel r'
            return (x.toNat :: xs, rest)
      else if c.toNat < 0x20 then none
      else do
        let (xs, rest) ← stringBody fuel r
        return (c.toNat :: xs, rest)

def string? (cs : List Char) : Option (Scalar × List Char) :=
  (stringBody (cs.length + 1) cs).map fun (xs, rest) => (Scalar.ofCodes xs, rest)

def asciiDigits (cs : List Char) : List Nat × List Char :=
  ((cs.takeWhile fun c => (Text.asciiDigit? c).isSome).filterMap Text.asciiDigit?,
    cs.dropWhile fun c => (Text.asciiDigit? c).isSome)

/-- The places behind a point, if a point with at least one digit is there. -/
def places (cs : List Char) : Option (List Nat) × List Char :=
  match cs with
  | '.' :: r =>
    match asciiDigits r with
    | ([], _) => (none, cs)
    | (ds, rest) => (some ds, rest)
  | _ => (none, cs)

def power (cs : List Char) : Option Int × List Char :=
  match cs with
  | c :: r =>
    if c = 'e' ∨ c = 'E' then
      let (negative, body) := Text.signOf r
      match asciiDigits body with
      | ([], _) => (none, cs)
      | (ds, rest) => (some (if negative then -(Text.ofDigits 10 ds : Int) else Text.ofDigits 10 ds), rest)
    else (none, cs)
  | [] => (none, [])

def wholeDigits? (cs : List Char) : Option (List Nat × List Char) :=
  match asciiDigits cs with
  | ([], _) => none
  | (0 :: _ :: _, _) => some ([0], cs.drop 1)
  | (ds, rest) => some (ds, rest)

def number (negative : Bool) (cs : List Char) : Except ReadProblem (Datum × List Char) := do
  let (whole, r) ← found (wholeDigits? cs)
  let (fraction, r) := places r
  let (exponent, r) := power r
  match fraction, exponent with
  | none, none =>
    if Text.digitLimit < whole.length then .error (.tooLong whole.length)
    else
      let n : Int := Text.ofDigits 10 whole
      return (.int (if negative then -n else n), r)
  | _, _ =>
    let ds := fraction.getD []
    let x := Text.nearestFloat (whole ++ ds) (exponent.getD 0 - ds.length)
    return (.real (if negative then -x else x), r)

def word? (word : String) (cs : List Char) : Option (List Char) :=
  if word.toList.isPrefixOf cs then some (cs.drop word.length) else none

def named (word : String) (v : Datum) (cs : List Char) : Except ReadProblem (Datum × List Char) :=
  found ((word? word cs).map fun r => (v, r))

def plain (cs : List Char) : Except ReadProblem (Datum × List Char) :=
  match cs with
  | 'n' :: _ => named "null" .null cs
  | 't' :: _ => named "true" (.bool true) cs
  | 'f' :: _ => named "false" (.bool false) cs
  | 'N' :: _ => named "NaN" (.real (0.0 / 0.0)) cs
  | 'I' :: _ => named "Infinity" (.real (1.0 / 0.0)) cs
  | '-' :: 'I' :: r => named "Infinity" (.real (-1.0 / 0.0)) ('I' :: r)
  | '-' :: r => number true r
  | _ => number false cs

mutual

/-- The value at the front of a text, blanks before it aside, with so many steps to go. -/
def value : Nat → List Char → Except ReadProblem (Datum × List Char)
  | 0, _ => .error .malformed
  | fuel + 1, cs =>
    match skipGap cs with
    | [] => .error .malformed
    | c :: r =>
      if c = '"' then found ((string? r).map fun (s, rest) => (.scalar s, rest))
      else if c = '[' then
        match skipGap r with
        | ']' :: rest => .ok (.list [], rest)
        | _ => (items fuel r).map fun (vs, rest) => (.list vs, rest)
      else if c.toNat = 0x7B then
        match skipGap r with
        | d :: rest =>
          if d.toNat = 0x7D then .ok (.map [], rest)
          else (members fuel [] r).map fun (es, rest) => (.map es, rest)
        | [] => .error .malformed
      else plain (c :: r)

def items : Nat → List Char → Except ReadProblem (List Datum × List Char)
  | 0, _ => .error .malformed
  | fuel + 1, cs => do
    let (v, r) ← value fuel cs
    match skipGap r with
    | ',' :: r => do
      let (vs, rest) ← items fuel r
      return (v :: vs, rest)
    | ']' :: rest => return ([v], rest)
    | _ => .error .malformed

/-- The members of a map up to its closing brace, added to those already read. -/
def members : Nat → List (Scalar × Datum) → List Char → Except ReadProblem (List (Scalar × Datum) × List Char)
  | 0, _, _ => .error .malformed
  | fuel + 1, seen, cs =>
    match skipGap cs with
    | '"' :: r => do
      let (name, r) ← found (string? r)
      match skipGap r with
      | ':' :: r => do
        let (v, r) ← value fuel r
        let seen := Datum.put name v seen
        match skipGap r with
        | c :: r =>
          if c = ',' then members fuel seen r
          else if c.toNat = 0x7D then return (seen, r)
          else .error .malformed
        | [] => .error .malformed
      | _ => .error .malformed
    | _ => .error .malformed

end

def readChars (cs : List Char) : Except ReadProblem Datum := do
  let (v, rest) ← value (2 * cs.length + 2) cs
  if (skipGap rest).isEmpty then return v else .error .malformed

def read (s : String) : Except ReadProblem Datum := readChars s.toList

def read? (s : String) : Option Datum := (read s).toOption

end CertInventory.Json
