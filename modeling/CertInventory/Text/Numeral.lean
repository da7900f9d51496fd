import CertInventory.Text.Blank
import CertInventory.Text.Digit

/-!
Literals of whole and of real numbers. White space may stand around a literal, one underscore between two digits,
and the digits may be those of any script.
-/

namespace CertInventory.Text

def unpadded (cs : List Char) : List Char := dropEndWhile isWhiteSpace (cs.dropWhile isWhiteSpace)

/-- The value of a digit in a base: a decimal digit of any script, or a Latin letter. -/
def digitIn? (base : Nat) (c : Char) : Option Nat :=
  ((decimalDigit? c).orElse fun () => hexDigit? c).filter (· < base)

/-- The digits that follow a digit, and the rest. An underscore is passed over only before a digit. -/
def moreDigits (base : Nat) : List Char → List Nat × List Char
  | '_' :: c :: r =>
    match digitIn? base c with
    | some d => let (ds, rest) := moreDigits base r; (d :: ds, rest)
    | none => ([], '_' :: c :: r)
  | c :: r =>
    match digitIn? base c with
    | some d => let (ds, rest) := moreDigits base r; (d :: ds, rest)
    | none => ([], c :: r)
  | [] => ([], [])

/-- A group of at least one digit. -/
def digits? (base : Nat) : List Char → Option (List Nat × List Char)
  | c :: r => (digitIn? base c).map fun d => let (ds, rest) := moreDigits base r; (d :: ds, rest)
  | [] => none

def signOf : List Char → Bool × List Char
  | '-' :: r => (true, r)
  | '+' :: r => (false, r)
  | r => (false, r)

/-- The most digits a whole number literal may have, unless its base is a power of two. -/
def digitLimit : Nat := 4300

inductive NumeralProblem where
  | malformed
  | tooLong (digits : Nat)
  deriving DecidableEq, Repr

def digitLimitMessage (detail : String) : String :=
  "Exceeds the limit (" ++ showNat digitLimit ++ " digits) for integer string conversion" ++ detail ++
    "; use sys.set_int_max_str_digits() to increase the limit"

def tooLongMessage (digits : Nat) : String := digitLimitMessage (": value has " ++ showNat digits ++ " digits")

/-- What is said of a text that is no literal in a base; of its quoted form 200 characters are shown. -/
def noIntegerMessage (base : Nat) (quoted : String) : String :=
  "invalid literal for int() with base " ++ showNat base ++ ": " ++ String.ofList (quoted.toList.take 200)

def baseLetter? (base : Nat) : Option Char :=
  if base = 2 then some 'b' else if base = 8 then some 'o' else if base = 16 then some 'x' else none

def behindBaseMark (base : Nat) (cs : List Char) : List Char :=
  match cs, baseLetter? base with
  | '0' :: c :: r, some letter =>
    if c = letter ∨ c.toNat + 0x20 = letter.toNat then if r.head? = some '_' then r.drop 1 else r else cs
  | _, _ => cs

def integerIn (base : Nat) (cs : List Char) : Except NumeralProblem Int :=
  let (negative, body) := signOf (unpadded cs)
  match digits? base (behindBaseMark base body) with
  | some (ds, []) =>
    if (baseLetter? base).isNone && digitLimit < ds.length then .error (.tooLong ds.length)
    else .ok (if negative then -(ofDigits base ds : Int) else ofDigits base ds)
  | _ => .error .malformed

def integer? (cs : List Char) : Option Int := (integerIn 10 cs).toOption

/-- A literal of a real number: `digits * 10 ^ scale`, an infinity, or no number. -/
inductive RealLiteral where
  | finite (negative : Bool) (digits : List Nat) (scale : Int)
  | infinite (negative : Bool)
  | notANumber
  deriving DecidableEq, Repr

def asciiLower (cs : List Char) : List Char :=
  cs.map fun c => if 0x41 ≤ c.toNat ∧ c.toNat ≤ 0x5A then Char.ofNat (c.toNat + 0x20) else c

/-- Digits with an optional point among or around them: the digits, how many of them are behind the point. -/
def pointed? (cs : List Char) : Option (List Nat × Nat × List Char) :=
  match digits? 10 cs with
  | some (whole, '.' :: r) =>
    match digits? 10 r with
    | some (fraction, rest) => some (whole ++ fraction, fraction.length, rest)
    | none => some (whole, 0, r)
  | some (whole, rest) => some (whole, 0, rest)
  | none =>
    match cs with
    | '.' :: r => (digits? 10 r).map fun (fraction, rest) => (fraction, fraction.length, rest)
    | _ => none

def exponent? : List Char → Option Int
  | [] => some 0
  | c :: r =>
    if c = 'e' ∨ c = 'E' then
      let (negative, body) := signOf r
      match digits? 10 body with
      | some (ds, []) => some (if negative then -(ofDigits 10 ds : Int) else ofDigits 10 ds)
      | _ => none
    else none

def real? (cs : List Char) : Option RealLiteral :=
  let (negative, body) := signOf (unpadded cs)
  let word := asciiLower body
  if word = "inf".toList ∨ word = "infinity".toList then some (.infinite negative)
  else if word = "nan".toList then some .notANumber
  else
    match pointed? body with
    | some (ds, places, rest) => (exponent? rest).map fun e => .finite negative ds (e - places)
    | none => none

/-- The double nearest to `digits * 10 ^ scale`. Scales far outside the range of doubles are decided by the count
of digits alone. -/
def nearestFloat (digits : List Nat) (scale : Int) : Float :=
  let significant := digits.dropWhile (· == 0)
  let reach : Int := significant.length + scale
  if significant.isEmpty then 0
  else if 400 < reach then 1.0 / 0.0
  else if reach < -400 then 0
  else if 0 ≤ scale then Float.ofScientific (ofDigits 10 significant * Nat.pow 10 scale.toNat) false 0
  else Float.ofScientific (ofDigits 10 significant) true (-scale).toNat

def RealLiteral.toFloat : RealLiteral → Float
  | .finite negative digits scale =>
    let x := nearestFloat digits scale
    if negative then -x else x
  | .infinite negative => if negative then -1.0 / 0.0 else 1.0 / 0.0
  | .notANumber => 0.0 / 0.0

end CertInventory.Text
