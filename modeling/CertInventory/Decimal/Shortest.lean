import CertInventory.Text.Digit

/-!
Doubles as exact numbers, and the shortest decimal text of a double. Among the decimals that lie nearer to the double than to its neighbours,
`shortest` takes the fewest digits and, of two with as many, the nearer one or the even one of a tie; `realText`
writes them positionally between `1e-4` and `1e16` and with an exponent elsewhere.
-/

namespace CertInventory.Decimal

/-- The number `mantissa * 2 ^ exponent`, negated where `negative` says so. -/
structure Dyadic where
  negative : Bool
  mantissa : Nat
  exponent : Int
  deriving DecidableEq, Repr

def Dyadic.ofFloat? (x : Float) : Option Dyadic :=
  let bits := x.toBits.toNat
  let negative := Nat.pow 2 63 ≤ bits
  let biased : Nat := bits / Nat.pow 2 52 % Nat.pow 2 11
  let fraction : Nat := bits % Nat.pow 2 52
  if biased = Nat.pow 2 11 - 1 then none
  else if biased = 0 then some ⟨negative, fraction, -1074⟩
  else some ⟨negative, Nat.pow 2 52 + fraction, (biased : Int) - 1075⟩

def Dyadic.truncate (d : Dyadic) : Int :=
  let size : Nat :=
    if 0 ≤ d.exponent then d.mantissa * Nat.pow 2 d.exponent.toNat else d.mantissa / Nat.pow 2 (-d.exponent).toNat
  if d.negative then -size else size

def Dyadic.isWhole (d : Dyadic) : Bool :=
  0 ≤ d.exponent || d.mantissa % Nat.pow 2 (-d.exponent).toNat == 0

def floatLimit : Nat := Nat.pow 2 1024 - Nat.pow 2 970

structure Scaled where
  digits : Nat
  scale : Int
  deriving DecidableEq, Repr

def powFraction (base : Nat) (e : Int) : Nat × Nat :=
  if 0 ≤ e then (Nat.pow base e.toNat, 1) else (1, Nat.pow base (-e).toNat)

/-- Whether `digits * 10 ^ scale` rounds to the double with this mantissa and exponent. The lower neighbour of a
power of two is half as far away as the upper one. -/
def roundsTo (mantissa : Nat) (exponent : Int) (s : Scaled) : Bool :=
  let (p, q) := powFraction 10 s.scale
  let (a, b) := powFraction 2 (exponent - 2)
  let value := s.digits * p * b
  let unit := a * q
  let lowGap := if mantissa = Nat.pow 2 52 ∧ -1074 < exponent then 1 else 2
  let lo := (4 * mantissa - lowGap) * unit
  let hi := (4 * mantissa + 2) * unit
  if mantissa % 2 = 0 then lo ≤ value && value ≤ hi else lo < value && value < hi

/-- Twice the distance of `digits * 10 ^ scale` from the double, in a unit that depends on the scale only. -/
def distance (mantissa : Nat) (exponent : Int) (s : Scaled) : Nat :=
  let (p, q) := powFraction 10 s.scale
  let (a, b) := powFraction 2 exponent
  let value := s.digits * p * b
  let target := mantissa * a * q
  if value ≤ target then target - value else value - target

def gridNeighbours (mantissa : Nat) (exponent scale : Int) : Scaled × Scaled :=
  let (p, q) := powFraction 10 scale
  let (a, b) := powFraction 2 exponent
  let below := mantissa * a * q / (p * b)
  (⟨below, scale⟩, ⟨below + 1, scale⟩)

/-- The better neighbour on one grid, if any of the two rounds to the double. -/
def gridHit? (mantissa : Nat) (exponent scale : Int) : Option Scaled :=
  let (lo, hi) := gridNeighbours mantissa exponent scale
  match lo.digits != 0 && roundsTo mantissa exponent lo, roundsTo mantissa exponent hi with
  | true, true =>
    let below := distance mantissa exponent lo
    let above := distance mantissa exponent hi
    if above < below ∨ (above = below ∧ lo.digits % 2 = 1) then some hi else some lo
  | true, false => some lo
  | false, true => some hi
  | false, false => none

/-- Tries `count` grids, each ten times finer than the one before. -/
def searchGrids (mantissa : Nat) (exponent : Int) : Nat → Int → Option Scaled
  | 0, _ => none
  | count + 1, scale =>
    match gridHit? mantissa exponent scale with
    | some s => some s
    | none => searchGrids mantissa exponent count (scale - 1)

def leadingScale (mantissa : Nat) (exponent : Int) : Int :=
  let (a, b) := powFraction 2 exponent
  let whole := mantissa * a / b
  if whole ≠ 0 then (Text.decimal whole).length
  else
    let inverse := b / (mantissa * a)
    1 - ((Text.decimal inverse).length : Int)

/-- Fewest digits that round to a double that is not zero. -/
def shortest (mantissa : Nat) (exponent : Int) : Scaled :=
  (searchGrids mantissa exponent 20 (leadingScale mantissa exponent)).getD ⟨mantissa, 0⟩

def stripZeros : Nat → Scaled → Scaled
  | 0, s => s
  | fuel + 1, s => if s.digits % 10 = 0 ∧ s.digits ≠ 0 then stripZeros fuel ⟨s.digits / 10, s.scale + 1⟩ else s

/-- The text of a double: at least one digit on each side of the point, an exponent of at least two digits. -/
def realText (x : Float) : List Char :=
  match Dyadic.ofFloat? x with
  | none => if x.isNaN then "nan".toList else if x < 0 then "-inf".toList else "inf".toList
  | some d =>
    let sign := if d.negative then ['-'] else []
    if d.mantissa = 0 then sign ++ "0.0".toList
    else
      let s := stripZeros 400 (shortest d.mantissa d.exponent)
      let ds := Text.decimal s.digits
      let point : Int := ds.length + s.scale
      sign ++
        if -4 < point ∧ point ≤ 16 then
          if point ≤ 0 then "0.".toList ++ List.replicate (-point).toNat '0' ++ ds
          else if (ds.length : Int) ≤ point then
            ds ++ List.replicate (point - ds.length).toNat '0' ++ ".0".toList
          else ds.take point.toNat ++ '.' :: ds.drop point.toNat
        else
          let e := point - 1
          let body := match ds with
            | [] => []
            | [c] => [c]
            | c :: r => c :: '.' :: r
          body ++ 'e' :: (if e < 0 then '-' else '+') :: Text.padded 2 e.natAbs

end CertInventory.Decimal
