import CertInventory.Datum.Basic

/-!
The order of the members of a set. Numbers stand in a table whose size is a power of two, each at the place that its
residue names, or at the next free one of a sequence of places that leads through all of the table; they are shown
from the first place to the last. Members of other kinds stay in the order in which they are written.
-/

namespace CertInventory.Yaml.Members

def modulus : Nat := Nat.pow 2 61 - 1

def residue? (s : Scalar) : Option Int :=
  let signed (negative : Bool) (n : Nat) : Int :=
    let r : Int := n % modulus
    if negative then (if r = 1 then -2 else -r) else r
  match s with
  | .bool b => some (if b then 1 else 0)
  | .int n => some (signed (n < 0) n.natAbs)
  | .real x =>
    match Decimal.Dyadic.ofFloat? x with
    | some d => some (signed d.negative (d.mantissa * Nat.pow 2 (d.exponent.emod 61).toNat))
    | none => if x.isNaN then none else some (if x < 0 then -314159 else 314159)
  | _ => none

/-- The size of the table for so many members: eight up to four members, else the next power of two above twice their
number. -/
def tableSize (count : Nat) : Nat := if count < 5 then 8 else max 8 (Nat.pow 2 (Nat.log2 (2 * count) + 1))

/-- The places that are tried together with a place: those close behind it, where the table does not end before. -/
def neighbours (size place : Nat) : List Nat := if place + 9 < size then List.range' place 10 else [place]

def freePlace? (table : Array (Option Scalar)) : Nat → Nat → Nat → Option Nat
  | 0, _, _ => none
  | fuel + 1, place, rest =>
    match (neighbours table.size place).find? fun i => (table[i]?).join.isNone with
    | some i => some i
    | none =>
      let rest := rest / 32
      freePlace? table fuel ((5 * place + 1 + rest) % table.size) rest

def insert (table : Array (Option Scalar)) (member : Scalar × Int) : Array (Option Scalar) :=
  let code := (member.2.emod (Nat.pow 2 64)).toNat
  match freePlace? table (table.size + 16) (code % table.size) code with
  | some i => table.setIfInBounds i (some member.1)
  | none => table

def inOrder (members : List Scalar) : List Scalar :=
  match members.mapM residue? with
  | none => members
  | some residues =>
    let empty := Array.replicate (tableSize members.length) none
    ((members.zip residues).foldl insert empty).toList.filterMap id

end CertInventory.Yaml.Members
