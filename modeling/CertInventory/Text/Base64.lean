/-!
Base64 with the standard alphabet and padding. Writing takes three bytes at a time and reading four digits; only
what writing produces can be read, so unused bits at the end must be zero. `gather?` is the forgiving reader: it passes
over what is no digit, and stops where padding completes a group of four.
-/

namespace CertInventory.Text.Base64

def digit (n : Nat) : Char :=
  if n < 26 then Char.ofNat (0x41 + n)
  else if n < 52 then Char.ofNat (0x61 + (n - 26))
  else if n < 62 then Char.ofNat (0x30 + (n - 52))
  else if n = 62 then '+' else '/'

def value? (c : Char) : Option Nat :=
  let n := c.toNat
  if 0x41 ≤ n ∧ n ≤ 0x5A then some (n - 0x41)
  else if 0x61 ≤ n ∧ n ≤ 0x7A then some (n - 0x61 + 26)
  else if 0x30 ≤ n ∧ n ≤ 0x39 then some (n - 0x30 + 52)
  else if c = '+' then some 62
  else if c = '/' then some 63
  else none

def encode : List UInt8 → List Char
  | [] => []
  | [a] => [digit (a.toNat / 4), digit (a.toNat % 4 * 16), '=', '=']
  | [a, b] =>
    [digit (a.toNat / 4), digit (a.toNat % 4 * 16 + b.toNat / 16), digit (b.toNat % 16 * 4), '=']
  | a :: b :: c :: r =>
    digit (a.toNat / 4) :: digit (a.toNat % 4 * 16 + b.toNat / 16) ::
      digit (b.toNat % 16 * 4 + c.toNat / 64) :: digit (c.toNat % 64) :: encode r

def decode? : List Char → Option (List UInt8)
  | [] => some []
  | [a, b, '=', '='] => do
    let a ← value? a
    let b ← value? b
    if b % 16 = 0 then return [UInt8.ofNat (a * 4 + b / 16)] else none
  | [a, b, c, '='] => do
    let a ← value? a
    let b ← value? b
    let c ← value? c
    if c % 4 = 0 then return [UInt8.ofNat (a * 4 + b / 16), UInt8.ofNat (b % 16 * 16 + c / 4)] else none
  | a :: b :: c :: d :: r => do
    let a ← value? a
    let b ← value? b
    let c ← value? c
    let d ← value? d
    let rest ← decode? r
    return UInt8.ofNat (a * 4 + b / 16) :: UInt8.ofNat (b % 16 * 16 + c / 4) ::
      UInt8.ofNat (c % 4 * 64 + d) :: rest
  | _ => none

/-- The bytes that the digits of a text spell. `seen` digits of the group at hand are read, `held` are the bits of the
last one that are not used yet, and `padding` signs of padding follow it. -/
def gatherFrom (seen held padding : Nat) : List Char → Option (List UInt8)
  | [] => if seen = 0 then some [] else none
  | '=' :: r =>
    if seen < 2 then gatherFrom seen held padding r
    else if 4 ≤ seen + (padding + 1) then some []
    else gatherFrom seen held (padding + 1) r
  | c :: r =>
    match value? c with
    | none => gatherFrom seen held padding r
    | some v =>
      match seen with
      | 0 => gatherFrom 1 v 0 r
      | 1 => (gatherFrom 2 (v % 16) 0 r).map (UInt8.ofNat (held * 4 + v / 16) :: ·)
      | 2 => (gatherFrom 3 (v % 4) 0 r).map (UInt8.ofNat (held * 16 + v / 4) :: ·)
      | _ => (gatherFrom 0 0 0 r).map (UInt8.ofNat (held * 64 + v) :: ·)

/-- Reads bytes forgivingly; digits that do not make up whole bytes are refused. -/
def gather? (cs : List Char) : Option (List UInt8) := gatherFrom 0 0 0 cs

end CertInventory.Text.Base64
