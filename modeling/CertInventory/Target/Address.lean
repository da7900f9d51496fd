import CertInventory.Text.Cut
import CertInventory.Text.Digit

/-!
IP addresses and the texts that name them. Octets are written without leading zeros, and an address of either
family differs from every address of the other.
-/

namespace CertInventory

/-- An IP address; an IPv6 address may carry a zone. -/
inductive Address where
  | v4 (bits : Nat)
  | v6 (bits : Nat) (zone : Option String)
  deriving DecidableEq, Repr

namespace Address

/-- One to three ASCII digits of a value below 256, without a leading zero. -/
def octet? (cs : List Char) : Option Nat :=
  let ds := cs.filterMap Text.asciiDigit?
  if cs.isEmpty ∨ ds.length ≠ cs.length ∨ 3 < cs.length then none
  else if 1 < cs.length ∧ cs.head? = some '0' then none
  else if 255 < Text.ofDigits 10 ds then none
  else some (Text.ofDigits 10 ds)

def v4Bits? (cs : List Char) : Option Nat :=
  match Text.splitAll '.' cs with
  | [a, b, c, d] => do
    let a ← octet? a
    let b ← octet? b
    let c ← octet? c
    let d ← octet? d
    return ((a * 256 + b) * 256 + c) * 256 + d
  | _ => none

def hextet? (cs : List Char) : Option Nat :=
  let ds := cs.filterMap Text.hexDigit?
  if cs.isEmpty ∨ ds.length ≠ cs.length ∨ 4 < cs.length then none else some (Text.ofDigits 16 ds)

/-- The groups of an IPv6 address as texts; four octets at the end make two groups. -/
def groups? (cs : List Char) : Option (List (List Char)) :=
  let parts := Text.splitAll ':' cs
  match parts.getLast? with
  | none => none
  | some last =>
    if parts.length < 3 then none
    else if last.contains '.' then do
      let bits ← v4Bits? last
      return parts.dropLast ++ [Text.digitsIn 16 (bits / 65536), Text.digitsIn 16 (bits % 65536)]
    else some parts

def ofHextets (hs : List Nat) : Nat := Text.ofDigits 65536 hs

def innerGaps (parts : List (List Char)) : List Nat :=
  (List.range parts.length).filter fun i =>
    0 < i && i + 1 < parts.length && (parts.getD i ['0']).isEmpty

/-- The groups before and behind the gap of an address with one gap. An empty end is allowed only beside it. -/
def aroundGap? (parts : List (List Char)) (gap : Nat) : Option (List (List Char) × List (List Char)) :=
  let before := parts.take gap
  let behind := parts.drop (gap + 1)
  let before? := match before with
    | [] :: r => if r.isEmpty then some r else none
    | b => some b
  let behind? := match behind.reverse with
    | [] :: r => if r.isEmpty then some r else none
    | _ => some behind
  match before?, behind? with
  | some b, some e => if b.length + e.length < 8 then some (b, e) else none
  | _, _ => none

def v6Bits? (cs : List Char) : Option Nat := do
  let parts ← groups? cs
  if 9 < parts.length then none
  else
    match innerGaps parts with
    | [] =>
      if parts.length ≠ 8 then none
      else
        let hs ← parts.mapM hextet?
        return ofHextets hs
    | [gap] =>
      let (before, behind) ← aroundGap? parts gap
      let hi ← before.mapM hextet?
      let lo ← behind.mapM hextet?
      return ofHextets (hi ++ List.replicate (8 - (hi.length + lo.length)) 0 ++ lo)
    | _ => none

def read? (cs : List Char) : Option Address :=
  match v4Bits? cs with
  | some bits => some (.v4 bits)
  | none =>
    if cs.contains '/' then none
    else
      match Text.cutFirst '%' cs with
      | (body, none) => (v6Bits? body).map (.v6 · none)
      | (body, some zone) =>
        if zone.isEmpty ∨ zone.contains '%' then none
        else (v6Bits? body).map (.v6 · (some (String.ofList zone)))

def hextets (bits : Nat) : List Nat := (List.range 8).map fun i => bits / Nat.pow 65536 (7 - i) % 65536

def zeroRun (hs : List Nat) : Nat := (hs.takeWhile (· == 0)).length

def longestZeroRun (hs : List Nat) : Nat × Nat :=
  (List.range hs.length).foldl
    (fun best i => if best.2 < zeroRun (hs.drop i) then (i, zeroRun (hs.drop i)) else best) (0, 0)

def hextetText (hs : List Nat) : List Char := List.intercalate [':'] (hs.map (Text.digitsIn 16))

/-- The text of an IPv6 address: two colons stand for the first longest run of at least two zeros. -/
def v6Text (bits : Nat) : List Char :=
  let hs := hextets bits
  let (start, length) := longestZeroRun hs
  if length < 2 then hextetText hs
  else hextetText (hs.take start) ++ [':', ':'] ++ hextetText (hs.drop (start + length))

def chars : Address → List Char
  | .v4 bits =>
    List.intercalate ['.'] ([bits / 16777216, bits / 65536 % 256, bits / 256 % 256, bits % 256].map Text.decimal)
  | .v6 bits none => v6Text bits
  | .v6 bits (some zone) => v6Text bits ++ '%' :: zone.toList

def text (a : Address) : String := String.ofList a.chars

end Address

end CertInventory
