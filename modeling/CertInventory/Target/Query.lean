import CertInventory.Text.Cut
import CertInventory.Text.Digit
import CertInventory.Text.Utf8

/-!
Query parameters. A value is written with letters, digits and `_.-~` as they are, spaces as plus signs and any
other byte of its UTF-8 form as a percent sign and two digits; reading undoes all three.
-/

namespace CertInventory.Query

def isPlain (b : Nat) : Bool :=
  (0x30 ≤ b && b ≤ 0x39) || (0x41 ≤ b && b ≤ 0x5A) || (0x61 ≤ b && b ≤ 0x7A) ||
    b == 0x5F || b == 0x2E || b == 0x2D || b == 0x7E

def escapeByte (b : UInt8) : List Char :=
  if isPlain b.toNat then [Char.ofNat b.toNat]
  else if b.toNat = 0x20 then ['+']
  else ['%', Text.hexCharUpper (b.toNat / 16), Text.hexCharUpper (b.toNat % 16)]

def escape (cs : List Char) : List Char := (Text.Utf8.encode cs).flatMap escapeByte

/-- The bytes of ASCII text with its escapes undone; a percent sign without two digits stands for itself. -/
def percentBytes : List Char → List UInt8
  | '%' :: a :: b :: r =>
    match Text.hexDigit? a, Text.hexDigit? b with
    | some hi, some lo => UInt8.ofNat (hi * 16 + lo) :: percentBytes r
    | _, _ => 0x25 :: percentBytes (a :: b :: r)
  | c :: r => UInt8.ofNat c.toNat :: percentBytes r
  | [] => []

def isAscii (c : Char) : Bool := c.toNat < 0x80

/-- Undoes the escapes in each run of ASCII characters by itself; `pending` is the run read so far, reversed. -/
def unescapeRuns (pending : List Char) : List Char → List Char
  | [] => Text.Utf8.decodeLossy (percentBytes pending.reverse)
  | c :: r =>
    if isAscii c then unescapeRuns (c :: pending) r
    else Text.Utf8.decodeLossy (percentBytes pending.reverse) ++ c :: unescapeRuns [] r

def unescape (cs : List Char) : List Char :=
  unescapeRuns [] (cs.map fun c => if c = '+' then ' ' else c)

/-- A written parameter with its name and, where it has an equals sign, its value. -/
def parameter (cs : List Char) : List Char × Option (List Char) :=
  let (name, v) := Text.cutFirst '=' cs
  (unescape name, v.map unescape)

def parameters (cs : List Char) : List (List Char × List Char) :=
  (Text.splitAll '&' cs).filterMap fun p =>
    match Text.cutFirst '=' p with
    | (name, some (c :: v)) => some (unescape name, unescape (c :: v))
    | _ => none

def first? (name : String) (query : String) : Option String :=
  ((parameters query.toList).find? fun (n, _) => n == name.toList).map fun (_, v) => String.ofList v

def pairs (cs : List Char) : List (List Char × List Char) :=
  ((Text.splitAll '&' cs).filter fun p => !p.isEmpty).map fun p =>
    let (name, v) := parameter p
    (name, v.getD [])

def last? (name : String) (query : List Char) : Option String :=
  (((pairs query).filter fun (n, _) => n == name.toList).map fun (_, v) => String.ofList v).getLast?

end CertInventory.Query
