/-!
UTF-8 as a machine that reads one byte at a time. `decodeUnits` reports every character it completes and every
longest beginning of one that breaks off, so the strict reader and the forgiving one are two views of one run.
-/

namespace CertInventory.Text.Utf8

/-- Where the machine stands: between characters, or inside one with `owed` bytes to come, the next of them
between `low` and `high`. -/
inductive State where
  | start
  | inside (bits owed low high : Nat)

/-- What a byte reports: nothing yet, a finished character, or damage. -/
inductive Report where
  | char (c : Char)
  | damage

def first (b : Nat) : List Report × State :=
  if b < 0x80 then ([.char (Char.ofNat b)], .start)
  else if b < 0xC2 then ([.damage], .start)
  else if b < 0xE0 then ([], .inside (b - 0xC0) 1 0x80 0xBF)
  else if b = 0xE0 then ([], .inside 0 2 0xA0 0xBF)
  else if b = 0xED then ([], .inside 0xD 2 0x80 0x9F)
  else if b < 0xF0 then ([], .inside (b - 0xE0) 2 0x80 0xBF)
  else if b = 0xF0 then ([], .inside 0 3 0x90 0xBF)
  else if b < 0xF4 then ([], .inside (b - 0xF0) 3 0x80 0xBF)
  else if b = 0xF4 then ([], .inside 4 3 0x80 0x8F)
  else ([.damage], .start)

/-- One byte: a byte that cannot continue a character begins anew after the damage is reported. -/
def step : State → Nat → List Report × State
  | .start, b => first b
  | .inside bits owed low high, b =>
    if low ≤ b ∧ b ≤ high then
      let bits := bits * 64 + (b - 0x80)
      if owed ≤ 1 then ([.char (Char.ofNat bits)], .start) else ([], .inside bits (owed - 1) 0x80 0xBF)
    else
      let (out, s) := first b
      (.damage :: out, s)

def decodeUnits : State → List UInt8 → List Report
  | .start, [] => []
  | .inside .., [] => [.damage]
  | s, b :: r =>
    let (out, s') := step s b.toNat
    out ++ decodeUnits s' r

def decodeLossy (bytes : List UInt8) : List Char :=
  (decodeUnits .start bytes).map fun
    | .char c => c
    | .damage => Char.ofNat 0xFFFD

def decode? (bytes : List UInt8) : Option (List Char) :=
  (decodeUnits .start bytes).mapM fun
    | .char c => some c
    | .damage => none

def encode (cs : List Char) : List UInt8 := cs.flatMap String.utf8EncodeChar

end CertInventory.Text.Utf8
