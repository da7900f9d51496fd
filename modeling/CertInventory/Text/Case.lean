import CertInventory.Text.CaseTable

/-!
Small and capital forms of text, by the full mappings of Unicode. A capital sigma is written `ς` where it ends a
word: a letter stands before it, none behind it, characters such as the full stop passed over.
-/

namespace CertInventory.Text

def inRanges (table : List (Nat × Nat)) (n : Nat) : Bool :=
  table.any fun (first, last) => first ≤ n && n ≤ last

def mapCase (runs : List CaseRun) (expansions : List (Nat × List Nat)) (c : Char) : List Char :=
  let n := c.toNat
  match expansions.find? fun (from_, _) => from_ == n with
  | some (_, image) => image.map Char.ofNat
  | none =>
    match runs.find? fun r => r.first ≤ n && n ≤ r.last && (n - r.first) % r.step == 0 with
    | some r => [Char.ofNat (n + r.shift).toNat]
    | none => [c]

def meetsLetter (cs : List Char) : Bool :=
  match cs.dropWhile fun c => inRanges caseIgnorableRanges c.toNat with
  | [] => false
  | c :: _ => inRanges casedRanges c.toNat

def lowerChar (c : Char) : List Char :=
  if c.toNat < 0x80 then
    if 0x41 ≤ c.toNat ∧ c.toNat ≤ 0x5A then [Char.ofNat (c.toNat + 0x20)] else [c]
  else mapCase lowerRuns lowerExpansions c

/-- The small form of text; `seen` is what stands before it, nearest character first. -/
def lowerFrom (seen : List Char) : List Char → List Char
  | [] => []
  | c :: r =>
    (if c == 'Σ' then [if meetsLetter seen && !meetsLetter r then 'ς' else 'σ'] else lowerChar c)
      ++ lowerFrom (c :: seen) r

def lower (cs : List Char) : List Char := lowerFrom [] cs

def upperChar (c : Char) : List Char :=
  if c.toNat < 0x80 then
    if 0x61 ≤ c.toNat ∧ c.toNat ≤ 0x7A then [Char.ofNat (c.toNat - 0x20)] else [c]
  else mapCase upperRuns upperExpansions c

def upper (cs : List Char) : List Char := cs.flatMap upperChar

def lowered (s : String) : String := String.ofList (lower s.toList)

end CertInventory.Text
