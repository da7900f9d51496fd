/-!
Blank characters, trimming and line ends. Two classes are kept apart: the white space of Unicode, and the blanks, which
also count the four information separators U+001C to U+001F.
-/

namespace CertInventory.Text

def isWhiteSpace (c : Char) : Bool :=
  let n := c.toNat
  (0x9 ≤ n && n ≤ 0xD) || n == 0x20 || n == 0x85 || n == 0xA0 || n == 0x1680 ||
    (0x2000 ≤ n && n ≤ 0x200A) || n == 0x2028 || n == 0x2029 || n == 0x202F || n == 0x205F || n == 0x3000

def isBlank (c : Char) : Bool :=
  isWhiteSpace c || (0x1C ≤ c.toNat && c.toNat ≤ 0x1F)

def dropEndWhile {α : Type} (p : α → Bool) (l : List α) : List α :=
  (l.reverse.dropWhile p).reverse

def trim (cs : List Char) : List Char :=
  dropEndWhile isBlank (cs.dropWhile isBlank)

theorem dropEndWhile_isPrefix {α : Type} (p : α → Bool) (l : List α) : dropEndWhile p l <+: l := by
  rw [dropEndWhile, ← List.reverse_suffix, List.reverse_reverse]
  exact List.dropWhile_suffix p

theorem trim_isInfix (cs : List Char) : trim cs <:+: cs :=
  (dropEndWhile_isPrefix _ _).isInfix.trans (List.dropWhile_suffix _).isInfix

def trimmed (s : String) : String := String.ofList (trim s.toList)

/-- Text in which every line ends with a line feed, also where a carriage return stood alone or before one. -/
def unifiedLines : List Char → List Char
  | '\r' :: '\n' :: r => '\n' :: unifiedLines r
  | '\r' :: r => '\n' :: unifiedLines r
  | c :: r => c :: unifiedLines r
  | [] => []

end CertInventory.Text
