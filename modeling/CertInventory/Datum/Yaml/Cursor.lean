/-!
A place in a YAML text: what is left to read, with the position in the whole text. Behind the end of the text stands
the character NUL, which no text holds. A text is looked through in pieces, and a piece that holds a character which
no text may hold cannot be entered.
-/

namespace CertInventory.Yaml

/-- What is left of a text, and where it starts. -/
structure Cursor where
  rest : List Char
  index : Nat
  line : Nat
  column : Nat

def endMark : Char := '\x00'

def isBreak (c : Char) : Bool :=
  c == '\n' || c == '\r' || c == '\x85' || c == '\u2028' || c == '\u2029'

def isBreakOrEnd (c : Char) : Bool := isBreak c || c == endMark

def isSpaceOrEnd (c : Char) : Bool := isBreakOrEnd c || c == ' '

def isGapOrEnd (c : Char) : Bool := isSpaceOrEnd c || c == '\t'

def isSpaceOrTab (c : Char) : Bool := c == ' ' || c == '\t'

/-- Letters, digits, the hyphen and the underscore, as in the names of anchors. -/
def isWordChar (c : Char) : Bool :=
  (0x30 ≤ c.toNat && c.toNat ≤ 0x39) || (0x41 ≤ c.toNat && c.toNat ≤ 0x5A) ||
    (0x61 ≤ c.toNat && c.toNat ≤ 0x7A) || c == '-' || c == '_'

def isPrintable (c : Char) : Bool :=
  let n := c.toNat
  n == 0x9 || n == 0xA || n == 0xD || (0x20 ≤ n && n ≤ 0x7E) || n == 0x85 || (0xA0 ≤ n && n ≤ 0xD7FF) ||
    (0xE000 ≤ n && n ≤ 0xFFFD) || (0x10000 ≤ n && n ≤ 0x10FFFF)

def firstPiece : Nat := 8192

def laterPiece : Nat := 4096

/-- The pieces of a text that can be entered, and whether they are the whole text. -/
def readablePieces (cs : List Char) : List Char × Bool :=
  match cs.findIdx? fun c => !isPrintable c with
  | none => (cs, true)
  | some i =>
    if i < firstPiece then ([], false)
    else (cs.take (firstPiece + (i - firstPiece) / laterPiece * laterPiece), false)

namespace Cursor

def start (cs : List Char) : Cursor := ⟨cs, 0, 0, 0⟩

def peek (k : Cursor) : Char := k.rest.headD endMark

def peekAt (k : Cursor) (n : Nat) : Char := k.rest.getD n endMark

def advance (k : Cursor) : Cursor :=
  match k.rest with
  | [] => k
  | c :: r =>
    if isBreak c && !(c == '\r' && r.head? == some '\n') then ⟨r, k.index + 1, k.line + 1, 0⟩
    else if c == '\uFEFF' then ⟨r, k.index + 1, k.line, k.column⟩
    else ⟨r, k.index + 1, k.line, k.column + 1⟩

def advanceBy : Nat → Cursor → Cursor
  | 0, k => k
  | n + 1, k => advanceBy n k.advance

def forward (k : Cursor) (n : Nat) : Cursor := advanceBy n k

/-- The longest run of characters that satisfy `p`, and the place behind it. -/
def span (p : Char → Bool) (k : Cursor) : List Char × Cursor :=
  let run := k.rest.takeWhile p
  (run, advanceBy run.length k)

def skipSpaces (k : Cursor) : Cursor := (k.span (· == ' ')).2

def lineBreak? (k : Cursor) : Option (Char × Cursor) :=
  match k.rest with
  | '\r' :: '\n' :: _ => some ('\n', advanceBy 2 k)
  | c :: _ =>
    if c == '\u2028' || c == '\u2029' then some (c, k.advance)
    else if isBreak c then some ('\n', k.advance)
    else none
  | [] => none

/-- Whether three hyphens or three full stops stand here, and nothing behind them. -/
def atDocumentMark (k : Cursor) : Bool :=
  match k.rest with
  | a :: b :: c :: _ =>
    ((a == '-' && b == '-' && c == '-') || (a == '.' && b == '.' && c == '.')) && isGapOrEnd (k.peekAt 3)
  | _ => false

end Cursor

end CertInventory.Yaml
