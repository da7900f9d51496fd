import CertInventory.Datum.Yaml.Cursor
import CertInventory.Text.Digit

/-!
The texts of YAML scalars: plain ones, quoted ones and blocks. Line breaks inside a scalar fold: one becomes a space,
of several the first is dropped. A quoted text is a list of codes, because its escapes can name halves of surrogate
pairs.
-/

namespace CertInventory.Yaml

/-- Why a YAML text is refused: its form is not good, an escape names no character or not even a number of 31 bits, a
version has too many digits, or collections stand too deep in each other. -/
inductive ScanError where
  | malformed
  | noSuchCharacter
  | oversizedCode
  | longNumber (digits : Nat)
  | tooDeep
  deriving DecidableEq, Repr

def folded (lineBreak : Char) (more : List Char) : List Char :=
  (if lineBreak ≠ '\n' then [lineBreak] else if more.isEmpty then [' '] else []) ++ more

/-- Spaces and line breaks in a plain scalar; `none` where a document ends among them. -/
def plainBreaks : Nat → Cursor → Option (List Char × Cursor)
  | 0, k => some ([], k)
  | fuel + 1, k =>
    if k.peek == ' ' then plainBreaks fuel k.advance
    else
      match k.lineBreak? with
      | none => some ([], k)
      | some (c, k) =>
        if k.atDocumentMark then none
        else (plainBreaks fuel k).map fun (more, k) => (c :: more, k)

/-- The gap behind a piece of a plain scalar: its content, the place behind it, and whether it holds a line break.
Without content the scalar ends. -/
def plainGap (k : Cursor) : List Char × Cursor × Bool :=
  let (spaces, k) := k.span (· == ' ')
  match k.lineBreak? with
  | none => (spaces, k, false)
  | some (c, k) =>
    if k.atDocumentMark then ([], k, true)
    else
      match plainBreaks k.rest.length k with
      | none => ([], k, true)
      | some (more, k) => (folded c more, k, true)

/-- Where a piece of a plain scalar ends inside flow collections, and outside them. -/
def endsPlain (inFlow : Bool) (c next : Char) : Bool :=
  isGapOrEnd c ||
    (c == ':' && (isGapOrEnd next || (inFlow && (next == ',' || next == '[' || next == ']' || next == '\x7b' ||
      next == '\x7d')))) ||
    (inFlow && (c == ',' || c == '?' || c == '[' || c == ']' || c == '\x7b' || c == '\x7d'))

def plainLength (inFlow : Bool) : List Char → Nat
  | [] => 0
  | c :: r => if endsPlain inFlow c (r.headD endMark) then 0 else plainLength inFlow r + 1

/-- The pieces of a plain scalar behind a gap, with the gaps between them, and whether the last gap holds a line
break. -/
def plainPieces (inFlow : Bool) (indent : Int) : Nat → List Char → Bool → Cursor → List Char × Cursor × Bool
  | 0, _, broken, k => ([], k, broken)
  | fuel + 1, gap, broken, k =>
    let length := plainLength inFlow k.rest
    if length = 0 then ([], k, broken)
    else
      let piece := gap ++ k.rest.take length
      let (nextGap, k, broken) := plainGap (k.forward length)
      if nextGap.isEmpty || k.peek == '#' || (!inFlow && (k.column : Int) < indent) then (piece, k, broken)
      else
        let (more, k, broken) := plainPieces inFlow indent fuel nextGap broken k
        (piece ++ more, k, broken)

/-- A plain scalar inside a block of the given indentation, and whether it ends with a line break. -/
def plainScalar (inFlow : Bool) (indent : Int) (k : Cursor) : List Char × Cursor × Bool :=
  plainPieces inFlow (indent + 1) (k.rest.length + 1) [] false k

def quotedBreaks : Nat → Cursor → Except ScanError (List Char × Cursor)
  | 0, k => .ok ([], k)
  | fuel + 1, k =>
    if k.atDocumentMark then .error .malformed
    else
      let k := (k.span isSpaceOrTab).2
      match k.lineBreak? with
      | none => .ok ([], k)
      | some (c, k) => (quotedBreaks fuel k).map fun (more, k) => (c :: more, k)

def quotedGap (k : Cursor) : Except ScanError (List Char × Cursor) :=
  let (blanks, k) := k.span isSpaceOrTab
  if k.peek == endMark then .error .malformed
  else
    match k.lineBreak? with
    | none => .ok (blanks, k)
    | some (c, k) => (quotedBreaks k.rest.length k).map fun (more, k) => (folded c more, k)

def escaped? (c : Char) : Option Char :=
  [('0', '\x00'), ('a', '\x07'), ('b', '\x08'), ('t', '\x09'), ('\t', '\x09'), ('n', '\x0A'), ('v', '\x0B'),
    ('f', '\x0C'), ('r', '\x0D'), ('e', '\x1B'), (' ', ' '), ('"', '"'), ('\\', '\\'), ('/', '/'), ('N', '\x85'),
    ('_', '\xA0'), ('L', '\u2028'), ('P', '\u2029')].lookup c

def escapeWidth? (c : Char) : Option Nat := [('x', 2), ('u', 4), ('U', 8)].lookup c

def codeEscape (width : Nat) (k : Cursor) : Except ScanError (Nat × Cursor) :=
  let ds := (k.rest.take width).filterMap Text.hexDigit?
  if ds.length ≠ width then .error .malformed
  else if 0x80000000 ≤ Text.ofDigits 16 ds then .error .oversizedCode
  else if 0x110000 ≤ Text.ofDigits 16 ds then .error .noSuchCharacter
  else .ok (Text.ofDigits 16 ds, k.forward width)

def codes (cs : List Char) : List Nat := cs.map Char.toNat

def escape (k : Cursor) : Except ScanError (List Nat × Cursor) :=
  match escaped? k.peek with
  | some c => .ok ([c.toNat], k.advance)
  | none =>
    match escapeWidth? k.peek with
    | some width => (codeEscape width k.advance).map fun (n, k) => ([n], k)
    | none =>
      match k.lineBreak? with
      | some (_, k) => (quotedBreaks k.rest.length k).map fun (cs, k) => (codes cs, k)
      | none => .error .malformed

def quotedBody (double : Bool) : Nat → Cursor → Except ScanError (List Nat × Cursor)
  | 0, _ => .error .malformed
  | fuel + 1, k =>
    let c := k.peek
    if isGapOrEnd c then do
      let (gap, k) ← quotedGap k
      let (more, k) ← quotedBody double fuel k
      return (codes gap ++ more, k)
    else if double && c == '\\' then do
      let (ns, k) ← escape k.advance
      let (more, k) ← quotedBody double fuel k
      return (ns ++ more, k)
    else if !double && c == '\'' && k.peekAt 1 == '\'' then do
      let (more, k) ← quotedBody double fuel (k.forward 2)
      return (c.toNat :: more, k)
    else if c == (if double then '"' else '\'') then .ok ([], k.advance)
    else do
      let (more, k) ← quotedBody double fuel k.advance
      return (c.toNat :: more, k)

def quotedScalar (k : Cursor) : Except ScanError (List Nat × Cursor) :=
  quotedBody (k.peek == '"') (k.rest.length + 1) k.advance

/-- How a block scalar ends: with one line break, with none, or with all of them. -/
inductive Chomping where
  | clip
  | strip
  | keep
  deriving DecidableEq, Repr

def chomping? (c : Char) : Option Chomping :=
  if c == '+' then some .keep else if c == '-' then some .strip else none

def increment? (c : Char) : Option Nat := Text.asciiDigit? c

def blockIndicators (k : Cursor) : Except ScanError ((Chomping × Option Nat) × Cursor) :=
  let (ending, k) := match chomping? k.peek with
    | some e => (some e, k.advance)
    | none => (none, k)
  let (increment, k) := match increment? k.peek with
    | some n => (some n, k.advance)
    | none => (none, k)
  let (ending, k) := match ending, increment, chomping? k.peek with
    | none, some _, some e => (some e, k.advance)
    | _, _, _ => (ending, k)
  if increment = some 0 ∨ !isSpaceOrEnd k.peek then .error .malformed
  else .ok ((ending.getD .clip, increment), k)

/-- The rest of the line of a block scalar's indicators: a comment or nothing. -/
def ignoredLine (k : Cursor) : Except ScanError Cursor :=
  let k := k.skipSpaces
  let k := if k.peek == '#' then (k.span fun c => !isBreakOrEnd c).2 else k
  match k.lineBreak? with
  | some (_, k) => .ok k
  | none => if k.peek == endMark then .ok k else .error .malformed

/-- Empty lines before a block scalar of unknown indentation, and the greatest column met among them. -/
def leadingBreaks : Nat → Nat → Cursor → List Char × Nat × Cursor
  | 0, widest, k => ([], widest, k)
  | fuel + 1, widest, k =>
    if k.peek == ' ' then leadingBreaks fuel (max widest k.advance.column) k.advance
    else
      match k.lineBreak? with
      | none => ([], widest, k)
      | some (c, k) =>
        let (more, widest, k) := leadingBreaks fuel widest k
        (c :: more, widest, k)

def skipIndent (column : Nat) : Nat → Cursor → Cursor
  | 0, k => k
  | fuel + 1, k => if k.column < column && k.peek == ' ' then skipIndent column fuel k.advance else k

def blockBreaks (indent : Nat) : Nat → Cursor → List Char × Cursor
  | 0, k => ([], k)
  | fuel + 1, k =>
    let k := skipIndent indent k.rest.length k
    match k.lineBreak? with
    | none => ([], k)
    | some (c, k) =>
      let (more, k) := blockBreaks indent fuel k
      (c :: more, k)

/-- The lines of a block scalar: their content, the last line break, the empty lines behind it, and the place. -/
def blockLines (folding : Bool) (indent : Nat) :
    Nat → List Char → Cursor → List Char × List Char × List Char × Cursor
  | 0, breaks, k => ([], [], breaks, k)
  | fuel + 1, breaks, k =>
    if k.column ≠ indent ∨ k.peek = endMark then ([], [], breaks, k)
    else
      let fromText := !isSpaceOrTab k.peek
      let (line, k) := k.span fun c => !isBreakOrEnd c
      let (lineBreak, k) := match k.lineBreak? with
        | some (c, k) => ([c], k)
        | none => ([], k)
      let (more, k) := blockBreaks indent k.rest.length k
      if k.column ≠ indent ∨ k.peek = endMark then (breaks ++ line, lineBreak, more, k)
      else
        let joint :=
          if folding && lineBreak == ['\n'] && fromText && !isSpaceOrTab k.peek then
            if more.isEmpty then [' '] else []
          else lineBreak
        let (content, lastBreak, after, k) := blockLines folding indent fuel more k
        (breaks ++ line ++ joint ++ content, lastBreak, after, k)

/-- A block scalar, from its indicator on, inside a block of the given indentation. -/
def blockScalar (outer : Int) (k : Cursor) : Except ScanError (List Char × Cursor) := do
  let folding := k.peek == '>'
  let ((ending, increment), k) ← blockIndicators k.advance
  let k ← ignoredLine k
  let least := (max (outer + 1) 1).toNat
  let (breaks, indent, k) := match increment with
    | none =>
      let (breaks, widest, k) := leadingBreaks k.rest.length 0 k
      (breaks, max least widest, k)
    | some n =>
      let indent := least + n - 1
      let (breaks, k) := blockBreaks indent k.rest.length k
      (breaks, indent, k)
  let (content, lastBreak, after, k) := blockLines folding indent (k.rest.length + 1) breaks k
  let tail := match ending with
    | .clip => lastBreak
    | .strip => []
    | .keep => lastBreak ++ after
  return (content ++ tail, k)

end CertInventory.Yaml
