import CertInventory.Datum.Yaml.Scalar
import CertInventory.Text.Numeral
import CertInventory.Text.Utf8

/-!
The tokens of a YAML text. Whether a scalar or a collection was a key is known only at the colon behind it, on the
same line and at most 1024 characters later; then the token of the key is put before it after the fact. Indentation
is turned into tokens that start and end blocks. A text that is refused at some place still gives the tokens that are
settled before it.
-/

namespace CertInventory.Yaml

inductive Directive where
  | version (major minor : Nat)
  | tagHandle (handle head : String)
  | other
  deriving DecidableEq, Repr

inductive Token where
  | documentStart
  | documentEnd
  | directive (d : Directive)
  | blockListStart
  | blockMapStart
  | blockEnd
  | flowListStart
  | flowListEnd
  | flowMapStart
  | flowMapEnd
  | blockEntry
  | flowEntry
  | key
  | value
  | alias (name : String)
  | anchor (name : String)
  | tag (handle : Option String) (suffix : String)
  | scalar (plain : Bool) (text : List Nat)
  deriving DecidableEq, Repr

namespace Token

/-- A place where a key may have started: the number of tokens before it, and where it stands. A required one must
turn out to be a key. -/
structure PossibleKey where
  tokens : Nat
  required : Bool
  index : Nat
  line : Nat
  column : Nat

/-- The state of reading tokens: those read so far, the place, the open blocks by their indentation, the depth of
flow collections, whether a key may start here, and the possible keys by depth. -/
structure State where
  tokens : Array Token
  cursor : Cursor
  indent : Int
  outer : List Int
  flow : Nat
  keyAllowed : Bool
  keys : List (Nat × PossibleKey)

namespace State

def start (cs : List Char) : State := ⟨#[], .start cs, -1, [], 0, true, []⟩

def push (s : State) (t : Token) : State := { s with tokens := s.tokens.push t }

def insertAt (t : Token) (n : Nat) (ts : Array Token) : Array Token := ts.extract 0 n ++ #[t] ++ ts.extract n ts.size

def unwind (column : Int) (s : State) : State :=
  if s.flow ≠ 0 then s
  else
    let closed := (s.indent :: s.outer).takeWhile (column < ·)
    match (s.indent :: s.outer).dropWhile (column < ·) with
    | indent :: outer =>
      { s with tokens := s.tokens ++ (closed.map fun _ => Token.blockEnd).toArray, indent := indent, outer := outer }
    | [] => s

/-- Opens a block at a column if it is indented further than the one around it; `true` if so. -/
def indentTo (column : Nat) (s : State) : Bool × State :=
  if s.indent < column then (true, { s with indent := column, outer := s.indent :: s.outer }) else (false, s)

/-- Drops the possible keys that have become too old; a required one must not. -/
def dropStale (s : State) : Except ScanError State :=
  let isStale (p : PossibleKey) := p.line ≠ s.cursor.line || 1024 < s.cursor.index - p.index
  if s.keys.any fun (_, p) => isStale p && p.required then .error .malformed
  else .ok { s with keys := s.keys.filter fun (_, p) => !isStale p }

/-- Drops the possible key at this depth; a required one must not be dropped. -/
def dropKey (s : State) : Except ScanError State :=
  match s.keys.lookup s.flow with
  | none => .ok s
  | some p =>
    if p.required then .error .malformed
    else .ok { s with keys := s.keys.filter fun (depth, _) => depth != s.flow }

def noteKey (s : State) : Except ScanError State :=
  if !s.keyAllowed then .ok s
  else do
    let s ← s.dropKey
    let k := s.cursor
    let required := s.flow == 0 && s.indent == k.column
    return { s with keys := (s.flow, ⟨s.tokens.size, required, k.index, k.line, k.column⟩) :: s.keys }

def single (t : Token) (keyAllowed : Bool) (s : State) : State :=
  { s with tokens := s.tokens.push t, cursor := s.cursor.advance, keyAllowed := keyAllowed }

/-- Opens the block that an indicator stands in, where it may stand at all. -/
def openBlock (opening : Token) (s : State) : Except ScanError State :=
  if s.flow ≠ 0 then .ok s
  else if !s.keyAllowed then .error .malformed
  else
    let (opened, s) := s.indentTo s.cursor.column
    .ok (if opened then s.push opening else s)

def blockEntry (s : State) : Except ScanError State := do
  let s ← s.openBlock .blockListStart
  return single .blockEntry true (← s.dropKey)

def explicitKey (s : State) : Except ScanError State := do
  let s ← s.openBlock .blockMapStart
  return single .key (s.flow == 0) (← s.dropKey)

def value (s : State) : Except ScanError State :=
  match s.keys.lookup s.flow with
  | some p =>
    let s := { s with
      keys := s.keys.filter fun (depth, _) => depth != s.flow
      tokens := insertAt .key p.tokens s.tokens }
    let s :=
      if s.flow ≠ 0 then s
      else
        let (opened, s) := s.indentTo p.column
        if opened then { s with tokens := insertAt .blockMapStart p.tokens s.tokens } else s
    .ok (single .value false s)
  | none => do
    let s ← s.openBlock .blockMapStart
    return single .value (s.flow == 0) (← s.dropKey)

def openFlow (t : Token) (s : State) : Except ScanError State := do
  let s ← s.noteKey
  return single t true { s with flow := s.flow + 1 }

def closeFlow (t : Token) (s : State) : Except ScanError State := do
  let s ← s.dropKey
  if s.flow = 0 then .error .malformed else return single t false { s with flow := s.flow - 1 }

def content (read : Cursor → Except ScanError (Token × Cursor)) (s : State) : Except ScanError State := do
  let s ← s.noteKey
  let (t, k) ← read s.cursor
  return { s with tokens := s.tokens.push t, cursor := k, keyAllowed := false }

def plain (s : State) : Except ScanError State := do
  let s ← s.noteKey
  let (text, k, broken) := plainScalar (s.flow != 0) s.indent s.cursor
  return { s with tokens := s.tokens.push (.scalar true (codes text)), cursor := k, keyAllowed := broken }

def block (s : State) : Except ScanError State := do
  let s ← s.dropKey
  let (text, k) ← blockScalar s.indent s.cursor
  return { s with tokens := s.tokens.push (.scalar false (codes text)), cursor := k, keyAllowed := true }

def leaveDocument (s : State) : Except ScanError State := do
  let s ← (s.unwind (-1)).dropKey
  return { s with keyAllowed := false }

end State

def anchorName (k : Cursor) : Except ScanError (String × Cursor) :=
  let (name, k) := k.span isWordChar
  let ends := isGapOrEnd k.peek || ['?', ':', ',', ']', '\x7d', '%', '@', '\x60'].contains k.peek
  if name.isEmpty || !ends then .error .malformed else .ok (String.ofList name, k)

def isTagChar (c : Char) : Bool :=
  isWordChar c || [';', '/', '?', ':', '@', '&', '=', '+', '$', ',', '.', '!', '~', '*', '\'', '(', ')', '[',
    ']'].contains c

def percentRun : List Char → List UInt8
  | '%' :: a :: b :: r =>
    match Text.hexDigit? a, Text.hexDigit? b with
    | some hi, some lo => UInt8.ofNat (hi * 16 + lo) :: percentRun r
    | _, _ => []
  | _ => []

def tagRest : Nat → Cursor → Except ScanError (List Char × Cursor)
  | 0, k => .ok ([], k)
  | fuel + 1, k =>
    if isTagChar k.peek then (tagRest fuel k.advance).map fun (more, k') => (k.peek :: more, k')
    else if k.peek == '%' then
      let bytes := percentRun k.rest
      match bytes, Text.Utf8.decode? bytes with
      | _ :: _, some chars =>
        (tagRest fuel (k.forward (3 * bytes.length))).map fun (more, k') => (chars ++ more, k')
      | _, _ => .error .malformed
    else .ok ([], k)

def tagSuffix (k : Cursor) : Except ScanError (String × Cursor) :=
  match tagRest (k.rest.length + 1) k with
  | .error e => .error e
  | .ok ([], _) => .error .malformed
  | .ok (cs, k) => .ok (String.ofList cs, k)

/-- The handle of a tag: an exclamation mark, or word characters between two. -/
def tagHandle (k : Cursor) : Except ScanError (String × Cursor) :=
  if k.peek != '!' then .error .malformed
  else if k.peekAt 1 == ' ' then .ok ("!", k.advance)
  else
    let (name, behind) := k.advance.span isWordChar
    if behind.peek == '!' then .ok (String.ofList ('!' :: name ++ ['!']), behind.advance) else .error .malformed

def readTag (k : Cursor) : Except ScanError (Token × Cursor) := do
  let c := k.peekAt 1
  let ((handle, suffix), k) ←
    if c == '<' then do
      let (suffix, k) ← tagSuffix (k.forward 2)
      if k.peek == '>' then pure ((none, suffix), k.advance) else .error .malformed
    else if isGapOrEnd c then pure ((none, "!"), k.advance)
    else if (k.advance.rest.takeWhile fun c => !isSpaceOrEnd c).contains '!' then do
      let (handle, k) ← tagHandle k
      let (suffix, k) ← tagSuffix k
      pure ((some handle, suffix), k)
    else do
      let (suffix, k) ← tagSuffix k.advance
      pure ((some "!", suffix), k)
  if isSpaceOrEnd k.peek then return (.tag handle suffix, k) else .error .malformed

def versionNumber (k : Cursor) : Except ScanError (Nat × Cursor) :=
  let (ds, k) := k.span fun c => (Text.asciiDigit? c).isSome
  if ds.isEmpty then .error .malformed
  else if Text.digitLimit < ds.length then .error (.longNumber ds.length)
  else .ok (Text.ofDigits 10 (ds.filterMap Text.asciiDigit?), k)

def directiveBody (name : List Char) (k : Cursor) : Except ScanError (Directive × Cursor) := do
  if name == "YAML".toList then
    let (major, k) ← versionNumber k.skipSpaces
    if k.peek != '.' then .error .malformed
    else
      let (minor, k) ← versionNumber k.advance
      if isSpaceOrEnd k.peek then return (.version major minor, k) else .error .malformed
  else if name == "TAG".toList then
    let (handle, k) ← tagHandle k.skipSpaces
    if k.peek != ' ' then .error .malformed
    else
      let (head, k) ← tagSuffix k.skipSpaces
      if isSpaceOrEnd k.peek then return (.tagHandle handle head, k) else .error .malformed
  else return (.other, (k.span fun c => !isBreakOrEnd c).2)

def readDirective (k : Cursor) : Except ScanError (Token × Cursor) := do
  let (name, k) := k.span isWordChar
  if name.isEmpty || !isSpaceOrEnd k.peek then .error .malformed
  else
    let (d, k) ← directiveBody name k
    return (.directive d, ← ignoredLine k)

/-- The place of the next token, behind spaces, comments and line breaks, and whether a break was met. -/
def skipToNext : Nat → Bool → Cursor → Cursor × Bool
  | 0, broken, k => (k, broken)
  | fuel + 1, broken, k =>
    let k := k.skipSpaces
    let k := if k.peek == '#' then (k.span fun c => !isBreakOrEnd c).2 else k
    match k.lineBreak? with
    | some (_, k) => skipToNext fuel true k
    | none => (k, broken)

def startsPlain (inFlow : Bool) (k : Cursor) : Bool :=
  let c := k.peek
  let special :=
    ['-', '?', ':', ',', '[', ']', '\x7b', '\x7d', '#', '&', '*', '!', '|', '>', '\'', '"', '%', '@', '\x60']
  !(isGapOrEnd c || special.contains c) ||
    (!isGapOrEnd (k.peekAt 1) && (c == '-' || (!inFlow && (c == '?' || c == ':'))))

def State.token (s : State) : Except ScanError State :=
  let k := s.cursor
  let c := k.peek
  let inFlow := s.flow != 0
  let gapBehind := isGapOrEnd (k.peekAt 1)
  if c == '%' && k.column == 0 then do
    let s ← s.leaveDocument
    let (t, k) ← readDirective s.cursor.advance
    return { s with tokens := s.tokens.push t, cursor := k }
  else if k.column == 0 && k.atDocumentMark then do
    let s ← s.leaveDocument
    return { s with
      tokens := s.tokens.push (if c == '-' then .documentStart else .documentEnd)
      cursor := s.cursor.forward 3 }
  else if c == '[' then s.openFlow .flowListStart
  else if c == '\x7b' then s.openFlow .flowMapStart
  else if c == ']' then s.closeFlow .flowListEnd
  else if c == '\x7d' then s.closeFlow .flowMapEnd
  else if c == ',' then do return single .flowEntry true (← s.dropKey)
  else if c == '-' && gapBehind then s.blockEntry
  else if c == '?' && (inFlow || gapBehind) then s.explicitKey
  else if c == ':' && (inFlow || gapBehind) then s.value
  else if c == '*' then s.content fun k => (anchorName k.advance).map fun (n, k) => (.alias n, k)
  else if c == '&' then s.content fun k => (anchorName k.advance).map fun (n, k) => (.anchor n, k)
  else if c == '!' then s.content readTag
  else if (c == '|' || c == '>') && !inFlow then s.block
  else if c == '\'' || c == '"' then
    s.content fun k => (quotedScalar k).map fun (text, k) => (.scalar false text, k)
  else if startsPlain inFlow k then s.plain
  else .error .malformed

/-- Reads the next token, with those that end blocks before it; `none` behind the last one. Where the text goes on
beyond what can be read of it, it has no last token. -/
def State.next (whole : Bool) (s : State) : Except ScanError (State × Bool) := do
  let (k, broken) := skipToNext (s.cursor.rest.length + 1) false s.cursor
  let s ← { s with cursor := k, keyAllowed := s.keyAllowed || (broken && s.flow == 0) }.dropStale
  let s := s.unwind k.column
  if !k.rest.isEmpty then return (← s.token, false)
  else if whole then return (← s.leaveDocument, true)
  else .error .malformed

/-- The number of tokens that no later token can be put before: those before the first possible key. -/
def State.settled (s : State) : Nat :=
  let possible := s.keys.filter fun (_, p) => p.line = s.cursor.line && s.cursor.index - p.index ≤ 1024
  (possible.map fun (_, p) => p.tokens).foldl min s.tokens.size

end Token

/-- Tokens in order, and why there are no more behind them, if that is not the end of the text. -/
structure TokenStream where
  tokens : List Token
  fault : Option ScanError

namespace TokenStream

/-- Reads tokens up to the end of the text, or to the first place where it is refused. -/
def readFrom (whole : Bool) : Nat → Token.State → TokenStream
  | 0, s => ⟨s.tokens.toList, none⟩
  | fuel + 1, s =>
    match s.next whole with
    | .error e => ⟨s.tokens.toList.take s.settled, some e⟩
    | .ok (s, true) => ⟨s.tokens.toList, none⟩
    | .ok (s, false) => readFrom whole fuel s

/-- The tokens of a text; a mark of the byte order at its start does not count. -/
def ofText (cs : List Char) : TokenStream :=
  let (readable, whole) := readablePieces cs
  let s := Token.State.start readable
  let s := if readable.head? == some '\uFEFF' then { s with cursor := s.cursor.advance } else s
  readFrom whole (readable.length + 2) s

end TokenStream

end CertInventory.Yaml
