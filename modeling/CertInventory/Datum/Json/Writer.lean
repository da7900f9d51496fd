import CertInventory.Datum.Basic
import CertInventory.Decimal.Shortest
import CertInventory.Text.Quoted

/-!
JSON text of a document's content, in ASCII alone: any other character of a string is escaped by its number, in two
halves where it has more than 16 bits. A blank stands behind each comma and each colon. What JSON has no form for is
written as what comes nearest: bytes as text, pairs and sets as lists.
-/

namespace CertInventory.Json

def shortEscape? (n : Nat) : Option Char :=
  if n = 0x22 then some '"'
  else if n = 0x5C then some '\\'
  else if n = 0x08 then some 'b'
  else if n = 0x0C then some 'f'
  else if n = 0x0A then some 'n'
  else if n = 0x0D then some 'r'
  else if n = 0x09 then some 't'
  else none

def numberEscape (n : Nat) : List Char := '\\' :: 'u' :: Text.hexField 4 n

def escapeCode (n : Nat) : List Char :=
  match shortEscape? n with
  | some c => ['\\', c]
  | none =>
    if 0x20 ≤ n ∧ n < 0x7F then [Char.ofNat n]
    else if n < 0x10000 then numberEscape n
    else numberEscape (0xD800 + (n - 0x10000) / 0x400) ++ numberEscape (0xDC00 + (n - 0x10000) % 0x400)

def writeCodes (codes : List Nat) : List Char := '"' :: codes.flatMap escapeCode ++ ['"']

def writeText (s : String) : List Char := writeCodes (s.toList.map Char.toNat)

def writeReal (x : Float) : List Char :=
  if x.isNaN then "NaN".toList
  else if x.isInf then (if x < 0 then "-Infinity" else "Infinity").toList
  else Decimal.realText x

def writeScalar : Scalar → List Char
  | .null => "null".toList
  | .bool true => "true".toList
  | .bool false => "false".toList
  | .int n => Text.signedDecimal n
  | .real x => writeReal x
  | .text s => writeText s
  | .wide codes => writeCodes codes
  | .bytes bs => writeCodes (bs.map UInt8.toNat)
  | .date d => writeText (String.ofList (Time.Instant.dateText d))
  | .time w => writeText w.reading.text

def writeKey : Scalar → List Char
  | .text s => writeText s
  | .wide codes => writeCodes codes
  | k => writeText (String.ofList (writeScalar k))

def writeSet (members : List Scalar) : List Char :=
  '[' :: List.intercalate [',', ' '] (members.map writeScalar) ++ [']']

mutual

def write : Datum → List Char
  | .scalar s => writeScalar s
  | .pair first second => '[' :: write first ++ ',' :: ' ' :: write second ++ [']']
  | .set members => writeSet members
  | .knot _ body => write body
  | .again _ _ => writeScalar .null
  | .list [] => ['[', ']']
  | .list (v :: r) => '[' :: write v ++ writeItems r
  | .map [] => [Char.ofNat 0x7B, Char.ofNat 0x7D]
  | .map ((k, v) :: r) => Char.ofNat 0x7B :: writeKey k ++ ':' :: ' ' :: write v ++ writeEntries r

def writeItems : List Datum → List Char
  | [] => [']']
  | v :: r => ',' :: ' ' :: write v ++ writeItems r

def writeEntries : List (Scalar × Datum) → List Char
  | [] => [Char.ofNat 0x7D]
  | (k, v) :: r => ',' :: ' ' :: writeKey k ++ ':' :: ' ' :: write v ++ writeEntries r

end

def render (d : Datum) : String := String.ofList (write d)

end CertInventory.Json
