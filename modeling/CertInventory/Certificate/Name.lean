import CertInventory.Text.Digit
import CertInventory.Text.Utf8

/-!
Distinguished names and their text. The attributes of one relative name have a fixed order, that of their
encodings, so two names are the same exactly when they are equal.
-/

namespace CertInventory

inductive AttributeKind where
  | commonName
  | serialNumber
  | country
  | locality
  | state
  | street
  | organization
  | organizationalUnit
  | title
  | email
  | userId
  | domainComponent
  deriving DecidableEq, Repr

namespace AttributeKind

/-- The name of an attribute type in text: a short name, or its object identifier. -/
def label : AttributeKind → String
  | .commonName => "CN"
  | .serialNumber => "2.5.4.5"
  | .country => "C"
  | .locality => "L"
  | .state => "ST"
  | .street => "STREET"
  | .organization => "O"
  | .organizationalUnit => "OU"
  | .title => "2.5.4.12"
  | .email => "1.2.840.113549.1.9.1"
  | .userId => "UID"
  | .domainComponent => "DC"

def place : AttributeKind → Nat
  | .commonName => 0
  | .serialNumber => 1
  | .country => 2
  | .locality => 3
  | .state => 4
  | .street => 5
  | .organization => 6
  | .organizationalUnit => 7
  | .title => 8
  | .email => 9
  | .userId => 10
  | .domainComponent => 11

def identifierSize : AttributeKind → Nat
  | .email => 9
  | .userId | .domainComponent => 10
  | _ => 3

end AttributeKind

structure Attribute where
  kind : AttributeKind
  value : String
  deriving DecidableEq, Repr

namespace Attribute

/-- What the encoding of an attribute is ordered by: its size, its type, its value. -/
def encodedKey (a : Attribute) : Nat × Nat × List UInt8 :=
  (a.kind.identifierSize + a.value.utf8ByteSize, a.kind.place, Text.Utf8.encode a.value.toList)

def bytesLe : List UInt8 → List UInt8 → Bool
  | [], _ => true
  | _ :: _, [] => false
  | a :: as, b :: bs => a < b || (a == b && bytesLe as bs)

def encodedLe (a b : Attribute) : Bool :=
  let (sizeA, placeA, valueA) := a.encodedKey
  let (sizeB, placeB, valueB) := b.encodedKey
  sizeA < sizeB || (sizeA == sizeB && (placeA < placeB || (placeA == placeB && bytesLe valueA valueB)))

/-- A backslash before each character that separates or quotes, and two digits for a NUL. -/
def escapeChar (c : Char) : List Char :=
  if c = '\\' ∨ c = '"' ∨ c = '+' ∨ c = ',' ∨ c = ';' ∨ c = '<' ∨ c = '>' then ['\\', c]
  else if c.toNat = 0 then ['\\', '0', '0']
  else [c]

/-- A backslash before a number sign at the front, and before a space at the front of more than one character. -/
def guardFront : List Char → List Char
  | '#' :: r => '\\' :: '#' :: r
  | ' ' :: c :: r => '\\' :: ' ' :: c :: r
  | cs => cs

def guardEnd (cs : List Char) : List Char :=
  match cs.reverse with
  | ' ' :: r => r.reverse ++ ['\\', ' ']
  | _ => cs

def escaped (cs : List Char) : List Char := guardEnd (guardFront (cs.flatMap escapeChar))

def chars (a : Attribute) : List Char := a.kind.label.toList ++ '=' :: escaped a.value.toList

end Attribute

/-- A distinguished name: relative names, most general first. -/
structure Name where
  parts : List (List Attribute)
  deriving DecidableEq, Repr

namespace Name

/-- The name with these relative names, each brought into the order of its encodings. -/
def ofParts (parts : List (List Attribute)) : Name :=
  ⟨parts.map fun p => p.mergeSort Attribute.encodedLe⟩

def ofCommonName (value : String) : Name := ⟨[[⟨.commonName, value⟩]]⟩

def chars (n : Name) : List Char :=
  List.intercalate [','] (n.parts.reverse.map fun p => List.intercalate ['+'] (p.map Attribute.chars))

def text (n : Name) : String := String.ofList n.chars

def commonName? (n : Name) : Option String :=
  (n.parts.flatten.find? fun a => a.kind == .commonName).map Attribute.value

/-- The first common name, or the whole name where there is none or an empty one. -/
def shortText (n : Name) : String :=
  match n.commonName? with
  | some cn => if cn.isEmpty then n.text else cn
  | none => n.text

end Name

end CertInventory
