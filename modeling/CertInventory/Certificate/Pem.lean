import CertInventory.Outside.Failure
import CertInventory.Text.Base64
import CertInventory.Text.Blank
import CertInventory.Text.Cut
import CertInventory.Text.Utf8

/-!
Bundles of certificates in PEM form. A bundle is cut into blocks, each from a line that begins a certificate to the
next line that ends one; all else is passed over. Every block has to hold a certificate. What bytes are a
certificate is left open, and so is the failure with which others are refused: a bundle is read with a given loader.
A refusal that is a failure of a value is told with its place in the bundle, and any other passes on as it is.
-/

namespace CertInventory.Pem

def bytes (s : String) : List UInt8 := Text.Utf8.encode s.toList

def beginMark : List UInt8 := bytes "-----BEGIN CERTIFICATE-----"

def endMark : List UInt8 := bytes "-----END CERTIFICATE-----"

def anyEndMark : List UInt8 := bytes "-----END "

theorem beginMark_length : beginMark.length = 27 := by decide

theorem endMark_length : endMark.length = 25 := by decide

def bodies (bundle : List UInt8) : List (List UInt8) :=
  match _hbegin : Text.cutAt? beginMark bundle with
  | none => []
  | some (_, opened) =>
    match _hend : Text.cutAt? endMark opened with
    | none => []
    | some (body, rest) => body :: bodies rest
termination_by bundle.length
decreasing_by
  have hopened := Text.length_of_cutAt? _hbegin
  have hrest := Text.length_of_cutAt? _hend
  have := beginMark_length
  omega

/-- What reads a certificate from its bytes, or refuses them with a failure of whatever kind. -/
abbrev Loader := List UInt8 → Except Failure Certificate

def unreadable : Failure := .saying .invalidValue "Unable to load PEM file"

def isGap (b : UInt8) : Bool := b == 0x20 || b == 0x9 || b == 0xA || b == 0xD

/-- What stands before a marker and what stands behind it, as found in one pass over the text: a byte that breaks off
an attempt does not start another one. `left` is what is missing of the marker, `seen` what was read, reversed. -/
def passFrom? (marker left seen : List UInt8) : List UInt8 → Option (List UInt8 × List UInt8)
  | [] => none
  | b :: r =>
    match left with
    | [] => none
    | m :: left =>
      if b ≠ m then passFrom? marker marker (b :: seen) r
      else if left.isEmpty then some (((b :: seen).drop marker.length).reverse, r)
      else passFrom? marker left (b :: seen) r

def onePass? (marker text : List UInt8) : Option (List UInt8 × List UInt8) := passFrom? marker marker [] text

/-- Headers and data of a body: an empty line, if there is one, ends the headers. -/
def headersAndData (body : List UInt8) : List UInt8 × List UInt8 :=
  match onePass? [0xA, 0xA] body with
  | some parts => parts
  | none => (onePass? [0xD, 0xA, 0xD, 0xA] body).getD ([], body)

/-- The lines of a text; a line end at its very end makes no line of its own. -/
def lines (cs : List Char) : List (List Char) :=
  let all := Text.splitAll '\n' cs
  if all.getLast? = some [] then all.dropLast else all

def headersGood (headers : List UInt8) : Bool :=
  match Text.Utf8.decode? headers with
  | some cs => (lines cs).all fun l => l.contains ':'
  | none => false

/-- The text of a body without the white space before it; no line that ends a block may be met in one pass before the
one behind the body. -/
def framed? (body : List UInt8) : Option (List UInt8) :=
  match onePass? anyEndMark ((body ++ endMark).dropWhile isGap) with
  | some (text, behind) => if behind = endMark.drop anyEndMark.length then some text else none
  | none => none

/-- The bytes that a body stands for: Base64 text, its white space left out. -/
def payload? (body : List UInt8) : Option (List UInt8) := do
  let (headers, data) := headersAndData (← framed? body)
  if !headersGood headers then none
  else Text.Base64.decode? ((← Text.Utf8.decode? data).filter fun c => !Text.isWhiteSpace c)

def load (decode : Loader) (body : List UInt8) : Except Failure Certificate :=
  match payload? body with
  | none => .error unreadable
  | some der => decode der

/-- Why a bundle is refused. A block that fails to load by a failure of a value is told with its position; any other
failure of the loader is not expected, and passes on. -/
inductive BundleError where
  | noCertificate
  | badBlock (position : Nat) (f : Failure)
  | unexpected (f : Failure)
  deriving DecidableEq, Repr

def BundleError.ofBlock (position : Nat) (f : Failure) : BundleError :=
  if f.kind.isValue then .badBlock position f else .unexpected f

def BundleError.message : BundleError → String
  | .noCertificate => "no PEM certificate blocks found"
  | .badBlock position f => "parsing certificate at position " ++ Text.showNat position ++ ": " ++ f.text
  | .unexpected f => f.text

theorem BundleError.message_ne_empty {e : BundleError} (h : ∀ f, e ≠ .unexpected f) : e.message ≠ "" := by
  unfold message
  cases e with
  | noCertificate => decide
  | badBlock position f =>
    rw [ne_eq, String.append_eq_empty_iff, String.append_eq_empty_iff, String.append_eq_empty_iff]
    exact fun h => absurd h.1.1.1 (by decide)
  | unexpected f => exact absurd rfl (h f)

/-- The certificates of blocks, the first of which has the given position; the first bad block is reported. -/
def loadAll (decode : Loader) (position : Nat) : List (List UInt8) → Except BundleError (List Certificate)
  | [] => .ok []
  | body :: r =>
    match load decode body with
    | .error f => .error (.ofBlock position f)
    | .ok c => (loadAll decode (position + 1) r).map (c :: ·)

def read (decode : Loader) (bundle : List UInt8) : Except BundleError (List Certificate) :=
  match loadAll decode 0 (bodies bundle) with
  | .error e => .error e
  | .ok [] => .error .noCertificate
  | .ok (c :: cs) => .ok (c :: cs)

/-- Text in lines of at most so many characters; a width of zero leaves it whole. -/
def wrapped (width : Nat) (cs : List Char) : List Char :=
  if _h : width = 0 ∨ cs.length ≤ width then cs
  else cs.take width ++ '\n' :: wrapped width (cs.drop width)
termination_by cs.length
decreasing_by simp only [List.length_drop]; omega

def block (der : List UInt8) : List UInt8 :=
  beginMark ++ 0xA :: Text.Utf8.encode (wrapped 64 (Text.Base64.encode der)) ++ 0xA :: endMark ++ [0xA]

end CertInventory.Pem
