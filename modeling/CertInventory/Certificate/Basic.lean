import CertInventory.Certificate.Algorithm
import CertInventory.Certificate.Name
import CertInventory.Target.Address
import CertInventory.Time.Instant

/-!
Certificates. Names, serial number and validity can always be read; the extensions and the public key may be
damaged, and then every reading of them fails with the same fault.
-/

namespace CertInventory

inductive DecodeFault where
  | duplicateExtension (identifier : String)
  | malformed
  | unsupportedName
  | unknownKeyType (identifier : String)
  deriving DecidableEq, Repr

namespace DecodeFault

def message : DecodeFault → String
  | .duplicateExtension id => "Duplicate " ++ id ++ " extension found"
  | .malformed => "error parsing asn1 value"
  | .unsupportedName => "x400Address/EDIPartyName are not supported types"
  | .unknownKeyType id => "Unknown key type: " ++ id

theorem message_ne_empty (f : DecodeFault) : f.message ≠ "" := by
  unfold message
  cases f with
  | malformed | unsupportedName => decide
  | duplicateExtension id =>
    rw [ne_eq, String.append_eq_empty_iff]
    exact fun h => absurd h.2 (by decide)
  | unknownKeyType id =>
    rw [ne_eq, String.append_eq_empty_iff]
    exact fun h => absurd h.1 (by decide)

/-- Whether a fault is one of the certificate's encoding; an unknown kind of key is not. -/
def isEncoding : DecodeFault → Bool
  | .unknownKeyType _ => false
  | _ => true

end DecodeFault

inductive GeneralName where
  | dns (name : String)
  | uri (location : String)
  | email (mailbox : String)
  | ip (address : Address)
  deriving DecidableEq, Repr

def GeneralName.text : GeneralName → String
  | .dns s => s
  | .uri s => s
  | .email s => s
  | .ip a => a.text

inductive AccessMethod where
  | ocsp
  | issuers
  deriving DecidableEq, Repr

/-- The extensions of a certificate that are looked at. An absent one of the lists reads as an empty list, a
distribution point without a full name as one without names. -/
structure Extensions where
  authority : Bool
  authorityKeyId : Option (List UInt8)
  subjectKeyId : Option (List UInt8)
  alternativeNames : List GeneralName
  access : List (AccessMethod × GeneralName)
  distributionPoints : List (List GeneralName)
  deriving DecidableEq, Repr

/-- A certificate; no two have the same identity. -/
structure Certificate where
  identity : String
  subject : Name
  issuer : Name
  serial : Int
  notBefore : Time.Instant
  notAfter : Time.Instant
  publicKey : Except DecodeFault PublicKey
  signature : Signature
  extensions : Except DecodeFault Extensions

namespace Certificate

def isSelfIssued (c : Certificate) : Prop := c.issuer = c.subject

instance (c : Certificate) : Decidable c.isSelfIssued := inferInstanceAs (Decidable (c.issuer = c.subject))

def isAuthority (c : Certificate) : Except DecodeFault Bool := c.extensions.map Extensions.authority

def keyIds (c : Certificate) : Except DecodeFault (Option (List UInt8) × Option (List UInt8)) :=
  c.extensions.map fun e => (e.authorityKeyId, e.subjectKeyId)

/-- Whether two key identifiers contradict each other: both are there, neither is empty, and they differ. -/
def idsDiffer : Option (List UInt8) → Option (List UInt8) → Bool
  | some (a :: as), some (b :: bs) => a :: as != b :: bs
  | _, _ => false

/-- Whether a certificate counts as self-signed: it names itself as its issuer, and no key identifiers say
otherwise. -/
def isSelfSigned (c : Certificate) : Except DecodeFault Bool :=
  if c.isSelfIssued then c.keyIds.map fun (aki, ski) => !idsDiffer aki ski else .ok false

def dnsNames (c : Certificate) : Except DecodeFault (List String) :=
  c.extensions.map fun e => e.alternativeNames.filterMap fun
    | .dns s => some s
    | _ => none

def addresses (c : Certificate) : Except DecodeFault (List Address) :=
  c.extensions.map fun e => e.alternativeNames.filterMap fun
    | .ip a => some a
    | _ => none

def responders (c : Certificate) : Except DecodeFault (List String) :=
  c.extensions.map fun e => e.access.filterMap fun
    | (.ocsp, name) => some name.text
    | _ => none

def revocationLists (c : Certificate) : Except DecodeFault (List String) :=
  c.extensions.map fun e => e.distributionPoints.flatten.filterMap fun
    | .uri s => some s
    | _ => none

/-- Whether the issuer's key made the certificate's signature, names aside. A malformed key made none; it fails on an
issuer whose kind of key is unknown. -/
def isSignedBy (c issuer : Certificate) : Except DecodeFault Bool :=
  match issuer.publicKey with
  | .ok key => .ok (c.signature.intact && c.signature.signer == key.identity)
  | .error .malformed => .ok false
  | .error f => .error f

/-- Whether a certificate was issued by another: the names agree, and so does the signature. -/
def isIssuedBy (c issuer : Certificate) : Except DecodeFault Bool :=
  if c.issuer = issuer.subject then c.isSignedBy issuer else .ok false

end Certificate

end CertInventory
