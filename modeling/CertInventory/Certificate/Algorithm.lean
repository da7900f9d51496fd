import CertInventory.Text.Digit

/-!
Public keys and signature algorithms, as far as a certificate shows them.
-/

namespace CertInventory

inductive KeyKind where
  | rsa (bits : Nat)
  | ecdsa (bits : Nat)
  | ed25519
  | ed448
  | x25519
  | x448
  deriving DecidableEq, Repr

namespace KeyKind

def label : KeyKind → String
  | .rsa _ => "RSA"
  | .ecdsa _ => "ECDSA"
  | .ed25519 => "Ed25519"
  | .ed448 => "Ed448"
  | .x25519 => "X25519PublicKey"
  | .x448 => "X448PublicKey"

def size : KeyKind → Nat
  | .rsa bits => bits
  | .ecdsa bits => bits
  | .ed25519 => 256
  | .ed448 => 456
  | .x25519 => 0
  | .x448 => 0

end KeyKind

/-- A public key: two keys are the same when they are equal. -/
structure PublicKey where
  kind : KeyKind
  identity : String
  deriving DecidableEq, Repr

inductive Digest where
  | sha1
  | sha224
  | sha256
  | sha384
  | sha512
  | sha3_256
  deriving DecidableEq, Repr

def Digest.label : Digest → String
  | .sha1 => "sha1"
  | .sha224 => "sha224"
  | .sha256 => "sha256"
  | .sha384 => "sha384"
  | .sha512 => "sha512"
  | .sha3_256 => "sha3-256"

def Digest.ofLabel (name : String) : Digest :=
  ([.sha1, .sha224, .sha384, .sha512, .sha3_256].find? fun d => d.label == name).getD .sha256

/-- A signature algorithm; `unknown` is one whose identifier has no name. -/
inductive SignatureAlgorithm where
  | rsa (digest : Digest)
  | ecdsa (digest : Digest)
  | ed25519
  | ed448
  | unknown
  deriving DecidableEq, Repr

namespace SignatureAlgorithm

def ofKey (kind : KeyKind) (digest : Digest) : SignatureAlgorithm :=
  match kind with
  | .rsa _ => .rsa digest
  | .ecdsa _ => .ecdsa digest
  | .ed25519 => .ed25519
  | .ed448 => .ed448
  | .x25519 | .x448 => .unknown

def text : SignatureAlgorithm → String
  | .rsa .sha1 => "sha1WithRSAEncryption"
  | .rsa .sha224 => "sha224WithRSAEncryption"
  | .rsa .sha256 => "sha256WithRSAEncryption"
  | .rsa .sha384 => "sha384WithRSAEncryption"
  | .rsa .sha512 => "sha512WithRSAEncryption"
  | .ecdsa .sha1 => "ecdsa-with-SHA1"
  | .ecdsa .sha224 => "ecdsa-with-SHA224"
  | .ecdsa .sha256 => "ecdsa-with-SHA256"
  | .ecdsa .sha384 => "ecdsa-with-SHA384"
  | .ecdsa .sha512 => "ecdsa-with-SHA512"
  | .ed25519 => "ed25519"
  | .ed448 => "ed448"
  | .rsa .sha3_256 | .ecdsa .sha3_256 | .unknown => "Unknown OID"

end SignatureAlgorithm

/-- A certificate's signature: who made it, how, and whether the signed bytes are still those that were signed. -/
structure Signature where
  signer : String
  algorithm : SignatureAlgorithm
  intact : Bool
  deriving DecidableEq, Repr

end CertInventory
