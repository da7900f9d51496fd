import CertInventory.Time.Instant

/-!
What revocation services send: OCSP responses and revocation lists, as far as they can be read at all.
-/

namespace CertInventory

open Time

inductive Refused where
  | malformedRequest
  | internalError
  | tryLater
  | signatureRequired
  | unauthorized
  deriving DecidableEq, Repr

def Refused.label : Refused → String
  | .malformedRequest => "MALFORMED_REQUEST"
  | .internalError => "INTERNAL_ERROR"
  | .tryLater => "TRY_LATER"
  | .signatureRequired => "SIG_REQUIRED"
  | .unauthorized => "UNAUTHORIZED"

/-- The refusal with a name; any other name stands for one that lasts for a while only. -/
def Refused.ofLabel (name : String) : Refused :=
  ([.malformedRequest, .internalError, .signatureRequired, .unauthorized].find? fun r => r.label == name).getD .tryLater

inductive Standing where
  | good
  | revoked
  | unknown
  deriving DecidableEq, Repr

def Standing.label : Standing → String
  | .good => "GOOD"
  | .revoked => "REVOKED"
  | .unknown => "UNKNOWN"

def Standing.ofLabel (name : String) : Standing :=
  ([.revoked, .unknown].find? fun s => s.label == name).getD .good

structure OcspAnswer where
  serial : Int
  standing : Standing
  nextUpdate : Option Instant
  deriving DecidableEq

/-- The bytes of an OCSP response: none, unreadable ones, a refusal, or an answer. -/
inductive OcspBody where
  | empty
  | garbage
  | refused (r : Refused)
  | answer (a : OcspAnswer)
  deriving DecidableEq

namespace OcspBody

def isEmpty : OcspBody → Bool
  | .empty => true
  | _ => false

def read? : OcspBody → Option (Except Refused OcspAnswer)
  | .empty | .garbage => none
  | .refused r => some (.error r)
  | .answer a => some (.ok a)

end OcspBody

structure RevocationList where
  serials : List Int
  nextUpdate : Option Instant
  deriving DecidableEq

end CertInventory
