import CertInventory.Finding.Basic
import CertInventory.Revocation.Session

/-!
Certificates, findings and webs of few data, on which statements are shown: a certificate of the names of its subject
and its signer, a finding of an endpoint that presented a certificate, and a web of fixed answers.
-/

namespace CertInventory

def sampleTime (tick : Nat) : Time.Instant :=
  ⟨tick % 10, Nat.lt_trans (Nat.mod_lt tick (by decide)) (by decide)⟩

/-- A certificate known by its subject, whose key goes by the same name, and by the authority that signed it. -/
def sampleCertificate (subject issuer : String) (isAuthority : Bool) (notBefore notAfter : Time.Instant) :
    Certificate where
  identity := subject
  subject := .ofCommonName subject
  issuer := .ofCommonName issuer
  serial := 1
  notBefore := notBefore
  notAfter := notAfter
  publicKey := .ok ⟨.ed25519, subject⟩
  signature := ⟨issuer, .ed25519, true⟩
  extensions := .ok ⟨isAuthority, none, none, [], [], []⟩

def sampleFinding (source name : String) (notAfter : Time.Instant) : Finding :=
  { Finding.ofSource source with
    name := name
    notAfter := some notAfter
    probeOk := true
    certificate := some (sampleCertificate name "root" false (sampleTime 0) notAfter) }

def sampleRevocable (responders lists : List String) : Certificate :=
  { sampleCertificate "leaf" "root" false (sampleTime 0) (sampleTime 9) with
    extensions := .ok ⟨false, none, none, [], responders.map fun url => (.ocsp, .uri url), lists.map fun url => [.uri url]⟩ }

def sampleGarbled : Failure := .saying .invalidValue "error parsing asn1 value"

/-- A web that gives fixed answers; what it has no answer for it cannot reach. -/
def sampleWeb (answers : List (String × Except Failure HttpBody)) : Web Unit where
  answer r s := ((answers.lookup r.url).getD (.error (.saying .url "no route to host")), s)

def sampleList (serials : List Int) : Except Failure HttpBody := .ok (.revocationList (some ⟨serials, none⟩))

end CertInventory
