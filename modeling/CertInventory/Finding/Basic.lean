import CertInventory.Finding.Severity
import CertInventory.Revocation.Body
import CertInventory.Certificate.Basic

/-!
Findings: one observation of a place where a certificate is in use. Beside what is reported a finding carries the
certificate, its issuer and the staple while a run lasts, for the revocation checks.
-/

namespace CertInventory

/-- One observation of a place where a certificate is in use. -/
structure Finding where
  source : String
  namespaceName : String
  name : String
  target : String
  serverName : String
  notAfter : Option Time.Instant
  subject : String
  issuer : String
  serial : String
  dnsNames : List String
  issuerChain : List String
  keyAlgorithm : String
  keySize : Int
  signatureAlgorithm : String
  selfSigned : Bool
  chainLength : Int
  probeOk : Bool
  probeError : String
  tlsVersion : String
  cipherSuite : String
  retryCount : Int
  chainErrors : List String
  postureIssues : List String
  revocationIssues : List String
  severity : Severity
  findingType : String
  notes : String
  remediation : String
  cluster : String
  certificate : Option Certificate
  issuerCertificate : Option Certificate
  staple : OcspBody

namespace Finding

def ofSource (source : String) : Finding where
  source := source
  namespaceName := ""
  name := ""
  target := ""
  serverName := ""
  notAfter := none
  subject := ""
  issuer := ""
  serial := ""
  dnsNames := []
  issuerChain := []
  keyAlgorithm := ""
  keySize := 0
  signatureAlgorithm := ""
  selfSigned := false
  chainLength := 0
  probeOk := false
  probeError := ""
  tlsVersion := ""
  cipherSuite := ""
  retryCount := 0
  chainErrors := []
  postureIssues := []
  revocationIssues := []
  severity := .info
  findingType := ""
  notes := ""
  remediation := ""
  cluster := ""
  certificate := none
  issuerCertificate := none
  staple := .empty

def withoutTransients (f : Finding) : Finding :=
  { f with certificate := none, issuerCertificate := none, staple := .empty }

def hasTransients (f : Finding) : Bool :=
  f.certificate.isSome || f.issuerCertificate.isSome || !f.staple.isEmpty

def webhookSource : String := "k8s.webhook"

def certManagerSource : String := "certmanager"

def renewalSource : String := "certmanager.renewal"

def externalSource : String := "external"

def fileSource : String := "file"

/-- The notes of a webhook whose failure blocks, and of one whose failure is skipped. -/
def failPolicyNotes : String := "failurePolicy=Fail"

def ignorePolicyNotes : String := "failurePolicy=Ignore"

def managedExpiry : String := "MANAGED_EXPIRY"

def renewalStalled : String := "RENEWAL_STALLED"

def challengeFailed : String := "CHALLENGE_FAILED"

def requestPending : String := "REQUEST_PENDING"

end Finding

end CertInventory
