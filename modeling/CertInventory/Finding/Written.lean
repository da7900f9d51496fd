import CertInventory.Datum.Checked
import CertInventory.Finding.Basic

/-!
Findings as documents. Writing leaves out every field that has its default, three fields aside; reading takes the
written names and the plain ones, and gives an absent field its default. What a finding carries for the revocation
checks is not written; of it only a staple can be read, and text that stands in its place is no response.
-/

namespace CertInventory.Finding

def writtenText (name v : String) : List (String × Datum) := if v.isEmpty then [] else [(name, .text v)]

def writtenTexts (name : String) (v : List String) : List (String × Datum) :=
  if v.isEmpty then [] else [(name, .texts v)]

def writtenInt (name : String) (v : Int) : List (String × Datum) := if v = 0 then [] else [(name, .int v)]

def writtenTruth (name : String) (v : Bool) : List (String × Datum) := if v then [(name, .bool true)] else []

def writtenTime (name : String) : Option Time.Instant → List (String × Datum)
  | none => []
  | some t => [(name, .text t.text)]

def fields (f : Finding) : List (String × Datum) :=
  [("source", .text f.source)] ++ writtenText "namespace" f.namespaceName ++ writtenText "name" f.name ++
    writtenText "target" f.target ++ writtenText "sni" f.serverName ++ writtenTime "notAfter" f.notAfter ++
    writtenText "subject" f.subject ++ writtenText "issuer" f.issuer ++ writtenText "serial" f.serial ++
    writtenTexts "dnsNames" f.dnsNames ++ writtenTexts "issuerChain" f.issuerChain ++
    writtenText "keyAlgorithm" f.keyAlgorithm ++ writtenInt "keySize" f.keySize ++
    writtenText "signatureAlgorithm" f.signatureAlgorithm ++ writtenTruth "selfSigned" f.selfSigned ++
    writtenInt "chainLen" f.chainLength ++ [("probeOk", .bool f.probeOk)] ++
    writtenText "probeError" f.probeError ++ writtenText "tlsVersion" f.tlsVersion ++
    writtenText "cipherSuite" f.cipherSuite ++ writtenInt "retryCount" f.retryCount ++
    writtenTexts "chainErrors" f.chainErrors ++ writtenTexts "postureIssues" f.postureIssues ++
    writtenTexts "revocationIssues" f.revocationIssues ++ [("severity", .text f.severity.label)] ++
    writtenText "findingType" f.findingType ++ writtenText "notes" f.notes ++
    writtenText "remediation" f.remediation ++ writtenText "cluster" f.cluster

def toDatum (f : Finding) : Datum := .object f.fields

def readSeverity : Datum → Checked Severity
  | .text s =>
    match Severity.ofLabel? s with
    | some severity => .good severity
    | none => .problem .notAmongChoices
  | _ => .problem .notAmongChoices

def readTexts (d : Datum) : Checked (List String) := d.toList Datum.toText

def readStaple : Datum → Checked OcspBody
  | .text s => .good (if s.isEmpty then .empty else .garbage)
  | _ => .problem .notBytes

def ofEntries (entries : List (Scalar × Datum)) : Checked Finding :=
  let text (name other : String) := Datum.fieldOr entries name other "" Datum.toText
  let texts (name other : String) := Datum.fieldOr entries name other [] readTexts
  let int (name other : String) := Datum.fieldOr entries name other 0 Datum.toInteger
  let truth (name other : String) := Datum.fieldOr entries name other false Datum.toTruth
  Finding.mk <$> Datum.requiredField entries "source" "source" Datum.toText
    <*> text "namespace" "namespace"
    <*> text "name" "name"
    <*> text "target" "target"
    <*> text "sni" "sni"
    <*> Datum.fieldOr entries "notAfter" "not_after" none Datum.toOptionalTime
    <*> text "subject" "subject"
    <*> text "issuer" "issuer"
    <*> text "serial" "serial"
    <*> texts "dnsNames" "dns_names"
    <*> texts "issuerChain" "issuer_chain"
    <*> text "keyAlgorithm" "key_algorithm"
    <*> int "keySize" "key_size"
    <*> text "signatureAlgorithm" "signature_algorithm"
    <*> truth "selfSigned" "self_signed"
    <*> int "chainLen" "chain_len"
    <*> truth "probeOk" "probe_ok"
    <*> text "probeError" "probe_err"
    <*> text "tlsVersion" "tls_version"
    <*> text "cipherSuite" "cipher_suite"
    <*> int "retryCount" "retry_count"
    <*> texts "chainErrors" "chain_errors"
    <*> texts "postureIssues" "posture_issues"
    <*> texts "revocationIssues" "revocation_issues"
    <*> Datum.fieldOr entries "severity" "severity" .info readSeverity
    <*> text "findingType" "finding_type"
    <*> text "notes" "notes"
    <*> text "remediation" "remediation"
    <*> text "cluster" "cluster"
    <*> pure none
    <*> pure none
    <*> Datum.fieldOr entries "ocspStaple" "ocsp_staple" .empty readStaple

def ofDatum (d : Datum) : Checked Finding := d.toRecord ofEntries

/-- Reads a new value of the field with a plain name into a finding. A document holds no certificate, so whatever it
gives for one takes the old one away. -/
def assign (f : Finding) (name : String) (v : Datum) : Checked Finding :=
  let text (put : String → Finding) := v.toText.map put
  let texts (put : List String → Finding) := (readTexts v).map put
  let int (put : Int → Finding) := v.toInteger.map put
  let truth (put : Bool → Finding) := v.toTruth.map put
  let outcome := match name with
    | "source" => text fun x => { f with source := x }
    | "namespace" => text fun x => { f with namespaceName := x }
    | "name" => text fun x => { f with name := x }
    | "target" => text fun x => { f with target := x }
    | "sni" => text fun x => { f with serverName := x }
    | "not_after" => v.toOptionalTime.map fun x => { f with notAfter := x }
    | "subject" => text fun x => { f with subject := x }
    | "issuer" => text fun x => { f with issuer := x }
    | "serial" => text fun x => { f with serial := x }
    | "dns_names" => texts fun x => { f with dnsNames := x }
    | "issuer_chain" => texts fun x => { f with issuerChain := x }
    | "key_algorithm" => text fun x => { f with keyAlgorithm := x }
    | "key_size" => int fun x => { f with keySize := x }
    | "signature_algorithm" => text fun x => { f with signatureAlgorithm := x }
    | "self_signed" => truth fun x => { f with selfSigned := x }
    | "chain_len" => int fun x => { f with chainLength := x }
    | "probe_ok" => truth fun x => { f with probeOk := x }
    | "probe_err" => text fun x => { f with probeError := x }
    | "tls_version" => text fun x => { f with tlsVersion := x }
    | "cipher_suite" => text fun x => { f with cipherSuite := x }
    | "retry_count" => int fun x => { f with retryCount := x }
    | "chain_errors" => texts fun x => { f with chainErrors := x }
    | "posture_issues" => texts fun x => { f with postureIssues := x }
    | "revocation_issues" => texts fun x => { f with revocationIssues := x }
    | "severity" => (readSeverity v).map fun x => { f with severity := x }
    | "finding_type" => text fun x => { f with findingType := x }
    | "notes" => text fun x => { f with notes := x }
    | "remediation" => text fun x => { f with remediation := x }
    | "cluster" => text fun x => { f with cluster := x }
    | "raw_cert" => .good { f with certificate := none }
    | "raw_issuer" => .good { f with issuerCertificate := none }
    | "ocsp_staple" => (readStaple v).map fun x => { f with staple := x }
    | _ => .problem .noSuchField
  outcome.under (.field name)

end CertInventory.Finding
