import CertInventory.Finding.Basic

/-!
What to do about a finding. Its type decides where the playbook knows it; after that the first kind of trouble does:
revocation, chain, posture, probe, and last the severity alone.
-/

namespace CertInventory.Finding

def playbook : List (String × String) :=
  [(managedExpiry, "Certificate is managed by cert-manager with healthy renewal. No action required."),
    (renewalStalled,
      "cert-manager CertificateRequest is stuck. Check cert-manager logs, issuer configuration, and RBAC. " ++
        "Run: kubectl describe certificaterequest -n <namespace>"),
    (challengeFailed,
      "ACME challenge failed. Check DNS records, HTTP reachability, and issuer account credentials. " ++
        "Run: kubectl describe challenge -n <namespace>"),
    (requestPending,
      "cert-manager Certificate is not ready. Check the Certificate status and issuer health. " ++
        "Run: kubectl describe certificate <name> -n <namespace>")]

def revocationRemedy : String :=
  "Check certificate revocation status. If revoked, reissue immediately and rotate all dependents."

def chainRemedy : String :=
  "Fix the certificate chain: ensure intermediates are present and correctly ordered in the TLS secret or server " ++
    "config."

def postureRemedy : String :=
  "Upgrade TLS configuration: disable TLS <1.2, remove weak ciphers (RC4, 3DES, NULL), and enable TLS 1.3 where " ++
    "possible."

def probeRemedy : String :=
  "Investigate probe failure: check that the service is running, the port is correct, and TLS is configured."

def severityRemedy : Severity → String
  | .critical => "Certificate is expired or expiring imminently. Renew or rotate the certificate now."
  | .warn => "Certificate is approaching expiry. Schedule renewal before the warning threshold."
  | .info => ""

def remedy (f : Finding) : String :=
  match playbook.lookup f.findingType with
  | some text => text
  | none =>
    if f.revocationIssues ≠ [] then revocationRemedy
    else if f.chainErrors ≠ [] then chainRemedy
    else if f.postureIssues ≠ [] then postureRemedy
    else if !f.probeOk && !f.probeError.isEmpty then probeRemedy
    else severityRemedy f.severity

/-- The finding with what to do about it; what its source said stays. -/
def withRemedy (f : Finding) : Finding := if f.remediation.isEmpty then { f with remediation := f.remedy } else f

end CertInventory.Finding
