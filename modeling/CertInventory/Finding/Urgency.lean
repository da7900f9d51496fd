import CertInventory.Finding.Basic
import CertInventory.Text.Cut

/-!
How urgent a finding is at an instant. Expiry decides over the severity that the source assigned, be it higher or
lower, and a certificate that does not expire soon leaves it as it was. A webhook whose failure blocks is critical as
soon as it is to be warned about, one whose failure is skipped is never critical, and a certificate with chain or
posture issues is at least to be warned about. Findings that were not probed, and those without an expiry, are left
alone.
-/

namespace CertInventory

open Time

structure Cutoffs where
  now : Instant
  warn : Instant
  critical : Instant

/-- The cutoffs at an instant with periods of warning; they may lie beyond the calendar. -/
def Cutoffs.at? (now : Instant) (warnBefore critBefore : Duration) : Option Cutoffs :=
  match now.add? warnBefore, now.add? critBefore with
  | some warn, some critical => some ⟨now, warn, critical⟩
  | _, _ => none

namespace Finding

def isWebhook (f : Finding) (notes : String) : Bool := f.source == webhookSource && f.notes == notes

def expirySeverity (c : Cutoffs) (f : Finding) (notAfter : Instant) : Severity :=
  if notAfter < c.now ∨ notAfter < c.critical then .critical
  else if notAfter < c.warn then if f.isWebhook failPolicyNotes then .critical else .warn
  else f.severity

def capped (f : Finding) (s : Severity) : Severity :=
  if f.isWebhook ignorePolicyNotes ∧ s = .critical then .warn else s

def raised (f : Finding) (s : Severity) : Severity :=
  if (f.chainErrors ≠ [] ∨ f.postureIssues ≠ []) ∧ s = .info then .warn else s

/-- The severity of a finding at an instant. -/
def urgency (c : Cutoffs) (f : Finding) : Severity :=
  if f.probeOk then
    match f.notAfter with
    | none => f.severity
    | some notAfter => f.raised (f.capped (f.expirySeverity c notAfter))
  else f.severity

def classified (c : Cutoffs) (f : Finding) : Finding := { f with severity := f.urgency c }

def revokedMark : String := "CERT_REVOKED"

def isRevoked (f : Finding) : Bool :=
  f.revocationIssues.any fun issue => Text.contains revokedMark.toList issue.toList

def withRevocation (f : Finding) : Finding := if f.isRevoked then { f with severity := .critical } else f

end Finding

end CertInventory
