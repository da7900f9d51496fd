import CertInventory.Config.Basic
import CertInventory.Finding.Remedy
import CertInventory.Finding.Renewal
import CertInventory.Finding.Urgency
import CertInventory.Outside.Task
import CertInventory.Revocation.Crl
import CertInventory.Snapshot.Summary
import CertInventory.Source.Basic

/-!
A run: the findings of all sources, in the order in which the sources are done, are judged at one instant, seen in
the light of each other, checked for revocation and told what to do about. A source that fails leaves an error and
nothing else; a revocation check that fails leaves an issue with its finding.
-/

namespace CertInventory

open Time

/-- A revocation check of a certificate, with its issuer and its staple where they are known. -/
abbrev RevocationCheck (σ : Type) := Option Certificate → Option Certificate → OcspBody → Task σ (List String)

/-- What a run goes by: the warning periods, the cluster, and the revocation check and the timer where they are
wanted. -/
structure Run (σ : Type) where
  warnBefore : Duration
  critBefore : Duration
  cluster : String
  revocation : Option (RevocationCheck σ)
  timer : Option Timer

namespace Run

variable {σ : Type}

/-- The run of a configuration; without revocation checks the web is left alone. -/
def ofConfig (c : Config) (web : Web σ) (now : Instant) : Run (Revocation.Session σ) where
  warnBefore := c.warnBefore
  critBefore := c.critBefore
  cluster := c.clusterName
  revocation :=
    if c.checkRevocation then some fun cert issuer staple => Revocation.check web true cert issuer staple now else none
  timer := none

/-- The issues that a check gives; a check that fails gives its own failure as an issue. -/
def issuesOf : Except Fault (List String) → List String
  | .ok issues => issues
  | .error f => ["OCSP_UNREACHABLE: revocation check failed: " ++ f.report]

/-- The finding with the issues of its check; without issues it is left alone. -/
def withIssues (f : Finding) (issues : List String) : Finding :=
  if issues.isEmpty then f else { f with revocationIssues := issues }.withRevocation

/-- Whether a finding is checked for revocation: it was probed and carries its certificate. -/
def isChecked (f : Finding) : Bool := f.probeOk && f.certificate.isSome

def checkOne (check : RevocationCheck σ) (f : Finding) : StateM σ Finding := fun s =>
  if isChecked f then
    let (outcome, s) := (check f.certificate f.issuerCertificate f.staple).run s
    (withIssues f (issuesOf outcome), s)
  else (f, s)

def checkAll (check : Option (RevocationCheck σ)) (fs : List Finding) : StateM σ (List Finding) :=
  match check with
  | none => pure fs
  | some check => fs.mapM (checkOne check)

def inCluster (cluster : String) (f : Finding) : Finding :=
  if f.cluster.isEmpty then { f with cluster := cluster } else f

def emitted (cluster : String) (f : Finding) : Finding := (inCluster cluster f.withoutTransients).withRemedy

def judged (c : Cutoffs) (fs : List Finding) : List Finding := Finding.renewAll (fs.map (Finding.classified c))

/-- The snapshot of a run over reports, in the order in which their sources were done; there is none where a warning
period leads beyond the calendar. -/
def ofReports (r : Run σ) (now : Instant) (reports : List SourceReport) : StateM σ (Except Fault Snapshot) :=
  match Cutoffs.at? now r.warnBefore r.critBefore with
  | none => pure (.error .outOfRange)
  | some c => do
    let checked ← checkAll r.revocation (judged c (SourceReport.findings reports))
    return .ok ⟨now, checked.map (emitted r.cluster), SourceReport.errors reports⟩

/-- The snapshot of a run over sources, in the order in which they are done. -/
def snapshot (r : Run σ) (now : Instant) (sources : List Source) : StateM σ (Except Fault Snapshot) :=
  r.ofReports now (sources.map (Source.report r.timer))

/-- The sources in the order in which they are done, given by their positions. -/
def inOrder (order : List Nat) (sources : List Source) : List Source := order.filterMap fun i => sources[i]?

end Run

end CertInventory
