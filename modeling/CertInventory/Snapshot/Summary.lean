import CertInventory.Snapshot.Basic

/-!
The summary of a snapshot: how many findings there are of each kind, and how urgent the worst is.
-/

namespace CertInventory

structure Summary where
  total : Nat
  critical : Nat
  warn : Nat
  info : Nat
  probeFailures : Nat
  chainIssues : Nat
  postureIssues : Nat
  sourceErrors : Nat
  worst : Severity
  deriving DecidableEq, Repr

namespace Summary

def count (severity : Severity) (findings : List Finding) : Nat :=
  findings.countP fun f => f.severity == severity

def ofSnapshot (s : Snapshot) : Summary where
  total := s.findings.length
  critical := count .critical s.findings
  warn := count .warn s.findings
  info := count .info s.findings
  probeFailures := s.findings.countP fun f => !f.probeOk
  chainIssues := s.findings.countP fun f => !f.chainErrors.isEmpty
  postureIssues := s.findings.countP fun f => !f.postureIssues.isEmpty
  sourceErrors := s.errors.length
  worst := Severity.worst (s.findings.map Finding.severity)

def toDatum (s : Summary) : Datum :=
  .object [("total", .int s.total), ("critical", .int s.critical), ("warn", .int s.warn), ("info", .int s.info),
    ("probe_failures", .int s.probeFailures), ("chain_issues", .int s.chainIssues),
    ("posture_issues", .int s.postureIssues), ("source_errors", .int s.sourceErrors),
    ("worst", .text s.worst.label)]

end Summary

end CertInventory
