import CertInventory.Snapshot.Summary
import Mathlib.Data.List.Basic

/-!
What the counts of a summary say. Every finding is counted under its severity, and the worst severity is the highest
one that is counted at all.
-/

namespace CertInventory

namespace Severity

theorem max_assoc (a b c : Severity) : (a.max b).max c = a.max (b.max c) := by cases a <;> cases b <;> cases c <;> rfl

theorem foldl_max (a b : Severity) (rest : List Severity) : rest.foldl max (a.max b) = a.max (rest.foldl max b) := by
  induction rest generalizing b with
  | nil => rfl
  | cons c rest ih => rw [List.foldl_cons, List.foldl_cons, max_assoc, ih]

theorem worst_cons (severity : Severity) (rest : List Severity) :
    worst (severity :: rest) = severity.max (worst rest) := by
  have hinfo : severity.max .info = Severity.info.max severity := by cases severity <;> rfl
  calc worst (severity :: rest) = rest.foldl max (Severity.info.max severity) := rfl
    _ = severity.max (worst rest) := by rw [← hinfo, foldl_max, worst]

theorem worst_eq (severities : List Severity) :
    worst severities =
      if .critical ∈ severities then .critical else if .warn ∈ severities then .warn else .info := by
  induction severities with
  | nil => rfl
  | cons severity rest ih =>
    rw [worst_cons, ih]
    cases severity <;> by_cases hcritical : Severity.critical ∈ rest <;> by_cases hwarn : Severity.warn ∈ rest <;>
      simp [hcritical, hwarn, max, rank]

end Severity

namespace Summary

theorem count_pos_iff {severity : Severity} {findings : List Finding} :
    0 < count severity findings ↔ severity ∈ findings.map Finding.severity := by
  simp [count, List.countP_pos_iff]

theorem count_add_count (findings : List Finding) :
    count .critical findings + count .warn findings + count .info findings = findings.length := by
  induction findings with
  | nil => rfl
  | cons f rest ih =>
    simp only [count, List.countP_cons, List.length_cons] at ih ⊢
    cases f.severity <;> simp <;> omega

/-- What is carried for the revocation checks is not counted. -/
theorem ofSnapshot_withoutTransients (s : Snapshot) : ofSnapshot s.withoutTransients = ofSnapshot s := by
  simp only [ofSnapshot, Snapshot.withoutTransients, count, List.length_map, List.countP_map, List.map_map]
  rfl

/-- The counts of a summary fit together. -/
structure Coherent (summary : Summary) : Prop where
  total : summary.critical + summary.warn + summary.info = summary.total
  worst : summary.worst =
    if 0 < summary.critical then .critical else if 0 < summary.warn then .warn else .info

theorem coherent_ofSnapshot (s : Snapshot) : (ofSnapshot s).Coherent where
  total := count_add_count s.findings
  worst := by
    simp only [ofSnapshot, count_pos_iff]
    exact Severity.worst_eq _

end Summary

end CertInventory
