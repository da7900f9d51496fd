import CertInventory.Proofs.Run.Renewal
import Mathlib.Data.List.Forall2

/-!
What the findings of a run are told to do. The remedies come last, when expiry, renewals and revocation have settled
what a finding is emitted as, so it is the emitted finding that decides: without a word from its source it is told what
to do exactly where there is trouble with it, and an urgent finding is never left without advice
(`findings_advised_in_trouble`).
-/

namespace CertInventory

open Time Finding

/-- How an emitted finding is advised, beside the finding of the source: what the source says to do stays, and where it
says nothing there is advice exactly for trouble with what is emitted. -/
structure Finding.Advised (f g : Finding) : Prop where
  sighting : g.sighting = f.sighting
  kept : f.remediation ≠ "" → g.remediation = f.remediation
  told : f.remediation = "" → (g.remediation ≠ "" ↔ g.IsTroubled)

theorem Finding.Advised.remediation_ne_empty {f g : Finding} (h : Advised f g)
    (hurgent : g.severity = .warn ∨ g.severity = .critical) : g.remediation ≠ "" := by
  by_cases hsilent : f.remediation = ""
  · exact (h.told hsilent).mpr (.inr (.inr (.inr (.inr (.inr hurgent)))))
  · exact (h.kept hsilent).trans_ne hsilent

namespace Run

variable {σ : Type}

/-- What holds of each finding of the sources and of what is made of it in its place holds in the order of a run. -/
theorem forall₂_checked {r : Run σ} {c : Cutoffs} {all : List Finding} {s : σ} {R : Finding → Finding → Prop}
    (h : ∀ before f behind, all = before ++ f :: behind → R f (emission r c all before f s)) :
    List.Forall₂ R all (((checkAll r.revocation (judged c all)).run s).1.map (emitted r.cluster)) := by
  rw [List.forall₂_iff_get]
  refine ⟨by rw [List.length_map, length_checkAll, judged_eq_map, List.length_map], fun place hplace hplace' => ?_⟩
  -- A place cuts the findings of the sources in two, and what is emitted there is known by the cut.
  obtain ⟨hall, hlength⟩ := eq_take_append_cons_drop (List.getElem?_eq_getElem hplace)
  have hemission := @getElem?_snapshot_run _ r c all _ _ _ hall s
  rw [hlength, List.getElem?_eq_getElem hplace', Option.some.injEq] at hemission
  simp only [List.get_eq_getElem]
  rw [hemission]
  exact h _ _ _ hall

theorem advised_emission (r : Run σ) (c : Cutoffs) (all before : List Finding) (f : Finding) (s : σ) :
    f.Advised (emission r c all before f s) where
  sighting := sighting_emission r c all before f s
  kept hsaid := by rw [remediation_emission, if_neg hsaid]
  told hsilent := by rw [remediation_emission, if_pos hsilent, remedy_ne_empty_iff]

/-- A run emits its findings one for one. Each keeps what its source said to do, and where the source said nothing it is
told what to do exactly if there is trouble with it as it is emitted. So no finding at `warn` or `critical` is emitted
without advice. -/
theorem findings_advised_in_trouble {r : Run σ} {now : Instant} {sources : List Source} {s s' : σ} {snap : Snapshot}
    (hrun : (r.snapshot now sources).run s = (.ok snap, s')) :
    List.Forall₂ Advised (sources.flatMap Source.found) snap.findings ∧
    ∀ g ∈ snap.findings, g.severity = .warn ∨ g.severity = .critical → g.remediation ≠ "" := by
  obtain ⟨warn, critical, _, _, hfindings⟩ := exists_cutoffs_of_snapshot hrun
  rw [hfindings]
  refine ⟨forall₂_checked fun before f _ _ => advised_emission r _ _ before f s, ?_⟩
  rw [forall_mem_checked_iff]
  exact fun before f _ _ => (advised_emission r _ _ before f s).remediation_ne_empty

/-- A misordered chain whose certificate is revoked keeps the advice of its source beside a managed certificate that
needs none. -/
theorem findings_advised_in_trouble_sample :
    ∃ snap s', ((sampleChecked [sampleRevokedIssue]).snapshot (sampleTime 5) (sampleServed []
        { sampleMisordered with remediation := "Call the operator." })).run () = (.ok snap, s') ∧
      snap.findings.map (fun g => (g.severity, g.remediation)) = [(.info, ""), (.critical, "Call the operator.")] ∧
      ∀ g ∈ snap.findings, g.severity = .warn ∨ g.severity = .critical → g.remediation ≠ "" := by
  have hrun := snapshot_run (samplePeriods [sampleRevokedIssue])
    (sampleServed [] { sampleMisordered with remediation := "Call the operator." }) ()
  exact ⟨_, _, hrun, by decide, (findings_advised_in_trouble hrun).2⟩

end Run

end CertInventory
