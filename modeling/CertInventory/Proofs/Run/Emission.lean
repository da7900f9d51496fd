import CertInventory.Proofs.Finding.Remedy
import CertInventory.Proofs.Run.FanIn
import CertInventory.Proofs.Run.Severity

/-!
What a run makes of a finding, whatever its revocation check does and remembers. A run emits one finding in the place
of each finding of its sources (`forall_mem_checked_iff`). Its severity depends on the urgency of the finding, on
whether its certificate renews by itself, and on what its check comes to behind the checks in front of it; its type
and what it is told to do on the first two alone, which are settled before the checks begin.
-/

namespace CertInventory

open Time Finding

namespace Run

variable {σ : Type} {r : Run σ} {now : Instant} {sources : List Source} {s s' : σ} {snap : Snapshot}

/-- A run that comes to a snapshot has its cutoffs in the calendar. -/
theorem exists_cutoffs_of_snapshot (hrun : (r.snapshot now sources).run s = (.ok snap, s')) :
    ∃ warn critical, now.add? r.warnBefore = some warn ∧ now.add? r.critBefore = some critical ∧
      snap.findings = ((checkAll r.revocation
        (judged ⟨now, warn, critical⟩ (sources.flatMap Source.found))).run s).1.map (emitted r.cluster) := by
  cases hc : Cutoffs.at? now r.warnBefore r.critBefore with
  | none =>
    rw [snapshot_run_of_no_cutoffs hc] at hrun
    cases hrun
  | some c =>
    rw [snapshot_run hc] at hrun
    cases hrun
    obtain ⟨rfl, hwarn, hcritical⟩ := Cutoffs.at?_eq_some_iff.mp hc
    exact ⟨c.warn, c.critical, hwarn, hcritical, rfl⟩

/-- Something holds of all emitted findings if it holds of what is made of each finding of the sources in its place. -/
theorem forall_mem_checked_iff (r : Run σ) (c : Cutoffs) (all : List Finding) (s : σ) (P : Finding → Prop) :
    (∀ g ∈ ((checkAll r.revocation (judged c all)).run s).1.map (emitted r.cluster), P g) ↔
      ∀ before f behind, all = before ++ f :: behind → P (emission r c all before f s) := by
  constructor
  · intro h before f behind hall
    exact h _ (List.mem_of_getElem? (getElem?_snapshot_run hall s))
  · intro h g hg
    -- An emitted finding has a place, and its place cuts the findings of the sources in two.
    obtain ⟨place, hplace⟩ := List.mem_iff_getElem?.mp hg
    have hfound := (getElem?_emitted r c all s place).symm.trans hplace
    obtain ⟨f, hf, -⟩ := Option.map_eq_some_iff.mp hfound
    obtain ⟨hall, hlength⟩ := eq_take_append_cons_drop hf
    have hemission := @getElem?_snapshot_run _ r c all _ _ _ hall s
    rw [hlength, hplace, Option.some.injEq] at hemission
    rw [hemission]
    exact h _ _ _ hall

/-- An emitted finding keeps what its source said to do, and is told what to do about its emitted state otherwise. -/
theorem remediation_emitted (cluster : String) (f : Finding) :
    (emitted cluster f).remediation = if f.remediation = "" then (emitted cluster f).remedy else f.remediation := by
  -- The label of the cluster and the clearing come before the remedy and leave it alone.
  have hbare : (inCluster cluster f.withoutTransients).remediation = f.remediation := by
    unfold inCluster
    split <;> rfl
  rw [emitted, remediation_withRemedy, remedy_withRemedy, hbare]

section Emission

variable (r : Run σ) (c : Cutoffs) (all before : List Finding) (f : Finding) (s : σ)

theorem sighting_emission : (emission r c all before f s).sighting = f.sighting := by
  have houtcome (g : Finding) (outcome : Option (Except Fault (List String))) :
      (withOutcome g outcome).sighting = g.sighting := by
    cases outcome with
    | none => rfl
    | some o => exact sighting_withIssues g _
  rw [emission, sighting_emitted, houtcome]
  exact sighting_renewed _ _

theorem severity_emission (now warn critical : Instant) :
    (emission r ⟨now, warn, critical⟩ all before f s).severity =
      if LeavesRevoked (outcomeBehind? r.revocation before f s) then .critical
      else if f.baseSeverity now warn critical ≠ .info ∧ RenewsByItself all f then .info
      else f.baseSeverity now warn critical := by
  simp only [emission, severity_emitted, severity_withOutcome, judgedAmong, severity_renewed, severity_classified,
    renewsByItself_classified]

/-- Without managed certificates in a run, only a check changes the severity that the cutoffs give, and only to make it
critical. -/
theorem severity_emission_of_unmanaged (hall : ∀ g ∈ all, ¬ g.IsManaged) (now warn critical : Instant) :
    (emission r ⟨now, warn, critical⟩ all before f s).severity = .critical ∨
      (emission r ⟨now, warn, critical⟩ all before f s).severity = f.baseSeverity now warn critical := by
  rw [severity_emission, if_neg (c := _ ∧ RenewsByItself all f) fun h => not_renewsByItself hall h.2]
  split
  · exact .inl rfl
  · exact .inr rfl

theorem findingType_and_remediation_withOutcome (g : Finding) (outcome : Option (Except Fault (List String))) :
    (withOutcome g outcome).findingType = g.findingType ∧ (withOutcome g outcome).remediation = g.remediation := by
  cases outcome with
  | none => exact ⟨rfl, rfl⟩
  | some o =>
    simp only [withOutcome, withIssues, withRevocation]
    split
    · exact ⟨rfl, rfl⟩
    · split <;> exact ⟨rfl, rfl⟩

theorem findingType_emitted (cluster : String) (g : Finding) : (emitted cluster g).findingType = g.findingType := by
  simp only [emitted, inCluster, withRemedy]
  split <;> split <;> rfl

theorem findingType_emission (now warn critical : Instant) :
    (emission r ⟨now, warn, critical⟩ all before f s).findingType =
      if f.baseSeverity now warn critical ≠ .info ∧ RenewsByItself all f then managedExpiry else f.findingType := by
  simp only [emission, findingType_emitted, (findingType_and_remediation_withOutcome _ _).1, judgedAmong,
    findingType_renewed, severity_classified, renewsByItself_classified]
  rfl

theorem remediation_emission :
    (emission r c all before f s).remediation =
      if f.remediation = "" then (emission r c all before f s).remedy else f.remediation := by
  have hkept : (withOutcome (judgedAmong c all f) (outcomeBehind? r.revocation before f s)).remediation =
      f.remediation := by
    rw [(findingType_and_remediation_withOutcome _ _).2, judgedAmong, remediation_renewed]
    rfl
  rw [emission, remediation_emitted, hkept]

/-- What could not be probed and says why is told what to do about it. -/
theorem remediation_emission_ne_empty (hprobe : f.probeOk = false) (herror : f.probeError ≠ "") :
    (emission r c all before f s).remediation ≠ "" := by
  have hsame := sighting_emission r c all before f s
  rw [remediation_emission]
  generalize emission r c all before f s = g at hsame
  have hprobe' := (congrArg Finding.probeOk hsame).trans hprobe
  have herror' := (congrArg Finding.probeError hsame).trans_ne herror
  split
  · exact remedy_ne_empty_iff.mpr (.inr (.inr (.inr (.inr (.inl ⟨hprobe', herror'⟩)))))
  · assumption

/-- A finding whose source does not say what to do is told so by its type, where the playbook knows it. -/
theorem remediation_emission_eq_iff {type text : String} (htext : playbook.lookup type = some text)
    (hsilent : f.remediation = "") :
    (emission r c all before f s).remediation = text ↔ (emission r c all before f s).findingType = type := by
  rw [remediation_emission, if_pos hsilent]
  exact lookup_eq_remedy_iff htext

end Emission

end Run

end CertInventory
