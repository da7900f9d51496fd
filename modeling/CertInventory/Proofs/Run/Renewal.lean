import CertInventory.Proofs.Run.Emission

/-!
What a healthy renewal takes from a finding in a run. A renewal lowers every urgent finding about its certificate,
whatever made the finding urgent: trouble with the chain (`defective_urgent_iff`) and the severity that a source gives
to what it could not probe (`unprobed_kept_iff`) go with the expiry. Revocation comes after renewals and raises the
severity alone, so a revoked certificate keeps the type of a renewal and what the playbook says about it
(`managedExpiry_info_iff`).
-/

namespace CertInventory

open Time Finding

namespace Finding

/-- A probed finding with an expiry whose chain has defects. -/
def IsDefective (f : Finding) : Prop := f.probeOk = true ∧ f.notAfter ≠ none ∧ f.chainErrors ≠ []

theorem isDefective_congr {f g : Finding} (h : g.sighting = f.sighting) : g.IsDefective ↔ f.IsDefective := by
  show g.sighting.IsDefective ↔ f.sighting.IsDefective
  rw [h]

/-- Defects of the chain make a finding urgent before any renewal is looked at. -/
theorem IsDefective.baseSeverity_ne_info {f : Finding} (h : f.IsDefective) (now warn critical : Instant) :
    f.baseSeverity now warn critical ≠ .info := by
  obtain ⟨hprobe, hafter, hchain⟩ := h
  obtain ⟨notAfter, hafter⟩ := Option.ne_none_iff_exists'.mp hafter
  exact Finding.baseSeverity_ne_info hprobe hafter (.inr (.inl hchain))

theorem baseSeverity_of_unprobed {f : Finding} (h : f.probeOk = false) (now warn critical : Instant) :
    f.baseSeverity now warn critical = f.severity := by
  simp only [baseSeverity, h]

end Finding

namespace Run

variable {σ : Type} {r : Run σ} {now : Instant} {sources : List Source} {s s' : σ} {snap : Snapshot}

theorem not_leavesRevoked_of_unprobed {f : Finding} (h : f.probeOk = false) (check : Option (RevocationCheck σ))
    (before : List Finding) (s : σ) : ¬ LeavesRevoked (outcomeBehind? check before f s) := by
  have hf : ¬ isChecked f = true := fun hchecked => Bool.noConfusion (h.symm.trans (isChecked_iff.mp hchecked).1)
  rintro ⟨o, ho, _⟩
  cases check with
  | none => cases ho
  | some check =>
    rw [outcomeBehind?, if_neg hf] at ho
    cases ho

/-- A defective chain is emitted at `info` exactly where the certificate renews by itself and its check leaves no
mark. So all of them are emitted as urgent exactly where each of them that renews by itself is found revoked. -/
theorem defective_urgent_iff (hrun : (r.snapshot now sources).run s = (.ok snap, s')) :
    (∀ before f behind, sources.flatMap Source.found = before ++ f :: behind → f.IsDefective →
      ∃ g, snap.findings[before.length]? = some g ∧ g.sighting = f.sighting ∧
        (g.severity = .info ↔ RenewsByItself (sources.flatMap Source.found) f ∧
          ¬ LeavesRevoked (outcomeBehind? r.revocation before f s))) ∧
    ((∀ g ∈ snap.findings, g.probeOk = true → g.notAfter ≠ none → g.chainErrors ≠ [] →
        g.severity = .warn ∨ g.severity = .critical) ↔
      ∀ before f behind, sources.flatMap Source.found = before ++ f :: behind → f.IsDefective →
        RenewsByItself (sources.flatMap Source.found) f →
        LeavesRevoked (outcomeBehind? r.revocation before f s)) := by
  obtain ⟨warn, critical, _, _, hfindings⟩ := exists_cutoffs_of_snapshot hrun
  have hinfo (before : List Finding) (f : Finding) (hf : f.IsDefective) :
      (emission r ⟨now, warn, critical⟩ (sources.flatMap Source.found) before f s).severity = .info ↔
        RenewsByItself (sources.flatMap Source.found) f ∧
          ¬ LeavesRevoked (outcomeBehind? r.revocation before f s) := by
    have hbase := hf.baseSeverity_ne_info now warn critical
    rw [severity_emission]
    by_cases hrevoked : LeavesRevoked (outcomeBehind? r.revocation before f s)
    · simp [hrevoked]
    · by_cases hrenews : RenewsByItself (sources.flatMap Source.found) f
      · simp [hrevoked, hrenews, hbase]
      · simp [hrevoked, hrenews, hbase]
  have hurgent (g : Finding) : (g.severity = .warn ∨ g.severity = .critical) ↔ g.severity ≠ .info := by
    cases g.severity <;> simp
  rw [hfindings]
  refine ⟨?_, ?_⟩
  · intro before f behind hall hf
    exact ⟨_, getElem?_snapshot_run hall s, sighting_emission _ _ _ _ _ _, hinfo before f hf⟩
  · rw [forall_mem_checked_iff]
    refine forall₃_congr fun before f behind => imp_congr_right fun _ => ?_
    have hsame := isDefective_congr (sighting_emission r ⟨now, warn, critical⟩ (sources.flatMap Source.found) before f s)
    rw [hurgent]
    constructor
    · intro h hf hrenews
      by_contra hrevoked
      obtain ⟨hprobe, hafter, hchain⟩ := hsame.mpr hf
      exact h hprobe hafter hchain ((hinfo before f hf).mpr ⟨hrenews, hrevoked⟩)
    · intro h hprobe hafter hchain hlow
      have hf := hsame.mp ⟨hprobe, hafter, hchain⟩
      obtain ⟨hrenews, hrevoked⟩ := (hinfo before f hf).mp hlow
      exact hrevoked (h hf hrenews)

def sampleChecked (issues : List String) : Run Unit :=
  ⟨⟨3⟩, ⟨1⟩, "", (some fun _ _ _ => .ok issues).map answering, none⟩

/-- A managed certificate with its renewals, and an endpoint that serves it. -/
def sampleServed (renewals : List Finding) (served : Finding) : List Source :=
  [⟨.ok "managed", "Managed", .ok ({ sampleFinding certManagerSource "a" (sampleTime 9) with
      serial := "7", certificate := none } :: renewals)⟩,
    ⟨.ok "externals", "Externals", .ok [{ served with serial := "7" }]⟩]

theorem samplePeriods (issues : List String) :
    Cutoffs.at? (sampleTime 5) (sampleChecked issues).warnBefore (sampleChecked issues).critBefore =
      some ⟨sampleTime 5, sampleTime 8, sampleTime 6⟩ :=
  at?_sampleCutoffs 5 (by decide)

def sampleMisordered : Finding :=
  { sampleFinding externalSource "edge" (sampleTime 9) with chainErrors := ["chain misordered at position 0"] }

def sampleRevokedIssue : String := "CERT_REVOKED: OCSP staple: certificate revoked"

/-- A misordered chain whose certificate is revoked stays urgent beside its renewal. -/
theorem defective_urgent_revoked :
    ∃ snap s', ((sampleChecked [sampleRevokedIssue]).snapshot (sampleTime 5) (sampleServed [] sampleMisordered)).run () =
        (.ok snap, s') ∧
      ∀ g ∈ snap.findings, g.probeOk = true → g.notAfter ≠ none → g.chainErrors ≠ [] →
        g.severity = .warn ∨ g.severity = .critical := by
  have hrun := snapshot_run (samplePeriods [sampleRevokedIssue]) (sampleServed [] sampleMisordered) ()
  refine ⟨_, _, hrun, (defective_urgent_iff hrun).2.mpr ?_⟩
  intro before f behind hall hf _
  have hrevoked : ∀ f ∈ (sampleServed [] sampleMisordered).flatMap Source.found, f.chainErrors ≠ [] →
      LeavesRevoked (outcome? (some fun _ _ _ => .ok [sampleRevokedIssue]) f) := by decide
  rw [sampleChecked, outcomeBehind?_answering]
  exact hrevoked f (hall ▸ List.mem_append_right before List.mem_cons_self) hf.2.2

/-- A misordered chain goes unnoticed where its certificate is renewed. -/
theorem exists_defective_at_info :
    ¬ ∀ (r : Run Unit) (now : Instant) (sources : List Source) (s s' : Unit) (snap : Snapshot),
      (r.snapshot now sources).run s = (.ok snap, s') →
      ∀ g ∈ snap.findings, g.probeOk = true → g.notAfter ≠ none → g.chainErrors ≠ [] →
        g.severity = .warn ∨ g.severity = .critical := by
  intro h
  have hall := h _ _ _ _ _ _ (snapshot_run (samplePeriods []) (sampleServed [] sampleMisordered) ())
  rw [forall_mem_checked_iff] at hall
  have hedge := hall _ _ [] rfl
  revert hedge
  decide

/-- A finding that was not probed is lowered where its certificate renews by itself, and keeps the severity of its
source otherwise. -/
theorem unprobed_kept_iff (hrun : (r.snapshot now sources).run s = (.ok snap, s')) :
    (∀ before f behind, sources.flatMap Source.found = before ++ f :: behind → f.probeOk = false →
      ∃ g, snap.findings[before.length]? = some g ∧ g.sighting = f.sighting ∧
        g.severity = if RenewsByItself (sources.flatMap Source.found) f then .info else f.severity) ∧
    ((∀ before f behind, sources.flatMap Source.found = before ++ f :: behind → f.probeOk = false →
        ∃ g, snap.findings[before.length]? = some g ∧ g.severity = f.severity) ↔
      ∀ f ∈ sources.flatMap Source.found, f.probeOk = false → RenewsByItself (sources.flatMap Source.found) f →
        f.severity = .info) := by
  obtain ⟨warn, critical, _, _, hfindings⟩ := exists_cutoffs_of_snapshot hrun
  have hseverity (before : List Finding) (f : Finding) (hf : f.probeOk = false) :
      (emission r ⟨now, warn, critical⟩ (sources.flatMap Source.found) before f s).severity =
        if RenewsByItself (sources.flatMap Source.found) f then .info else f.severity := by
    rw [severity_emission, if_neg (not_leavesRevoked_of_unprobed hf _ _ _), baseSeverity_of_unprobed hf]
    by_cases hrenews : RenewsByItself (sources.flatMap Source.found) f
    · by_cases hinfo : f.severity = .info
      · simp [hrenews, hinfo]
      · simp [hrenews, hinfo]
    · simp [hrenews]
  rw [hfindings]
  refine ⟨?_, ?_, ?_⟩
  · intro before f behind hall hf
    exact ⟨_, getElem?_snapshot_run hall s, sighting_emission _ _ _ _ _ _, hseverity before f hf⟩
  · intro h f hmem hf hrenews
    obtain ⟨before, behind, hall⟩ := List.append_of_mem hmem
    obtain ⟨g, hg, hkept⟩ := h before f behind hall hf
    rw [getElem?_snapshot_run hall, Option.some.injEq] at hg
    rw [← hkept, ← hg, hseverity before f hf, if_pos hrenews]
  · intro h before f behind hall hf
    refine ⟨_, getElem?_snapshot_run hall s, ?_⟩
    have hmem : f ∈ sources.flatMap Source.found := hall ▸ List.mem_append_right before List.mem_cons_self
    rw [hseverity before f hf]
    split
    · exact (h f hmem hf ‹_›).symm
    · rfl

/-- A finding of an endpoint that could not be reached, which its source takes for critical. -/
def sampleUnreached : Finding :=
  { Finding.ofSource externalSource with name := "edge", severity := .critical, probeError := "refused" }

def samplePending : Finding := { Finding.ofSource renewalSource with name := "a", findingType := requestPending }

/-- An endpoint that was not reached stays critical while the renewal of its certificate is pending. -/
theorem unprobed_kept_pending :
    ∃ snap s', ((sampleChecked []).snapshot (sampleTime 5) (sampleServed [samplePending] sampleUnreached)).run () =
        (.ok snap, s') ∧
      ∀ before f behind, (sampleServed [samplePending] sampleUnreached).flatMap Source.found = before ++ f :: behind →
        f.probeOk = false → ∃ g, snap.findings[before.length]? = some g ∧ g.severity = f.severity := by
  have hrun := snapshot_run (samplePeriods []) (sampleServed [samplePending] sampleUnreached) ()
  exact ⟨_, _, hrun, (unprobed_kept_iff hrun).2.mpr (by decide)⟩

/-- An endpoint that was not reached loses its severity to the renewal of the certificate it is known to serve. -/
theorem exists_unprobed_lowered :
    ¬ ∀ (r : Run Unit) (now : Instant) (sources : List Source) (s s' : Unit) (snap : Snapshot),
      (r.snapshot now sources).run s = (.ok snap, s') →
      ∀ before f behind, sources.flatMap Source.found = before ++ f :: behind → f.probeOk = false →
        ∃ g, snap.findings[before.length]? = some g ∧ g.severity = f.severity := by
  intro h
  obtain ⟨g, hg, hkept⟩ := h _ _ _ _ _ _ (snapshot_run (samplePeriods []) (sampleServed [] sampleUnreached) ())
    _ _ [] rfl rfl
  obtain rfl := Option.some.inj (hg.symm.trans (getElem?_snapshot_run rfl ()))
  revert hkept
  decide

/-- A finding is given the type of a renewal exactly where it is urgent and its certificate renews by itself, and it is
told what the playbook says to that type. It is critical where its check leaves the mark of a revoked certificate and
at `info` otherwise. -/
theorem managedExpiry_info_iff (hrun : (r.snapshot now sources).run s = (.ok snap, s'))
    (hsources : ∀ f ∈ sources.flatMap Source.found, f.findingType ≠ managedExpiry) :
    ∃ warn critical, now.add? r.warnBefore = some warn ∧ now.add? r.critBefore = some critical ∧
      (∀ before f behind, sources.flatMap Source.found = before ++ f :: behind →
        ∃ g, snap.findings[before.length]? = some g ∧ g.sighting = f.sighting ∧
          (g.findingType = managedExpiry ↔
            f.baseSeverity now warn critical ≠ .info ∧ RenewsByItself (sources.flatMap Source.found) f) ∧
          (g.findingType = managedExpiry → g.severity =
            if LeavesRevoked (outcomeBehind? r.revocation before f s) then .critical else .info) ∧
          (f.remediation = "" →
            (playbook.lookup managedExpiry = some g.remediation ↔ g.findingType = managedExpiry))) ∧
      ((∀ g ∈ snap.findings, g.findingType = managedExpiry → g.severity = .info) ↔
        ∀ before f behind, sources.flatMap Source.found = before ++ f :: behind →
          f.baseSeverity now warn critical ≠ .info → RenewsByItself (sources.flatMap Source.found) f →
          ¬ LeavesRevoked (outcomeBehind? r.revocation before f s)) := by
  obtain ⟨warn, critical, hwarn, hcritical, hfindings⟩ := exists_cutoffs_of_snapshot hrun
  refine ⟨warn, critical, hwarn, hcritical, ?_⟩
  have htype (before : List Finding) (f : Finding) (hf : f ∈ sources.flatMap Source.found) :
      (emission r ⟨now, warn, critical⟩ (sources.flatMap Source.found) before f s).findingType = managedExpiry ↔
        f.baseSeverity now warn critical ≠ .info ∧ RenewsByItself (sources.flatMap Source.found) f := by
    rw [findingType_emission]
    split
    · exact iff_of_true rfl ‹_›
    · exact iff_of_false (hsources f hf) ‹_›
  have hseverity (before : List Finding) (f : Finding) (hrenewal : f.baseSeverity now warn critical ≠ .info ∧
      RenewsByItself (sources.flatMap Source.found) f) :
      (emission r ⟨now, warn, critical⟩ (sources.flatMap Source.found) before f s).severity =
        if LeavesRevoked (outcomeBehind? r.revocation before f s) then .critical else .info := by
    rw [severity_emission, if_pos hrenewal]
  have hmem {before behind : List Finding} {f : Finding}
      (hall : sources.flatMap Source.found = before ++ f :: behind) : f ∈ sources.flatMap Source.found :=
    hall ▸ List.mem_append_right before List.mem_cons_self
  rw [hfindings]
  constructor
  · intro before f behind hall
    have hf := htype before f (hmem hall)
    refine ⟨_, getElem?_snapshot_run hall s, sighting_emission _ _ _ _ _ _, hf,
      fun h => hseverity before f (hf.mp h), fun hsilent => ?_⟩
    obtain ⟨text, htext⟩ : ∃ text, playbook.lookup managedExpiry = some text := ⟨_, rfl⟩
    rw [← remediation_emission_eq_iff _ _ _ _ _ _ htext hsilent, htext, Option.some.injEq, eq_comm]
  · rw [forall_mem_checked_iff]
    refine forall₄_congr fun before f behind hall => ?_
    rw [htype before f (hmem hall), and_imp]
    refine forall₂_congr fun hurgent hrenews => ?_
    rw [hseverity before f ⟨hurgent, hrenews⟩]
    split
    · exact iff_of_false Severity.noConfusion (not_not_intro ‹_›)
    · exact iff_of_true rfl ‹_›

/-- An endpoint with a managed certificate that expires soon is a renewal at `info` where its responder is silent. -/
theorem managedExpiry_info_unreachable :
    (∀ f ∈ (sampleServed [] (sampleFinding externalSource "soon" (sampleTime 7))).flatMap Source.found,
      f.findingType ≠ managedExpiry) ∧
    ∃ snap s', ((sampleChecked ["OCSP_UNREACHABLE: timed out"]).snapshot (sampleTime 5)
        (sampleServed [] (sampleFinding externalSource "soon" (sampleTime 7)))).run () = (.ok snap, s') ∧
      snap.findings.map Finding.findingType = ["", managedExpiry] ∧
      ∀ g ∈ snap.findings, g.findingType = managedExpiry → g.severity = .info := by
  have hsources : ∀ f ∈ (sampleServed [] (sampleFinding externalSource "soon" (sampleTime 7))).flatMap Source.found,
      f.findingType ≠ managedExpiry := by decide
  have hrun := snapshot_run (samplePeriods ["OCSP_UNREACHABLE: timed out"])
    (sampleServed [] (sampleFinding externalSource "soon" (sampleTime 7))) ()
  obtain ⟨warn, critical, _, _, _, hiff⟩ := managedExpiry_info_iff hrun hsources
  refine ⟨hsources, _, _, hrun, by decide, hiff.mpr ?_⟩
  intro before f behind hall _ _
  have hsilent : ∀ f ∈ (sampleServed [] (sampleFinding externalSource "soon" (sampleTime 7))).flatMap Source.found,
      ¬ LeavesRevoked (outcome? (some fun _ _ _ => .ok ["OCSP_UNREACHABLE: timed out"]) f) := by decide
  rw [sampleChecked, outcomeBehind?_answering]
  exact hsilent f (hall ▸ List.mem_append_right before List.mem_cons_self)

/-- A revoked certificate that is renewed by itself is critical and still said to need nothing. -/
theorem exists_managedExpiry_critical :
    ¬ ∀ (r : Run Unit) (now : Instant) (sources : List Source) (s s' : Unit) (snap : Snapshot),
      (r.snapshot now sources).run s = (.ok snap, s') →
      (∀ f ∈ sources.flatMap Source.found, f.findingType ≠ managedExpiry) →
      ∀ g ∈ snap.findings, g.findingType = managedExpiry → g.severity = .info := by
  intro h
  have hall := h _ _ _ _ _ _ (snapshot_run (samplePeriods [sampleRevokedIssue])
    (sampleServed [] (sampleFinding externalSource "soon" (sampleTime 7))) ()) (by decide)
  rw [forall_mem_checked_iff] at hall
  have hsoon := hall _ _ [] rfl
  revert hsoon
  decide

end Run

end CertInventory
