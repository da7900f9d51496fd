import CertInventory.Proofs.Finding.Mark
import CertInventory.Proofs.Finding.Renewal
import CertInventory.Proofs.Run.Passes
import CertInventory.Proofs.Sample

/-!
The severity of an emitted finding in closed form, and the one place where a run departs from it.
`statedSeverity` reads a finding as its source gave it, beside all findings of the run: expiry with its exceptions
first, then renewals, and revocation over both. A run gives it to every finding except one whose check fails with a
text that bears the mark of a revoked certificate, and that finding becomes critical (`severity_snapshot_iff`).
-/

namespace CertInventory

open Time Finding

/-- The severity of a finding from its source and its expiry: urgent by the cutoffs, with the exceptions for webhooks,
and never mere information beside chain or posture issues. -/
def Finding.baseSeverity (now warn critical : Instant) (f : Finding) : Severity :=
  match f.probeOk, f.notAfter with
  | true, some notAfter =>
    let byExpiry : Severity :=
      if notAfter < critical ∨ notAfter < now then .critical
      else if notAfter < warn then
        if f.source = webhookSource ∧ f.notes = failPolicyNotes then .critical else .warn
      else f.severity
    let byPolicy : Severity :=
      if f.source = webhookSource ∧ f.notes = ignorePolicyNotes ∧ byExpiry = .critical then .warn else byExpiry
    if byPolicy = .info ∧ (f.chainErrors ≠ [] ∨ f.postureIssues ≠ []) then .warn else byPolicy
  | _, _ => f.severity

theorem Finding.urgency_eq_baseSeverity (now warn critical : Instant) (f : Finding) :
    f.urgency ⟨now, warn, critical⟩ = f.baseSeverity now warn critical := by
  cases hprobe : f.probeOk with
  | false => simp only [urgency, baseSeverity, hprobe, Bool.false_eq_true, if_false]
  | true =>
    cases hafter : f.notAfter with
    | none => simp only [urgency, baseSeverity, hprobe, hafter, if_true]
    | some notAfter =>
      simp only [urgency, baseSeverity, hprobe, hafter, if_true, raised, capped, expirySeverity, isWebhook,
        Bool.and_eq_true, beq_iff_eq, and_assoc, or_comm (a := notAfter < now),
        and_comm (b := _ = Severity.info)]

theorem Finding.severity_classified (now warn critical : Instant) (f : Finding) :
    (f.classified ⟨now, warn, critical⟩).severity = f.baseSeverity now warn critical :=
  f.urgency_eq_baseSeverity now warn critical

theorem Finding.baseSeverity_ne_info {f : Finding} {now warn critical notAfter : Instant} (hprobe : f.probeOk = true)
    (hafter : f.notAfter = some notAfter)
    (htrouble : notAfter < warn ∨ f.chainErrors ≠ [] ∨ f.postureIssues ≠ []) :
    f.baseSeverity now warn critical ≠ .info := by
  rw [← urgency_eq_baseSeverity, urgency_eq_severityIn _ hprobe hafter]
  exact severityIn_ne_info (htrouble.imp_left Cutoffs.window_ne_far)

namespace Run

variable {σ : Type}

/-- A finding whose check returns an issue with the mark. -/
def ReturnsRevoked (answer : Option RevocationAnswer) (f : Finding) : Prop :=
  ∃ issues, outcome? answer f = some (.ok issues) ∧ ∃ issue ∈ issues, SaysRevoked issue

/-- A finding whose check fails with the mark in the text of the failure. -/
def FailsRevoked (answer : Option RevocationAnswer) (f : Finding) : Prop :=
  ∃ fault : Fault, outcome? answer f = some (.error fault) ∧ SaysRevoked fault.report

instance (answer : Option RevocationAnswer) (f : Finding) : Decidable (ReturnsRevoked answer f) :=
  match h : outcome? answer f with
  | some (.ok issues) =>
    decidable_of_iff (∃ issue ∈ issues, SaysRevoked issue) (by simp only [ReturnsRevoked, h]; simp)
  | some (.error _) => isFalse (by simp [ReturnsRevoked, h])
  | none => isFalse (by simp [ReturnsRevoked, h])

instance (answer : Option RevocationAnswer) (f : Finding) : Decidable (FailsRevoked answer f) :=
  match h : outcome? answer f with
  | some (.error fault) => decidable_of_iff (SaysRevoked fault.report) (by simp only [FailsRevoked, h]; simp)
  | some (.ok _) => isFalse (by simp [FailsRevoked, h])
  | none => isFalse (by simp [FailsRevoked, h])

/-- The severity that a run is to give to one of its findings. -/
def statedSeverity (answer : Option RevocationAnswer) (now warn critical : Instant) (all : List Finding)
    (f : Finding) : Severity :=
  if ReturnsRevoked answer f then .critical
  else if f.baseSeverity now warn critical ≠ .info ∧ RenewsByItself all f then .info
  else f.baseSeverity now warn critical

/-- The words that a run puts in front of a failure neither bear the mark nor complete one. -/
theorem saysRevoked_append_report_iff (fault : Fault) :
    SaysRevoked ("OCSP_UNREACHABLE: revocation check failed: " ++ fault.report) ↔ SaysRevoked fault.report :=
  have hwords : Leads "OCSP_UNREACHABLE: revocation check failed: " := by decide +kernel
  hwords.saysRevoked_append_iff fault.report

theorem exists_issuesOf_iff {outcome : Except Fault (List String)} :
    (∃ issue ∈ issuesOf outcome, SaysRevoked issue) ↔
      (∃ issues, outcome = .ok issues ∧ ∃ issue ∈ issues, SaysRevoked issue) ∨
      ∃ fault : Fault, outcome = .error fault ∧ SaysRevoked fault.report := by
  cases outcome with
  | ok issues => simp [issuesOf]
  | error fault => simp [issuesOf, saysRevoked_append_report_iff]

theorem severity_withIssues (f : Finding) (issues : List String) :
    (withIssues f issues).severity = if ∃ issue ∈ issues, SaysRevoked issue then .critical else f.severity := by
  cases issues with
  | nil => simp [withIssues]
  | cons issue issues => simp only [withIssues, List.isEmpty_cons, Bool.false_eq_true, if_false, severity_withRevocation]

/-- An outcome that leaves an issue with the mark. -/
def LeavesRevoked (outcome : Option (Except Fault (List String))) : Prop :=
  ∃ o, outcome = some o ∧ ∃ issue ∈ issuesOf o, SaysRevoked issue

instance : DecidablePred LeavesRevoked := fun outcome =>
  match outcome with
  | none => isFalse (by simp [LeavesRevoked])
  | some o => decidable_of_iff (∃ issue ∈ issuesOf o, SaysRevoked issue) (by simp [LeavesRevoked])

/-- Its check makes a finding critical, or leaves its severity alone. -/
theorem severity_withOutcome (f : Finding) (outcome : Option (Except Fault (List String))) :
    (withOutcome f outcome).severity = if LeavesRevoked outcome then .critical else f.severity := by
  cases outcome with
  | none => simp [withOutcome, LeavesRevoked]
  | some o => simp [withOutcome, LeavesRevoked, severity_withIssues]

theorem leavesRevoked_outcome?_iff {answer : Option RevocationAnswer} {f : Finding} :
    LeavesRevoked (outcome? answer f) ↔ ReturnsRevoked answer f ∨ FailsRevoked answer f := by
  simp only [LeavesRevoked, ReturnsRevoked, FailsRevoked]
  cases outcome? answer f with
  | none => simp
  | some o => simp only [Option.some.injEq, exists_eq_left', exists_issuesOf_iff]

theorem severity_checkedBy (answer : Option RevocationAnswer) (f : Finding) :
    (checkedBy answer f).severity =
      if ReturnsRevoked answer f ∨ FailsRevoked answer f then .critical else f.severity := by
  have houtcome : checkedBy answer f = withOutcome f (outcome? answer f) := by
    unfold checkedBy withOutcome
    split <;> rfl
  simp only [houtcome, severity_withOutcome, leavesRevoked_outcome?_iff]

theorem severity_emitted (cluster : String) (f : Finding) : (emitted cluster f).severity = f.severity := by
  simp only [emitted, inCluster, withRemedy]
  split <;> split <;> rfl

/-- Judging a finding, alone and in the light of its run, changes nothing that its check reads. -/
theorem outcome?_judged (answer : Option RevocationAnswer) (c : Cutoffs) (all : List Finding) (f : Finding) :
    outcome? answer (renewed all (f.classified c)) = outcome? answer f := by
  have hread := Finding.checkTrace_renewed_classified c all f
  simp only [Finding.checkTrace, Prod.mk.injEq] at hread
  simp only [outcome?, hread]

/-- The severity that a run gives to one of its findings. -/
def runSeverity (answer : Option RevocationAnswer) (now warn critical : Instant) (all : List Finding)
    (f : Finding) : Severity :=
  if FailsRevoked answer f then .critical else statedSeverity answer now warn critical all f

theorem severity_emittedAmong (answer : Option RevocationAnswer) (cluster : String)
    (now warn critical : Instant) (all : List Finding) (f : Finding) :
    (emittedAmong answer cluster ⟨now, warn, critical⟩ all f).severity =
      runSeverity answer now warn critical all f := by
  have hchecks : ∀ g : Finding, outcome? answer g = outcome? answer f →
      (ReturnsRevoked answer g ∨ FailsRevoked answer g ↔ ReturnsRevoked answer f ∨ FailsRevoked answer f) := by
    intro g hg
    simp only [ReturnsRevoked, FailsRevoked, hg]
  rw [emittedAmong, severity_emitted, severity_checkedBy, severity_renewed, severity_classified]
  simp only [hchecks _ (outcome?_judged _ _ _ _), renewsByItself_classified, runSeverity, statedSeverity]
  by_cases hfails : FailsRevoked answer f
  · simp only [hfails, or_true, if_true]
  · simp only [hfails, or_false, if_false]

/-- A run whose check answers by what findings carry comes to a snapshot, and each severity in it follows from the
findings of the sources. -/
theorem severity_snapshot {r : Run σ} {answer : Option RevocationAnswer} {now warn critical : Instant}
    (hcheck : r.revocation = answer.map answering) (hwarn : now.add? r.warnBefore = some warn)
    (hcritical : now.add? r.critBefore = some critical) (sources : List Source) (s : σ) :
    ∃ snap, (r.snapshot now sources).run s = (.ok snap, s) ∧ snap.time = now ∧
      snap.findings.map Finding.severity = (sources.flatMap Source.found).map
        (runSeverity answer now warn critical (sources.flatMap Source.found)) := by
  refine ⟨_, snapshot_answering hcheck (Cutoffs.at?_eq_some hwarn hcritical) sources s, rfl, ?_⟩
  simp only [List.map_map]
  apply List.map_congr_left
  intro f _
  exact severity_emittedAmong answer r.cluster now warn critical _ f

/-- Every emitted severity is the stated one, except for a finding whose check fails with the mark of a revoked
certificate in the text of its failure: it is critical. The two agree just where the stated one is critical too. -/
theorem severity_snapshot_iff {r : Run σ} {answer : Option RevocationAnswer} {now warn critical : Instant}
    (hcheck : r.revocation = answer.map answering) (hwarn : now.add? r.warnBefore = some warn)
    (hcritical : now.add? r.critBefore = some critical) (sources : List Source) (s : σ) :
    ∃ snap, (r.snapshot now sources).run s = (.ok snap, s) ∧ snap.time = now ∧
      snap.findings.map Finding.severity = (sources.flatMap Source.found).map (fun f =>
        if FailsRevoked answer f then .critical
        else statedSeverity answer now warn critical (sources.flatMap Source.found) f) ∧
      (snap.findings.map Finding.severity = (sources.flatMap Source.found).map
          (statedSeverity answer now warn critical (sources.flatMap Source.found)) ↔
        ∀ f ∈ sources.flatMap Source.found, FailsRevoked answer f →
          statedSeverity answer now warn critical (sources.flatMap Source.found) f = .critical) := by
  obtain ⟨snap, hrun, htime, hseverity⟩ := severity_snapshot hcheck hwarn hcritical sources s
  refine ⟨snap, hrun, htime, hseverity, ?_⟩
  rw [hseverity, List.map_inj_left]
  constructor
  · intro h f hf hfails
    rw [← h f hf, runSeverity, if_pos hfails]
  · intro h f hf
    by_cases hfails : FailsRevoked answer f
    · rw [runSeverity, if_pos hfails, h f hf hfails]
    · rw [runSeverity, if_neg hfails]

def sampleAnswer : RevocationAnswer := fun certificate _ _ =>
  if certificate.map Certificate.identity = some "old" then .ok ["CERT_REVOKED: OCSP staple: certificate revoked"]
  else .error (.outside (.saying .runtime "no answer to the CERT_REVOKED query"))

def sampleRun : Run Unit := ⟨⟨3⟩, ⟨1⟩, "", some (answering sampleAnswer), none⟩

/-- An endpoint whose certificate expires soon, one with a revoked certificate, and the entry of a managed
certificate that expires soon. -/
def sampleSources : List Source :=
  [⟨.ok "externals", "Externals", .ok [sampleFinding externalSource "soon" (sampleTime 7),
      sampleFinding externalSource "old" (sampleTime 9)]⟩,
    ⟨.ok "managed", "Managed", .ok [{ sampleFinding certManagerSource "kept" (sampleTime 7) with certificate := none }]⟩]

theorem severity_snapshot_sample :
    sampleRun.revocation = (some sampleAnswer).map answering ∧
    Instant.add? (sampleTime 5) sampleRun.warnBefore = some (sampleTime 8) ∧
    Instant.add? (sampleTime 5) sampleRun.critBefore = some (sampleTime 6) ∧
    ∃ snap, (sampleRun.snapshot (sampleTime 5) sampleSources).run () = (.ok snap, ()) ∧
      snap.findings.map Finding.severity = [.critical, .critical, .info] :=
  have hcheck : sampleRun.revocation = (some sampleAnswer).map answering := rfl
  have hwarn : Instant.add? (sampleTime 5) sampleRun.warnBefore = some (sampleTime 8) := by decide
  have hcritical : Instant.add? (sampleTime 5) sampleRun.critBefore = some (sampleTime 6) := by decide
  have ⟨snap, hrun, _, hseverity, _⟩ := severity_snapshot_iff hcheck hwarn hcritical sampleSources ()
  ⟨hcheck, hwarn, hcritical, snap, hrun, hseverity.trans (by decide)⟩

/-- The text of a failed check may raise a severity that no issue of a check raises. -/
theorem exists_severity_ne_stated :
    ¬ ∀ (r : Run Unit) (answer : Option RevocationAnswer) (now warn critical : Instant),
      r.revocation = answer.map answering → now.add? r.warnBefore = some warn →
      now.add? r.critBefore = some critical → ∀ (sources : List Source) (s : Unit),
      ∃ snap, (r.snapshot now sources).run s = (.ok snap, s) ∧
        snap.findings.map Finding.severity = (sources.flatMap Source.found).map
          (statedSeverity answer now warn critical (sources.flatMap Source.found)) := by
  intro h
  have hcheck : sampleRun.revocation = (some sampleAnswer).map answering := rfl
  have hwarn : Instant.add? (sampleTime 5) sampleRun.warnBefore = some (sampleTime 8) := by decide
  have hcritical : Instant.add? (sampleTime 5) sampleRun.critBefore = some (sampleTime 6) := by decide
  obtain ⟨snap, hrun, hstated⟩ := h sampleRun _ _ _ _ hcheck hwarn hcritical sampleSources ()
  obtain ⟨snap', hrun', _, hseverity⟩ := severity_snapshot hcheck hwarn hcritical sampleSources ()
  obtain rfl : snap = snap' := Except.ok.inj (congrArg Prod.fst (hrun.symm.trans hrun'))
  rw [hseverity] at hstated
  exact absurd hstated (by decide)

end Run

end CertInventory
