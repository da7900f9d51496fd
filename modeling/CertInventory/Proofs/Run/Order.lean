import CertInventory.Proofs.Finding.Order
import CertInventory.Proofs.Run.Errors
import CertInventory.Proofs.Run.Severity

/-!
Two runs over the same sources that are done in different orders. Errors come out the same. Findings do exactly where
every urgent finding has the same managed key in both runs (`snapshots_inOrder_perm_iff`), and so at least where one
serial number stands for one managed certificate. Two sources that report certificates of one serial number are
enough to make the outcome a matter of timing (`exists_orders_not_perm`).
-/

namespace CertInventory

open Time Finding

namespace Run

variable {σ : Type}

theorem keyTrace_checkedBy (answer : Option RevocationAnswer) (f : Finding) :
    (checkedBy answer f).keyTrace = f.keyTrace := by
  unfold checkedBy withIssues withRevocation
  repeat' split
  all_goals rfl

theorem keyTrace_emitted (cluster : String) (f : Finding) : (emitted cluster f).keyTrace = f.keyTrace := by
  unfold emitted inCluster withRemedy
  split <;> split <;> rfl

theorem keyTrace_emittedAmong (answer : Option RevocationAnswer) (cluster : String) (c : Cutoffs)
    (all : List Finding) (f : Finding) : (emittedAmong answer cluster c all f).keyTrace =
      (renewed (all.map (classified c)) (f.classified c)).keyTrace := by
  rw [emittedAmong, keyTrace_emitted, keyTrace_checkedBy]

/-- Findings in two orders are emitted alike exactly where the order decides no managed key of an urgent one. -/
theorem map_emittedAmong_perm_iff (answer : Option RevocationAnswer) (cluster : String) (c : Cutoffs)
    {all all' : List Finding} (h : all.Perm all') :
    (all.map (emittedAmong answer cluster c all)).Perm (all'.map (emittedAmong answer cluster c all')) ↔
      ∀ f ∈ all, f.urgency c ≠ .info → f.keyAmong? all = f.keyAmong? all' := by
  have hclassified := h.map (classified c)
  rw [← List.Perm.congr_right (h.map (emittedAmong answer cluster c all'))]
  constructor
  · intro halike f hf hurgent
    have htraces := halike.map keyTrace
    simp only [List.map_map, Function.comp_def, keyTrace_emittedAmong] at htraces
    have hkey := keyAmong?_eq_of_perm_map hclassified (f := f.classified c)
      (by simpa only [List.map_map, Function.comp_def] using htraces) (List.mem_map_of_mem hf) hurgent
    simpa only [keyAmong?_classified] using hkey
  · intro hkeys
    refine List.Perm.of_eq (List.map_congr_left fun f hf => ?_)
    have hrenewed : renewed (all.map (classified c)) (f.classified c) =
        renewed (all'.map (classified c)) (f.classified c) := by
      by_cases hurgent : f.urgency c = .info
      · rw [renewed_of_info hurgent, renewed_of_info hurgent]
      · refine renewed_congr ?_ fun key => mem_pendingKeys_of_perm hclassified
        rw [keyAmong?_classified, keyAmong?_classified, hkeys f hf hurgent]
    rw [emittedAmong, hrenewed, emittedAmong]

/-- Sources of different names that are done in another order leave the same errors. -/
theorem errors_inOrder_perm (timer : Option Timer) {sources : List Source}
    (hnames : (sources.map Source.displayName).Nodup) {order order' : List Nat}
    (horder : order.Perm (List.range sources.length)) (horder' : order'.Perm (List.range sources.length)) :
    (SourceReport.errors ((inOrder order sources).map (Source.report timer))).Perm
      (SourceReport.errors ((inOrder order' sources).map (Source.report timer))) := by
  have heq : ∀ {o : List Nat}, o.Perm (List.range sources.length) →
      SourceReport.errors ((inOrder o sources).map (Source.report timer)) =
        (inOrder o sources).filterMap Source.failure? := by
    intro o ho
    have hdone : ((inOrder o sources).map Source.displayName).Nodup :=
      ((inOrder_perm ho).map Source.displayName).nodup_iff.mpr hnames
    rw [← SourceReport.filterMap_error?_report timer]
    apply SourceReport.errors_eq_filterMap
    rw [SourceReport.filterMap_error?_report]
    exact hdone.sublist (Source.names_failures_sublist _)
  rw [heq horder, heq horder']
  exact ((inOrder_perm horder).trans (inOrder_perm horder').symm).filterMap _

/-- Two runs over sources that are done in different orders have the same errors. Their findings are the same up to
order exactly where every urgent finding has the same managed key in both, and so at least where one serial number
stands for one managed certificate. -/
theorem snapshots_inOrder_perm_iff {r : Run σ} {answer : Option RevocationAnswer} {now warn critical : Instant}
    (hcheck : r.revocation = answer.map answering) (hwarn : now.add? r.warnBefore = some warn)
    (hcritical : now.add? r.critBefore = some critical) {sources : List Source}
    (hnames : (sources.map Source.displayName).Nodup) {order order' : List Nat}
    (horder : order.Perm (List.range sources.length)) (horder' : order'.Perm (List.range sources.length)) (s : σ) :
    ∃ snap snap', (r.snapshot now (inOrder order sources)).run s = (.ok snap, s) ∧
      (r.snapshot now (inOrder order' sources)).run s = (.ok snap', s) ∧ snap.time = snap'.time ∧
      snap.errors.Perm snap'.errors ∧ (snap.errors.map Prod.fst).Nodup ∧
      (snap.findings.Perm snap'.findings ↔
        ∀ f ∈ sources.flatMap Source.found, f.baseSeverity now warn critical ≠ .info → ∀ key,
          HasManagedKey ((inOrder order sources).flatMap Source.found) f key ↔
            HasManagedKey ((inOrder order' sources).flatMap Source.found) f key) ∧
      ((∀ g ∈ sources.flatMap Source.found, ∀ g' ∈ sources.flatMap Source.found, g.IsManaged → g'.IsManaged →
          g.serial ≠ "" → g.serial = g'.serial → g.managedKey = g'.managedKey) → snap.findings.Perm snap'.findings) := by
  have hc := Cutoffs.at?_eq_some hwarn hcritical
  have hall : ((inOrder order sources).flatMap Source.found).Perm (sources.flatMap Source.found) :=
    (inOrder_perm horder).flatMap_right _
  have hall' : ((inOrder order sources).flatMap Source.found).Perm ((inOrder order' sources).flatMap Source.found) :=
    hall.trans ((inOrder_perm horder').flatMap_right _).symm
  have hiff := map_emittedAmong_perm_iff answer r.cluster ⟨now, warn, critical⟩ hall'
  refine ⟨_, _, snapshot_answering hcheck hc _ s, snapshot_answering hcheck hc _ s, rfl,
    errors_inOrder_perm r.timer hnames horder horder', SourceReport.nodup_names_errors _, ?_, ?_⟩
  · simp only [hiff, hall.mem_iff, urgency_eq_baseSeverity, ← keyAmong?_eq_some_iff, ← Option.ext_iff]
  · intro hone
    refine hiff.mpr fun f _ _ => keyAmong?_eq_of_perm hall' ?_
    simpa only [hall.mem_iff] using hone

/-- Two managers that each report a managed certificate with the serial number of an endpoint that expires soon. The
renewal of the first is pending. -/
def sampleRivals : List Source :=
  [⟨.ok "first", "Managers", .ok [{ sampleFinding certManagerSource "a" (sampleTime 9) with serial := "7" },
      { Finding.ofSource renewalSource with name := "a", findingType := requestPending }]⟩,
    ⟨.ok "second", "Managers", .ok [{ sampleFinding certManagerSource "b" (sampleTime 9) with serial := "7" }]⟩,
    ⟨.ok "externals", "Externals", .ok [{ sampleFinding externalSource "soon" (sampleTime 7) with serial := "7" }]⟩]

def sampleWatch : Run Unit := ⟨⟨3⟩, ⟨1⟩, "", none, none⟩

/-- While the rivals keep their order, it does not matter when the endpoint is looked at. -/
theorem snapshots_inOrder_perm_sample :
    sampleWatch.revocation = (none : Option RevocationAnswer).map answering ∧
    Instant.add? (sampleTime 5) sampleWatch.warnBefore = some (sampleTime 8) ∧
    Instant.add? (sampleTime 5) sampleWatch.critBefore = some (sampleTime 6) ∧
    (sampleRivals.map Source.displayName).Nodup ∧
    [0, 1, 2].Perm (List.range sampleRivals.length) ∧ [2, 0, 1].Perm (List.range sampleRivals.length) ∧
    ∃ snap snap', (sampleWatch.snapshot (sampleTime 5) (inOrder [0, 1, 2] sampleRivals)).run () = (.ok snap, ()) ∧
      (sampleWatch.snapshot (sampleTime 5) (inOrder [2, 0, 1] sampleRivals)).run () = (.ok snap', ()) ∧
      snap.findings.Perm snap'.findings := by
  have hcheck : sampleWatch.revocation = (none : Option RevocationAnswer).map answering := rfl
  have hwarn : Instant.add? (sampleTime 5) sampleWatch.warnBefore = some (sampleTime 8) := by decide
  have hcritical : Instant.add? (sampleTime 5) sampleWatch.critBefore = some (sampleTime 6) := by decide
  have hnames : (sampleRivals.map Source.displayName).Nodup := by decide
  have horder : [0, 1, 2].Perm (List.range sampleRivals.length) := by decide
  have horder' : [2, 0, 1].Perm (List.range sampleRivals.length) := by decide
  have hkeys : ∀ f ∈ sampleRivals.flatMap Source.found,
      f.keyAmong? ((inOrder [0, 1, 2] sampleRivals).flatMap Source.found) =
        f.keyAmong? ((inOrder [2, 0, 1] sampleRivals).flatMap Source.found) := by decide
  obtain ⟨snap, snap', hrun, hrun', _, _, _, hiff, _⟩ :=
    snapshots_inOrder_perm_iff hcheck hwarn hcritical hnames horder horder' ()
  refine ⟨hcheck, hwarn, hcritical, hnames, horder, horder', snap, snap', hrun, hrun', hiff.mpr ?_⟩
  intro f hf _ key
  rw [← keyAmong?_eq_some_iff, ← keyAmong?_eq_some_iff, hkeys f hf]

/-- Which of two rivals is done first may decide what becomes of an endpoint. -/
theorem exists_orders_not_perm :
    ¬ ∀ (r : Run Unit) (answer : Option RevocationAnswer) (now warn critical : Instant) (sources : List Source)
        (order order' : List Nat), r.revocation = answer.map answering → now.add? r.warnBefore = some warn →
      now.add? r.critBefore = some critical → (sources.map Source.displayName).Nodup →
      order.Perm (List.range sources.length) → order'.Perm (List.range sources.length) →
      ∃ snap snap', (r.snapshot now (inOrder order sources)).run () = (.ok snap, ()) ∧
        (r.snapshot now (inOrder order' sources)).run () = (.ok snap', ()) ∧ snap.findings.Perm snap'.findings := by
  intro h
  have hwarn : Instant.add? (sampleTime 5) sampleWatch.warnBefore = some (sampleTime 8) := by decide
  have hcritical : Instant.add? (sampleTime 5) sampleWatch.critBefore = some (sampleTime 6) := by decide
  have hrun := @snapshot_answering Unit sampleWatch none (sampleTime 5) _ rfl (Cutoffs.at?_eq_some hwarn hcritical)
  obtain ⟨snap, snap', hsnap, hsnap', hperm⟩ := h sampleWatch none _ _ _ sampleRivals [0, 1, 2] [1, 0, 2] rfl hwarn
    hcritical (by decide) (by decide) (by decide)
  obtain rfl := Except.ok.inj (congrArg Prod.fst (hsnap.symm.trans (hrun _ ())))
  obtain rfl := Except.ok.inj (congrArg Prod.fst (hsnap'.symm.trans (hrun _ ())))
  have hseverities := hperm.map Finding.severity
  exact absurd hseverities (by decide)

end Run

end CertInventory
