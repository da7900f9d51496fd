import CertInventory.Proofs.Run.Severity

/-!
Trouble with revocation stays with its finding. A run emits every finding of its sources in its place, and of all
checks only the one in that place has a say in it (`getElem?_emitted`). So two runs whose checks come to the same in
all places but one emit the same there, and in the one place findings that differ in what a check decides
(`checks_stay_in_place`).
-/

namespace CertInventory

open Time Finding

/-- A finding without what its check decides: its issues, its severity, and what to do about them. -/
def Finding.withoutVerdict (f : Finding) : Finding :=
  { f with revocationIssues := [], severity := .info, remediation := "" }

namespace Run

variable {σ : Type}

theorem withoutVerdict_withOutcome (f : Finding) (outcome : Option (Except Fault (List String))) :
    (withOutcome f outcome).withoutVerdict = f.withoutVerdict := by
  cases outcome with
  | none => rfl
  | some o =>
    simp only [withOutcome, withIssues, withRevocation]
    split
    · rfl
    · split <;> rfl

theorem withoutVerdict_emitted (cluster : String) (f : Finding) :
    (emitted cluster f).withoutVerdict = inCluster cluster f.withoutVerdict.withoutTransients := by
  have hremedy (g : Finding) : g.withRemedy.withoutVerdict = g.withoutVerdict := by
    unfold withRemedy
    split <;> rfl
  have hcluster (g : Finding) :
      inCluster cluster g = { g with cluster := if g.cluster.isEmpty then cluster else g.cluster } := by
    unfold inCluster
    split <;> rfl
  rw [emitted, hremedy, hcluster, hcluster]
  rfl

end Run

/-- Two snapshots that differ in one place at most, and there in what a check decides. -/
structure Snapshot.DiffersOnlyAt (place : Nat) (a b : Snapshot) : Prop where
  time : b.time = a.time
  errors : b.errors = a.errors
  length : b.findings.length = a.findings.length
  elsewhere : ∀ i, i ≠ place → b.findings[i]? = a.findings[i]?
  there : ∀ f g, a.findings[place]? = some f → b.findings[place]? = some g → g.withoutVerdict = f.withoutVerdict

namespace Run

variable {σ : Type}

/-- A check that fails makes a finding critical by the text of its failure alone. -/
theorem severity_withOutcome_error (f : Finding) (fault : Fault) :
    (withOutcome f (some (.error fault))).severity = if SaysRevoked fault.report then .critical else f.severity := by
  simp only [severity_withOutcome, LeavesRevoked, Option.some.injEq, exists_eq_left', exists_issuesOf_iff, reduceCtorEq,
    false_and, exists_false, false_or, Except.error.injEq]

/-- Two runs over the same sources by the same clock and the same periods, whose checks come to the same for all
findings but one, come to snapshots that differ in the place of that finding at most, and there in nothing but what
the check decides. Where the check fails in one of them and finds nothing in the other, the failure makes the finding
critical if its text bears the mark of a revoked certificate, and leaves its severity alone otherwise. -/
theorem checks_stay_in_place (r : Run σ) (check : Option (RevocationCheck σ)) (now : Instant) (sources : List Source)
    (s s' : σ) (place : Nat)
    (hothers : ∀ i, i ≠ place → outcomeAt? check (sources.flatMap Source.found) i s' =
      outcomeAt? r.revocation (sources.flatMap Source.found) i s) :
    let found := sources.flatMap Source.found
    let first := (r.snapshot now sources).run s
    let second := ({ r with revocation := check }.snapshot now sources).run s'
    (Cutoffs.at? now r.warnBefore r.critBefore = none →
      first = (.error .outOfRange, s) ∧ second = (.error .outOfRange, s')) ∧
    (Cutoffs.at? now r.warnBefore r.critBefore ≠ none → ∃ a t b t', first = (.ok a, t) ∧ second = (.ok b, t') ∧
      a.DiffersOnlyAt place b ∧
      ∀ f g fault, a.findings[place]? = some f → b.findings[place]? = some g →
        outcomeAt? r.revocation found place s = some (.ok []) → outcomeAt? check found place s' = some (.error fault) →
        g.severity = if SaysRevoked fault.report then .critical else f.severity) := by
  intro found first second
  constructor
  · intro hc
    have hsecond := snapshot_run_of_no_cutoffs (r := { r with revocation := check }) hc sources s'
    exact ⟨snapshot_run_of_no_cutoffs hc sources s, hsecond⟩
  · intro hc
    obtain ⟨c, hc⟩ := Option.ne_none_iff_exists'.mp hc
    have hfirst := getElem?_emitted r c found s
    have hsecond := getElem?_emitted { r with revocation := check } c found s'
    -- In the one place both runs check the same finding, judged by the same cutoffs.
    have hthere {f g : Finding}
        (hf : (((checkAll r.revocation (judged c found)).run s).1.map (emitted r.cluster))[place]? = some f)
        (hg : (((checkAll check (judged c found)).run s').1.map (emitted r.cluster))[place]? = some g) :
        ∃ j, emitted r.cluster (withOutcome j (outcomeAt? r.revocation found place s)) = f ∧
          emitted r.cluster (withOutcome j (outcomeAt? check found place s')) = g := by
      obtain ⟨j, hj, hf⟩ := Option.map_eq_some_iff.mp ((hfirst place).symm.trans hf)
      obtain ⟨j', hj', hg⟩ := Option.map_eq_some_iff.mp ((hsecond place).symm.trans hg)
      obtain rfl := Option.some.inj (hj.symm.trans hj')
      exact ⟨_, hf, hg⟩
    refine ⟨_, _, _, _, snapshot_run hc sources s, snapshot_run (r := { r with revocation := check }) hc sources s',
      ⟨rfl, rfl, ?_, ?_, ?_⟩, ?_⟩
    · simp only [List.length_map, length_checkAll]
    · intro i hi
      refine (hsecond i).trans ?_
      rw [hothers i hi]
      exact (hfirst i).symm
    · intro f g hf hg
      obtain ⟨j, rfl, rfl⟩ := hthere hf hg
      simp only [withoutVerdict_emitted, withoutVerdict_withOutcome]
    · intro f g fault hf hg hnothing hfails
      obtain ⟨j, rfl, rfl⟩ := hthere hf hg
      rw [hfails, hnothing, severity_emitted, severity_emitted, severity_withOutcome_error]
      rfl

/-- A check that is answered from a script, whatever it is asked. -/
def scripted : RevocationCheck (List (Except Fault (List String))) := fun _ _ _ script =>
  match script with
  | [] => (.ok [], [])
  | outcome :: script => (outcome, script)

def sampleScripted : Run (List (Except Fault (List String))) := ⟨⟨3⟩, ⟨1⟩, "", some scripted, none⟩

def sampleScript (first : Except Fault (List String)) : List (Except Fault (List String)) :=
  [first, .ok ["CERT_REVOKED: OCSP staple: certificate revoked"]]

def sampleTimeout : Fault := .outside (.saying .timeout "")

/-- A responder that times out for the first finding leaves its severity alone, and the verdict about the second. -/
theorem checks_stay_in_place_sample :
    (∀ i, i ≠ 0 →
      outcomeAt? (some scripted) (sampleSources.flatMap Source.found) i (sampleScript (.error sampleTimeout)) =
        outcomeAt? (some scripted) (sampleSources.flatMap Source.found) i (sampleScript (.ok []))) ∧
    ∃ a t b t', (sampleScripted.snapshot (sampleTime 5) sampleSources).run (sampleScript (.ok [])) = (.ok a, t) ∧
      (sampleScripted.snapshot (sampleTime 5) sampleSources).run (sampleScript (.error sampleTimeout)) = (.ok b, t') ∧
      a.findings.map Finding.severity = [.warn, .critical, .info] ∧ a.DiffersOnlyAt 0 b ∧
      ∀ f g, a.findings[0]? = some f → b.findings[0]? = some g → g.severity = f.severity := by
  have hothers : ∀ i, i ≠ 0 →
      outcomeAt? (some scripted) (sampleSources.flatMap Source.found) i (sampleScript (.error sampleTimeout)) =
        outcomeAt? (some scripted) (sampleSources.flatMap Source.found) i (sampleScript (.ok [])) := by
    intro i hi
    match i with
    | 0 => exact absurd rfl hi
    | 1 => rfl
    | 2 => rfl
    | i + 3 => rfl
  have hc : Cutoffs.at? (sampleTime 5) sampleScripted.warnBefore sampleScripted.critBefore = some (sampleCutoffs 5) :=
    at?_sampleCutoffs 5 (by decide)
  have hrun := snapshot_run hc sampleSources (sampleScript (.ok []))
  obtain ⟨a, t, b, t', ha, hb, hdiffers, hseverity⟩ :=
    (checks_stay_in_place sampleScripted (some scripted) (sampleTime 5) sampleSources (sampleScript (.ok []))
      (sampleScript (.error sampleTimeout)) 0 hothers).2 (hc.trans_ne (by decide))
  refine ⟨hothers, a, t, b, t', ha, hb, ?_, hdiffers, ?_⟩
  · cases hrun.symm.trans ha
    decide
  · intro f g hf hg
    rw [hseverity f g sampleTimeout hf hg rfl rfl, if_neg (by decide)]

end Run

end CertInventory
