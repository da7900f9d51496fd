import CertInventory.Proofs.Probe.Retry

/-!
Reports of probes. A probe ends in many ways, and each of them makes a result of its own; what is told of it is
coherent all the same: a probe that succeeded has a leaf, and one that failed has a reason. The one way to end without
a result is an unexpected failure of the handshake, as of a certificate that is refused by a failure that is none of a
value (`coherent_report_run_or_unexpected`).
-/

namespace CertInventory

/-- A report whose parts belong together. That of a probe that succeeded shows a chain and its first certificate, and
that of one that failed shows nothing of a peer and says why. -/
inductive ProbeReport.Coherent : ProbeReport → Prop where
  | succeeded (leaf : Certificate) (behind : List Certificate) (version cipher : String) (staple : OcspBody)
      (retries : Int) : Coherent ⟨true, "", retries, some leaf, ⟨leaf :: behind, version, cipher, staple⟩⟩
  | failed {error : String} (retries : Int) :
      error ≠ "" → Coherent ⟨false, error, retries, none, ⟨[], "", "", .empty⟩⟩

namespace ProbeResult

theorem coherent_report_error (f : ProbeFailure) (retries : Nat) : (report ⟨.error f, retries⟩).Coherent :=
  .failed retries f.message_ne_empty

theorem coherent_report_ok {p : Presented} (h : p.chain ≠ []) (retries : Nat) :
    (report ⟨.ok p, retries⟩).Coherent := by
  obtain ⟨chain, version, cipher, staple⟩ := p
  obtain ⟨leaf, behind, rfl⟩ := List.exists_cons_of_ne_nil h
  exact .succeeded leaf behind version cipher staple retries

end ProbeResult

/-- Every handshake on the network is completed, or it ends with a failure that a handshake is expected to have. -/
def Network.EndsHandshakes {σ : Type} (net : Network σ) : Prop :=
  ∀ address s f, (net.dial address s).1 = .ok (.error f) → f.kind.endsHandshake = true

namespace Probe

variable {σ : Type} {net : Network σ}

/-- Every outcome of a handshake that is told makes a coherent result, with the attempts so far as its retries. -/
theorem Ends.coherent {k : Nat} {outcome : Except Failure Handshake} {r : ProbeResult} (h : Ends k outcome (.ok r)) :
    r.report.Coherent ∧ r.retries = k := by
  cases h with
  | broken | bare | unreadable => exact ⟨ProbeResult.coherent_report_error _ k, rfl⟩
  | presented hchain => exact ⟨ProbeResult.coherent_report_ok hchain k, rfl⟩

/-- The first connection for a target, after two failing dials at most, has a handshake that fails in a way that is not
expected. -/
def MeetsUnexpected (net : Network σ) (target : String) (s : σ) (f : Failure) : Prop :=
  ∃ address name k outcome, IsEndpoint target address name ∧ k ≤ 2 ∧ net.Connects address s k outcome ∧
    Unexpected outcome f

theorem coherent_of_run {target : String} {s : σ} {r : ProbeResult} (h : (run net target s).result = .ok r) :
    r.report.Coherent ∧ r.retries ≤ maxRetries := by
  obtain ⟨f, k, hk, hresult, _⟩ | ⟨address, name, k, outcome, _, hk, _, hresult⟩ := result_run_cases net target s
  · obtain rfl := Except.ok.inj (hresult.symm.trans h)
    exact ⟨ProbeResult.coherent_report_error f k, hk⟩
  · have hends := ends_finish k outcome
    rw [← hresult, h] at hends
    obtain ⟨hcoherent, hretries⟩ := hends.coherent
    exact ⟨hcoherent, hretries ▸ hk⟩

theorem run_eq_error_iff {target : String} {s : σ} {f : Failure} :
    (run net target s).result = .error f ↔ MeetsUnexpected net target s f := by
  obtain ⟨g, k, _, hresult, hnone⟩ | ⟨address, name, k, outcome, htarget, hk, hconnects, hresult⟩ :=
    result_run_cases net target s
  · rw [hresult]
    refine iff_of_false nofun ?_
    rintro ⟨address, name, k, outcome, htarget, hk, hconnects, _⟩
    exact hnone address name k outcome htarget hk hconnects
  · rw [hresult, finish_eq_error_iff]
    constructor
    · exact fun hunexpected => ⟨address, name, k, outcome, htarget, hk, hconnects, hunexpected⟩
    · rintro ⟨address', name', k', outcome', htarget', _, hconnects', hunexpected⟩
      cases (endpoint_eq_ok_iff.mpr htarget).symm.trans (endpoint_eq_ok_iff.mpr htarget')
      obtain ⟨rfl, rfl⟩ := hconnects.unique hconnects'
      exact hunexpected

/-- A probe gives a result whose report is coherent, and for which at most two dials were repeated, unless its first
handshake fails in a way that is not expected; then it breaks off with that failure, and with no other. -/
theorem coherent_report_run_or_unexpected (net : Network σ) (target : String) (s : σ) :
    ((∃ r, (run net target s).result = .ok r ∧ 0 ≤ r.report.retries ∧ r.report.retries ≤ maxRetries ∧
        r.report.Coherent) ↔
      ∀ f, ¬ MeetsUnexpected net target s f) ∧
    ∀ f, (run net target s).result = .error f ↔ MeetsUnexpected net target s f := by
  refine ⟨?_, fun f => run_eq_error_iff⟩
  cases hresult : (run net target s).result with
  | error f => exact iff_of_false nofun fun hnot => hnot f (run_eq_error_iff.mp hresult)
  | ok r =>
    obtain ⟨hcoherent, hretries⟩ := coherent_of_run hresult
    refine iff_of_true ⟨r, rfl, Int.natCast_nonneg _, Int.ofNat_le.mpr hretries, hcoherent⟩ fun f hmeets => ?_
    cases hresult.symm.trans (run_eq_error_iff.mpr hmeets)

theorem coherent_report_run_sample :
    (∀ f, ¬ MeetsUnexpected (sampleShy (.ok samplePeer)) "tcp://edge:443?sni=web" 0 f) ∧
    ∃ r, (run (sampleShy (.ok samplePeer)) "tcp://edge:443?sni=web" 0).result = .ok r ∧ r.report.Coherent ∧
      r.report = ⟨true, "", 1, some sampleLeaf, ⟨[sampleLeaf], "TLS 1.3", "", .garbage⟩⟩ := by
  have hresult : (run (sampleShy (.ok samplePeer)) "tcp://edge:443?sni=web" 0).result =
      .ok ⟨.ok ⟨[sampleLeaf], "TLS 1.3", "", .garbage⟩, 1⟩ := rfl
  obtain ⟨hresult_iff, herror_iff⟩ :=
    coherent_report_run_or_unexpected (sampleShy (.ok samplePeer)) "tcp://edge:443?sni=web" 0
  have hexpected : ∀ f, ¬ MeetsUnexpected (sampleShy (.ok samplePeer)) "tcp://edge:443?sni=web" 0 f := by
    intro f hmeets
    cases hresult.symm.trans ((herror_iff f).mpr hmeets)
  obtain ⟨r, hr, _, _, hcoherent⟩ := hresult_iff.mpr hexpected
  obtain rfl := Except.ok.inj (hresult.symm.trans hr)
  exact ⟨hexpected, _, hr, hcoherent, rfl⟩

theorem endsHandshakes_sampleShy (h : Handshake) : (sampleShy (.ok h)).EndsHandshakes := by
  intro address dials f hf
  simp only [sampleShy] at hf
  split at hf <;> cases hf

/-- A network may end all its handshakes and still leave a probe without a result, by a certificate that is refused. -/
theorem exists_probe_without_report :
    ¬ ∀ (net : Network Nat) (target : String) (s : Nat), net.EndsHandshakes →
      ∃ r, (run net target s).result = .ok r ∧ r.report.retries ≤ maxRetries ∧ r.report.Coherent := by
  intro h
  obtain ⟨r, hresult, _⟩ :=
    h (sampleShy (.ok sampleOddPeer)) "tcp://edge:443?sni=web" 0 (endsHandshakes_sampleShy sampleOddPeer)
  have hbroken : (run (sampleShy (.ok sampleOddPeer)) "tcp://edge:443?sni=web" 0).result = .error sampleVersion := rfl
  cases hbroken.symm.trans hresult

end Probe

end CertInventory
