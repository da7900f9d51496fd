import CertInventory.Config.Basic
import CertInventory.Proofs.Sample
import CertInventory.Proofs.Source.Description
import CertInventory.Source.Builtin

/-!
What the probing of targets gives. However a probe ends, and whatever a peer presents, as long as the kinds of the
keys are known, a target gets its finding. Only the name to verify is looked for before the probe: a target that is
written as a URL and does not split as one breaks the source off, and with it go the findings of all others
(`probeTargets_splits_or_breaks_off`).
-/

namespace CertInventory

namespace Finding

open Time

def probing (f : Finding) : String × Bool × String × Int := (f.target, f.probeOk, f.probeError, f.retryCount)

variable (f : Finding)

/-- Examining a chain changes nothing of what is said of the probe, and fails on nothing but a damaged encoding. -/
theorem examine_of_knownKeys {chain : List Certificate} (h : ∀ c ∈ chain, c.HasKnownKey) (hostname : String)
    (now : Instant) :
    ∃ g r, f.examine chain hostname (some now) = (g, r) ∧ g.undescribed = f.undescribed ∧
      ∀ e, r = .error e → ∃ d, e.encoding? = some d := by
  refine ⟨_, _, rfl, f.undescribed_examine chain hostname (some now), ?_⟩
  intro e he
  obtain ⟨d, rfl, hmeets⟩ := examine_eq_error_iff.mp he
  exact ⟨d, if_pos (hmeets.isEncoding h)⟩

theorem presenting_of_knownKeys {p : Presented} (h : ∀ c ∈ p.chain, c.HasKnownKey) (hostname : String)
    (now : Instant) : ∃ g, f.presenting p hostname (some now) = (g, .ok ()) ∧ g.undescribed = f.undescribed := by
  obtain ⟨g, r, hexamine, hsame, hfails⟩ :=
    { f with chainLength := p.chain.length }.examine_of_knownKeys h hostname now
  unfold presenting
  rw [hexamine]
  cases r with
  | ok ds =>
    have hsteps := ((kept_withHandshake _ p).trans (kept_withDefects _ ds)).trans (kept_carrying g p)
    exact ⟨_, rfl, (congrArg Prod.fst hsteps).trans hsame⟩
  | error e =>
    obtain ⟨d, hd⟩ := hfails e rfl
    simp only [hd]
    exact ⟨_, rfl, (congrArg Prod.fst (kept_withHandshake { g with chainErrors := [unreadable d] } p)).trans hsame⟩

end Finding

namespace Source

open Time

/-- A target that is written as a URL, with blanks around it or not, splits as one. -/
def Splits (target : String) : Prop :=
  "://".toList <:+: (Text.trimmed target).toList → ∃ u, Url.split (Text.trimmed target) = .ok u

theorem exists_serverName_of_splits {target : String} (h : Splits target) :
    ∃ name, Target.serverName target = .ok name := by
  unfold Target.serverName
  dsimp only
  split
  · obtain ⟨u, hu⟩ := h (Text.contains_iff_isInfix.mp ‹_›)
    rw [hu]
    dsimp only
    split <;> exact ⟨_, rfl⟩
  · exact ⟨_, rfl⟩

theorem exists_serverName_eq_error {target : String} (h : ¬ Splits target) :
    ∃ e, Url.split (Text.trimmed target) = .error e ∧ Target.serverName target = .error e := by
  obtain ⟨hwritten, hsplit⟩ := Classical.not_imp.mp h
  cases hurl : Url.split (Text.trimmed target) with
  | ok u => exact absurd ⟨u, hurl⟩ hsplit
  | error e =>
    refine ⟨e, rfl, ?_⟩
    unfold Target.serverName
    dsimp only
    rw [if_pos (Text.contains_iff_isInfix.mpr hwritten), hurl]

/-- Whatever its outcome, the report of a probe becomes the finding of its target. -/
theorem exists_describedFinding {r : ProbeReport} (h : ∀ c ∈ r.presented.chain, c.HasKnownKey)
    (url hostname : String) (now : Instant) :
    ∃ f, describedFinding url hostname r now = .ok f ∧ f.probing = (url, r.isOk, r.error, r.retries) := by
  unfold describedFinding
  dsimp only
  split
  · obtain ⟨g, hpresenting, hsame⟩ := (probedFinding url hostname r).presenting_of_knownKeys h hostname now
    rw [hpresenting]
    exact ⟨g, rfl, congrArg Finding.probing hsame⟩
  · exact ⟨_, rfl, rfl⟩

variable {σ : Type} {probe : String → σ → Probe.Finished ProbeReport σ}

/-- Every probe returns a report, and what it presents has keys of known kinds. -/
def Returns (probe : String → σ → Probe.Finished ProbeReport σ) : Prop :=
  ∀ url s, ∃ r, (probe url s).result = .ok r ∧ ∀ c ∈ r.presented.chain, c.HasKnownKey

/-- The reports of probes that are made one after the other. -/
inductive Probed (probe : String → σ → Probe.Finished ProbeReport σ) : List String → σ → List ProbeReport → Prop where
  | nil {s : σ} : Probed probe [] s []
  | cons {url : String} {urls : List String} {s : σ} {r : ProbeReport} {rs : List ProbeReport} :
      (probe url s).result = .ok r → Probed probe urls (probe url s).network rs →
      Probed probe (url :: urls) s (r :: rs)

theorem outcome_probeTargets_of_splits (h : Returns probe) {url : String} (hurl : Splits url) (now : Instant)
    (urls : List String) (s : σ) :
    ∃ r f, (probe url s).result = .ok r ∧ f.probing = (url, r.isOk, r.error, r.retries) ∧
      (probeTargets probe now (url :: urls) s).outcome =
        (probeTargets probe now urls (probe url s).network).outcome.map (f :: ·) := by
  obtain ⟨name, hname⟩ := exists_serverName_of_splits hurl
  obtain ⟨r, hr, hknown⟩ := h url s
  obtain ⟨f, hf, hprobing⟩ := exists_describedFinding hknown url name now
  refine ⟨r, f, hr, hprobing, ?_⟩
  simp only [probeTargets, hname, hr, hf]

theorem outcome_probeTargets_of_serverName_eq_error {url : String} {e : UrlError}
    (h : Target.serverName url = .error e) (now : Instant) (urls : List String) (s : σ) :
    (probeTargets probe now (url :: urls) s).outcome = .error (.target e) := by
  simp only [probeTargets, h]

/-- Each target that splits adds its finding in front of those of the others. -/
theorem exists_outcome_probeTargets (h : Returns probe) (now : Instant) {urls : List String}
    (hurls : ∀ url ∈ urls, Splits url) (s : σ) :
    ∃ reports fs, Probed probe urls s reports ∧ (probeTargets probe now urls s).outcome = .ok fs ∧
      fs.map Finding.target = urls ∧
      fs.map (fun f => (f.probeOk, f.probeError, f.retryCount)) =
        reports.map fun r => (r.isOk, r.error, r.retries) := by
  induction urls generalizing s with
  | nil => exact ⟨[], [], .nil, rfl, rfl, rfl⟩
  | cons url urls ih =>
    obtain ⟨hurl, hrest⟩ := List.forall_mem_cons.mp hurls
    obtain ⟨r, f, hr, hprobing, houtcome⟩ := outcome_probeTargets_of_splits h hurl now urls s
    obtain ⟨reports, fs, hreports, hfs, htargets, hsaid⟩ := ih hrest (probe url s).network
    simp only [Finding.probing, Prod.mk.injEq] at hprobing
    obtain ⟨htarget, hok, herror, hretries⟩ := hprobing
    refine ⟨r :: reports, f :: fs, .cons hr hreports, ?_, ?_, ?_⟩
    · rw [houtcome, hfs]
      rfl
    · rw [List.map_cons, htarget, htargets]
    · rw [List.map_cons, List.map_cons, hok, herror, hretries, hsaid]

theorem exists_outcome_probeTargets_eq_error (h : Returns probe) (now : Instant) {urls : List String}
    (hurls : ¬ ∀ url ∈ urls, Splits url) (s : σ) :
    ∃ before url behind e, urls = before ++ url :: behind ∧ (∀ u ∈ before, Splits u) ∧
      Url.split (Text.trimmed url) = .error e ∧ (probeTargets probe now urls s).outcome = .error (.target e) := by
  induction urls generalizing s with
  | nil => exact absurd nofun hurls
  | cons url urls ih =>
    by_cases hurl : Splits url
    · have hrest : ¬ ∀ u ∈ urls, Splits u := fun hall => hurls (List.forall_mem_cons.mpr ⟨hurl, hall⟩)
      obtain ⟨_, f, _, _, houtcome⟩ := outcome_probeTargets_of_splits h hurl now urls s
      obtain ⟨before, bad, behind, e, rfl, hbefore, hbad, hfails⟩ := ih hrest (probe url s).network
      refine ⟨url :: before, bad, behind, e, rfl, List.forall_mem_cons.mpr ⟨hurl, hbefore⟩, hbad, ?_⟩
      rw [houtcome, hfails]
      rfl
    · obtain ⟨e, hsplit, hname⟩ := exists_serverName_eq_error hurl
      exact ⟨[], url, urls, e, rfl, nofun, hsplit, outcome_probeTargets_of_serverName_eq_error hname now urls s⟩

/-- Where all targets split, each gets its finding, in order, with what the report of its probe says. Otherwise the
first one that does not split breaks the source off. -/
theorem probeTargets_splits_or_breaks_off (h : Returns probe) (now : Instant) (urls : List String) (s : σ) :
    ((∀ url ∈ urls, Splits url) →
      ∃ reports fs, Probed probe urls s reports ∧ (probeTargets probe now urls s).outcome = .ok fs ∧
        fs.map Finding.target = urls ∧
        fs.map (fun f => (f.probeOk, f.probeError, f.retryCount)) =
          reports.map fun r => (r.isOk, r.error, r.retries)) ∧
    ((¬ ∀ url ∈ urls, Splits url) →
      ∃ before url behind e, urls = before ++ url :: behind ∧ (∀ u ∈ before, Splits u) ∧
        Url.split (Text.trimmed url) = .error e ∧ (probeTargets probe now urls s).outcome = .error (.target e)) :=
  ⟨fun hurls => exists_outcome_probeTargets h now hurls s,
    fun hurls => exists_outcome_probeTargets_eq_error h now hurls s⟩

def sampleReport (url : String) : ProbeReport :=
  let leaf := sampleCertificate "edge" "root" false (sampleTime 0) (sampleTime 9)
  if url = "tcp://edge:443" then ⟨true, "", 1, some leaf, ⟨[leaf], "TLS 1.3", "", .empty⟩⟩
  else ⟨false, "refused", 2, none, ⟨[], "", "", .empty⟩⟩

def sampleProbe (url : String) (s : Unit) : Probe.Finished ProbeReport Unit := ⟨.ok (sampleReport url), .none, s⟩

theorem returns_sampleProbe : Returns sampleProbe := by
  refine fun url s => ⟨sampleReport url, rfl, ?_⟩
  unfold sampleReport
  dsimp only
  split
  · intro c hc
    obtain rfl := List.mem_singleton.mp hc
    exact ⟨.ok _, .ok _⟩
  · exact fun c hc => absurd hc List.not_mem_nil

theorem splits_edge : Splits "tcp://edge:443" := fun _ => ⟨⟨"tcp", "edge:443", ""⟩, by rfl⟩

theorem probeTargets_splits_sample :
    Returns sampleProbe ∧
    ∃ fs, (probeTargets sampleProbe (sampleTime 5) ["tcp://edge:443", "vault"] ()).outcome = .ok fs ∧
      fs.map Finding.target = ["tcp://edge:443", "vault"] ∧
      fs.map (fun f => (f.probeOk, f.probeError, f.retryCount)) = [(true, "", 1), (false, "refused", 2)] := by
  have hsplits : ∀ url ∈ ["tcp://edge:443", "vault"], Splits url := by
    have hvault : Splits "vault" := fun h => absurd h (by decide +kernel)
    simp only [List.forall_mem_cons, splits_edge, hvault, List.not_mem_nil, false_imp_iff, implies_true, and_self]
  obtain ⟨reports, fs, hreports, hfs, htargets, hsaid⟩ :=
    (probeTargets_splits_or_breaks_off returns_sampleProbe (sampleTime 5) ["tcp://edge:443", "vault"] ()).1 hsplits
  refine ⟨returns_sampleProbe, fs, hfs, htargets, ?_⟩
  cases hreports with
  | cons hedge hrest =>
    cases hrest with
    | cons hvault hnil =>
      cases hnil
      cases hedge
      cases hvault
      exact hsaid.trans (by decide +kernel)

/-- An address of a configuration in order whose bracket is not closed costs the findings of all targets. -/
theorem exists_target_breaks_off :
    ¬ ∀ (c : Config) (probe : String → Unit → Probe.Finished ProbeReport Unit) (now : Instant),
      c.flaw? = none → Returns probe →
      ∃ reports fs, Probed probe c.external () reports ∧ (probeTargets probe now c.external ()).outcome = .ok fs ∧
        fs.map Finding.target = c.external ∧
        fs.map (fun f => (f.probeOk, f.probeError, f.retryCount)) =
          reports.map fun r => (r.isOk, r.error, r.retries) := by
  intro h
  have hname : Target.serverName "tcp://[::1:8443" = .error .unbalancedBrackets := by rfl
  obtain ⟨_, f, _, _, houtcome⟩ :=
    outcome_probeTargets_of_splits returns_sampleProbe splits_edge (sampleTime 5) ["tcp://[::1:8443"] ()
  rw [outcome_probeTargets_of_serverName_eq_error hname] at houtcome
  obtain ⟨reports, fs, _, hfs, _⟩ := h { Config.defaults with external := ["tcp://edge:443", "tcp://[::1:8443"] }
    sampleProbe (sampleTime 5) (by decide +kernel) returns_sampleProbe
  cases hfs.symm.trans houtcome

end Source

end CertInventory
