import CertInventory.Job
import CertInventory.Proofs.Run.Renewal
import CertInventory.Proofs.Source.Facts

/-!
What the snapshot of a configuration says of the targets and files in it, whatever the network, the files and the web
answer. No source of a configuration knows of managed certificates, so nothing takes back what expiry and trouble with
a chain make of a severity; and no finding is without either an expiry or a reason
(`expiry_judged_or_failure_told`).
-/

namespace CertInventory

open Time Finding

namespace Finding

variable {f : Finding} {now warn critical notAfter : Instant}

theorem baseSeverity_of_lt_critical (hsource : f.source ≠ webhookSource) (hprobe : f.probeOk = true)
    (hafter : f.notAfter = some notAfter) (hlate : notAfter < critical) :
    f.baseSeverity now warn critical = .critical := by
  simp only [baseSeverity, hprobe, hafter, hlate, hsource, true_or, if_true, false_and, if_false, reduceCtorEq]

end Finding

namespace Job

open Source

variable {ν ω : Type} {s : Scene ν ω} {c : Config} {network : ν} {sources : List Source}

def networkAfter (s : Scene ν ω) (urls : List String) (network : ν) : ν :=
  Source.networkAfter (fun url network => (Probe.run s.network url network).map ProbeResult.report) urls network

/-- The chains that the sources of a configuration find at a place: a file holds its chain, and a target presents one
to the probe behind those of the targets in front of it. -/
inductive Finds (s : Scene ν ω) (c : Config) (network : ν) : String → String → List Certificate → Prop where
  | file {b : FileBundle} {chain : List Certificate} : b ∈ c.files → Holds s.files s.decode b chain →
      Finds s c network fileSource b.path chain
  | target {before behind : List String} {url : String} {r : ProbeResult} {p : Presented} :
      c.external = before ++ url :: behind →
      (Probe.run s.network url (networkAfter s before network)).result = .ok r → r.outcome = .ok p →
      Finds s c network externalSource url p.chain

theorem accounts_of_mem_targets {f : Finding} {fs : List Finding} (h : (targets s c network).outcome = .ok fs)
    (hf : f ∈ fs) : ∃ url, Accounts externalSource url (Finds s c network externalSource url) f := by
  obtain ⟨before, url, behind, hostname, report, hexternal, hprobed, hdescribed⟩ := exists_of_mem_probeTargets h hf
  cases hrun : (Probe.run s.network url (networkAfter s before network)).result with
  | error e =>
    rw [← networkAfter, Probe.Finished.map, hrun] at hprobed
    cases hprobed
  | ok r =>
    rw [← networkAfter, Probe.Finished.map, hrun] at hprobed
    obtain rfl := Except.ok.inj hprobed
    have haccounts := accounts_describedFinding (fun p hp => Probe.chain_ne_nil_of_run hrun hp) hdescribed
    refine ⟨url, haccounts.mono ?_⟩
    rintro chain ⟨p, hp, rfl⟩
    exact .target hexternal hrun hp

theorem accounts_of_mem_bundles {f : Finding} {fs : List Finding} (h : bundles s c = .ok fs) (hf : f ∈ fs) :
    ∃ path, Accounts fileSource path (Finds s c network fileSource path) f := by
  obtain ⟨b, hb, hread⟩ := exists_of_mem_readBundles h hf
  exact ⟨b.path, (accounts_readBundle hread).mono fun chain hholds => .file hb hholds⟩

/-- In whatever order the sources of a configuration are done, their findings account for the targets and files. -/
theorem accounts_of_mem_found (hsources : sources.Perm (Job.sources s c (targets s c network))) {f : Finding}
    (hf : f ∈ sources.flatMap Source.found) :
    ∃ kind place, (kind = externalSource ∨ kind = fileSource) ∧
      Accounts kind place (Finds s c network kind place) f := by
  obtain ⟨src, hsrc, hf⟩ := List.mem_flatMap.mp hf
  have hsrc := hsources.mem_iff.mp hsrc
  unfold Source.found at hf
  split at hf
  next fs hfs =>
    simp only [Job.sources, List.mem_cons, List.not_mem_nil, or_false] at hsrc
    rcases hsrc with rfl | rfl
    · obtain ⟨url, haccounts⟩ := accounts_of_mem_targets hfs hf
      exact ⟨_, _, .inl rfl, haccounts⟩
    · obtain ⟨path, haccounts⟩ : ∃ path, Accounts fileSource path (Finds s c network fileSource path) f :=
        accounts_of_mem_bundles hfs hf
      exact ⟨_, _, .inr rfl, haccounts⟩
  next => cases hf

theorem not_isManaged_of_mem_found (hsources : sources.Perm (Job.sources s c (targets s c network))) {f : Finding}
    (hf : f ∈ sources.flatMap Source.found) : ¬ f.IsManaged := by
  obtain ⟨kind, place, hkind, haccounts⟩ := accounts_of_mem_found hsources hf
  rintro ⟨hmanager, _⟩
  rw [haccounts.source] at hmanager
  rcases hkind with rfl | rfl
  · exact absurd hmanager (by decide)
  · exact absurd hmanager (by decide)

/-- How a snapshot judges a place by its cutoffs. Damaged extensions are among the trouble, as a finding that shows
their chain has a chain error. -/
structure Judged (found : List Certificate → Prop) (warn critical : Instant) (g : Finding) : Prop where
  shown : g.probeOk = true → ∃ leaf rest, found (leaf :: rest) ∧ g.Shows leaf rest
  late : g.probeOk = true → ∀ t, g.notAfter = some t → t < critical → g.severity = .critical
  troubled : g.probeOk = true → ∀ t, g.notAfter = some t → t < warn ∨ g.chainErrors ≠ [] ∨ g.postureIssues ≠ [] →
    g.severity = .warn ∨ g.severity = .critical
  told : g.probeOk = false → g.probeError ≠ "" ∧ g.remediation ≠ ""

/-- A finding that a run leaves as its source saw it, and whose severity is the one that the cutoffs give or worse, is
judged. -/
theorem judged_of_accounts {found : List Certificate → Prop} {kind place : String} {f g : Finding}
    {now warn critical : Instant} (hkind : kind = externalSource ∨ kind = fileSource)
    (hf : Accounts kind place found f) (hsame : g.sighting = f.sighting)
    (hseverity : g.severity = .critical ∨ g.severity = f.baseSeverity now warn critical)
    (hremedy : f.probeOk = false → f.probeError ≠ "" → g.remediation ≠ "") : Judged found warn critical g := by
  obtain ⟨hprobe, herror, hafter, hchain, hposture⟩ : g.probeOk = f.probeOk ∧ g.probeError = f.probeError ∧
      g.notAfter = f.notAfter ∧ g.chainErrors = f.chainErrors ∧ g.postureIssues = f.postureIssues := by
    simp only [sighting, withoutTransients, Finding.mk.injEq] at hsame
    simp only [hsame, and_self]
  have hsource : f.source ≠ webhookSource := by
    rw [hf.source]
    rcases hkind with rfl | rfl <;> decide
  constructor
  · intro hok
    obtain ⟨leaf, rest, hfound, hshows⟩ := hf.probed (hprobe.symm.trans hok)
    exact ⟨leaf, rest, hfound, hafter.trans hshows.expiry, fun hdamaged => hchain.trans_ne (hshows.damage hdamaged)⟩
  · intro hok notAfter hexpiry hlate
    rw [hprobe] at hok
    rw [hafter] at hexpiry
    rwa [baseSeverity_of_lt_critical hsource hok hexpiry hlate, or_self] at hseverity
  · intro hok notAfter hexpiry htrouble
    rw [hprobe] at hok
    rw [hafter] at hexpiry
    rw [hchain, hposture] at htrouble
    have hurgent : f.baseSeverity now warn critical ≠ .info := baseSeverity_ne_info hok hexpiry htrouble
    rcases hseverity with hrevoked | hbase
    · exact .inr hrevoked
    · rw [← hbase] at hurgent
      cases hg : g.severity with
      | info => exact absurd hg hurgent
      | warn => exact .inl rfl
      | critical => exact .inr rfl
  · intro hnot
    rw [hprobe] at hnot
    rw [herror]
    exact ⟨hf.unprobed hnot, hremedy hnot (hf.unprobed hnot)⟩

/-- The snapshot of the sources of a configuration, in whatever order they are done, judges every place that it names:
what could be probed shows its expiry and is as urgent as the expiry and the trouble with its chain make it, and what
could not be probed says why and is told what to do. -/
theorem expiry_judged_or_failure_told (hsources : sources.Perm (Job.sources s c (targets s c network)))
    {now seen : Instant} {session session' : Revocation.Session ω} {snap : Snapshot}
    (hrun : ((Run.ofConfig c s.web seen).snapshot now sources).run session = (.ok snap, session')) :
    snap.time = now ∧ ∃ warn critical, now.add? c.warnBefore = some warn ∧ now.add? c.critBefore = some critical ∧
      ∀ g ∈ snap.findings, Judged (Finds s c network g.source g.target) warn critical g := by
  obtain ⟨warn, critical, hwarn, hcritical, hfindings⟩ := Run.exists_cutoffs_of_snapshot hrun
  have htime : snap.time = now := by
    rw [Run.snapshot_run (Cutoffs.at?_eq_some hwarn hcritical)] at hrun
    cases hrun
    rfl
  refine ⟨htime, warn, critical, hwarn, hcritical, ?_⟩
  rw [hfindings, Run.forall_mem_checked_iff]
  intro before f behind hsplit
  have hf : f ∈ sources.flatMap Source.found := hsplit ▸ List.mem_append_right before List.mem_cons_self
  obtain ⟨kind, place, hkind, haccounts⟩ := accounts_of_mem_found hsources hf
  have hsame := Run.sighting_emission (Run.ofConfig c s.web seen) ⟨now, warn, critical⟩
    (sources.flatMap Source.found) before f session
  have hseverity := Run.severity_emission_of_unmanaged (Run.ofConfig c s.web seen) _ before f session
    (fun g hg => not_isManaged_of_mem_found hsources hg) now warn critical
  have hremedy := Run.remediation_emission_ne_empty (Run.ofConfig c s.web seen) ⟨now, warn, critical⟩
    (sources.flatMap Source.found) before f session
  generalize Run.emission (Run.ofConfig c s.web seen) ⟨now, warn, critical⟩ (sources.flatMap Source.found) before f
    session = g at hsame hseverity hremedy ⊢
  have hsource : g.source = kind := (congrArg Finding.source hsame).trans haccounts.source
  have htarget : g.target = place := (congrArg Finding.target hsame).trans haccounts.target
  rw [hsource, htarget]
  exact judged_of_accounts hkind haccounts hsame hseverity hremedy

def sampleScene : Scene Unit Unit where
  files path := .error (.noFile path)
  decode _ := .error sampleGarbled
  network := ⟨fun _ u =>
    let leaf := sampleCertificate "edge" "root" false (sampleTime 0) (sampleTime 9)
    let damaged := { leaf with extensions := .error .malformed }
    (.ok (.ok ⟨some "TLSv1.3", none, none, some (.certificate damaged), .empty⟩), u)⟩
  web := sampleWeb []
  now := sampleTime 5

def sampleNaming : Config :=
  { Config.defaults with
    warnBefore := ⟨3⟩
    critBefore := ⟨1⟩
    external := ["tcp://edge:443"]
    files := [⟨"missing.pem", "edge", ""⟩] }

def sampleOrder : List Source := (Job.sources sampleScene sampleNaming (targets sampleScene sampleNaming ())).reverse

/-- An endpoint with a damaged certificate and a missing file, the file being looked at first. -/
theorem expiry_judged_or_failure_told_sample :
    sampleOrder.Perm (Job.sources sampleScene sampleNaming (targets sampleScene sampleNaming ())) ∧
    ∃ snap session', ((Run.ofConfig sampleNaming sampleScene.web (sampleTime 5)).snapshot (sampleTime 5)
        sampleOrder).run (.start ()) = (.ok snap, session') ∧
      snap.findings.map (fun g => (g.target, g.probeOk, g.chainErrors.isEmpty)) =
        [("missing.pem", false, true), ("tcp://edge:443", true, false)] ∧
      ∀ g ∈ snap.findings,
        (g.probeOk = true → g.chainErrors ≠ [] → g.severity = .warn ∨ g.severity = .critical) ∧
        (g.probeOk = false → g.probeError ≠ "" ∧ g.remediation ≠ "") := by
  have hperm : sampleOrder.Perm (Job.sources sampleScene sampleNaming (targets sampleScene sampleNaming ())) :=
    List.reverse_perm _
  have hwarn : Instant.add? (sampleTime 5) ⟨3⟩ = some (sampleTime 8) := by decide
  have hcritical : Instant.add? (sampleTime 5) ⟨1⟩ = some (sampleTime 6) := by decide
  have hrun := Run.snapshot_run (r := Run.ofConfig sampleNaming sampleScene.web (sampleTime 5))
    (Cutoffs.at?_eq_some hwarn hcritical) sampleOrder (.start ())
  obtain ⟨_, warn, critical, _, _, hall⟩ := expiry_judged_or_failure_told hperm hrun
  refine ⟨hperm, _, _, hrun, by decide +kernel, fun g hg => ⟨fun hok hchain => ?_, (hall g hg).told⟩⟩
  obtain ⟨leaf, rest, _, hshows⟩ := (hall g hg).shown hok
  exact (hall g hg).troubled hok leaf.notAfter hshows.expiry (.inr (.inl hchain))

end Job

end CertInventory
