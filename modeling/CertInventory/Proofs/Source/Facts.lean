import CertInventory.Proofs.Probe.Retry
import CertInventory.Proofs.Source.Bundles

/-!
What findings of targets and files say when they leave their source. The expiry of a leaf is written down before
anything is read that may fail, and a reading that fails leaves a chain error behind, so a finding that counts as probed
shows when its certificate expires and whether its chain is damaged; every other finding says why it is not.
-/

namespace CertInventory

namespace Finding

open Time Chain

variable {f g : Finding} {leaf : Certificate} {rest chain : List Certificate} {now : Instant}

theorem notAfter_describe : (f.describe leaf chain).1.notAfter = some leaf.notAfter := by
  unfold describe
  dsimp only
  repeat' split
  all_goals rfl

theorem notAfter_examine (hostname : String) :
    (f.examine (leaf :: rest) hostname (some now)).1.notAfter = some leaf.notAfter := by
  have hdescribe : (f.describe leaf (leaf :: rest)).1.notAfter = some leaf.notAfter := notAfter_describe
  unfold examine
  dsimp only
  generalize f.describe leaf (leaf :: rest) = described at hdescribe ⊢
  obtain ⟨g, d | _⟩ := described
  · exact hdescribe
  · exact hdescribe

/-- Extensions that cannot be read break the examination of their chain off, wherever they stand in it. -/
theorem exists_examine_eq_error (hdamaged : ∃ c ∈ leaf :: rest, ∃ d, c.extensions = .error d)
    (hostname : String) : ∃ fault, (f.examine (leaf :: rest) hostname (some now)).2 = .error fault := by
  have hmeets : ∃ d, MeetsFault now d (leaf :: rest) := by
    cases hleaf : leaf.extensions with
    | error d => exact ⟨d, .leafExtensions hleaf⟩
    | ok e =>
      cases hkey : leaf.publicKey with
      | error d => exact ⟨d, .leafKey hleaf hkey⟩
      | ok key =>
        have hrest : ¬ AllReadable rest := by
          intro hread
          obtain ⟨c, hc, d, hd⟩ := hdamaged
          rcases List.mem_cons.mp hc with rfl | hc
          · cases hleaf.symm.trans hd
          · obtain ⟨b, hb⟩ := hread c hc
            cases hb.symm.trans (Certificate.isAuthority_eq_error_iff.mpr hd)
        cases hpools : Pools.ofList rest with
        | ok pools => exact absurd (poolsOfList_eq_ok_iff.mp hpools).1 hrest
        | error d => exact ⟨d, .extensions hleaf hkey (poolsOfList_eq_error_iff.mp hpools)⟩
  obtain ⟨d, hd⟩ := hmeets
  exact ⟨.decode d, examine_eq_error_iff.mpr ⟨d, rfl, hd⟩⟩

/-- A finding that shows the expiry of a chain's leaf, and a chain error where extensions of the chain are damaged. -/
structure Shows (f : Finding) (leaf : Certificate) (rest : List Certificate) : Prop where
  expiry : f.notAfter = some leaf.notAfter
  damage : (∃ c ∈ leaf :: rest, ∃ d, c.extensions = .error d) → f.chainErrors ≠ []

theorem chainErrors_withHandshake (p : Presented) : (f.withHandshake p).chainErrors = f.chainErrors := by
  unfold withHandshake
  dsimp only
  split <;> rfl

/-- An examination writes down the expiry of the leaf whatever it comes to, and comes to defects only where all
extensions can be read. -/
theorem examine_cases (f : Finding) (leaf : Certificate) (rest : List Certificate) (hostname : String) (now : Instant) :
    ∃ k r, f.examine (leaf :: rest) hostname (some now) = (k, r) ∧ k.kept = (f.undescribed, some leaf.notAfter) ∧
      ((∃ c ∈ leaf :: rest, ∃ d, c.extensions = .error d) → ∃ fault, r = .error fault) := by
  have hkept : (f.examine (leaf :: rest) hostname (some now)).1.kept = (f.undescribed, some leaf.notAfter) :=
    Prod.ext (f.undescribed_examine _ hostname _) (notAfter_examine hostname)
  exact ⟨_, _, rfl, hkept, fun hdamaged => exists_examine_eq_error hdamaged hostname⟩

theorem shows_of_presenting {p : Presented} {hostname : String} (hchain : p.chain = leaf :: rest)
    (h : f.presenting p hostname (some now) = (g, .ok ())) : g.Shows leaf rest ∧ g.undescribed = f.undescribed := by
  obtain ⟨k, r, hexamined, hkept, hdamage⟩ :=
    examine_cases { f with chainLength := p.chain.length } leaf rest hostname now
  rw [presenting, hchain] at h
  rw [hchain] at hexamined
  rw [hexamined] at h
  cases r with
  | ok ds =>
    obtain rfl := (Prod.mk.inj h).1
    have hsteps := ((kept_withHandshake _ p).trans (kept_withDefects _ ds)).trans ((kept_carrying _ p).trans hkept)
    obtain ⟨hsame, hexpiry⟩ := Prod.mk.inj hsteps
    refine ⟨⟨hexpiry, fun hdamaged => ?_⟩, hsame⟩
    obtain ⟨fault, hfault⟩ := hdamage hdamaged
    cases hfault
  | error e =>
    dsimp only at h
    cases hcode : e.encoding? with
    | none =>
      rw [hcode] at h
      cases h
    | some d =>
      rw [hcode] at h
      obtain rfl := (Prod.mk.inj h).1
      have hsteps := (kept_withHandshake { k with chainErrors := [unreadable d] } p).trans hkept
      obtain ⟨hsame, hexpiry⟩ := Prod.mk.inj hsteps
      -- What cannot be read becomes the one chain error, and the handshake leaves it alone.
      refine ⟨⟨hexpiry, fun _ => ?_⟩, hsame⟩
      rw [chainErrors_withHandshake]
      exact List.cons_ne_nil _ _

theorem shows_of_bundling {decode : Pem.Loader} {bundle : List UInt8} {hostname : String}
    {head? : Option Certificate} (hread : Pem.read decode bundle = .ok (leaf :: rest))
    (h : f.bundling decode bundle hostname (some now) = (g, .ok head?)) :
    g.Shows leaf rest ∧ g.undescribed = { f with probeOk := true }.undescribed := by
  obtain ⟨k, r, hexamined, hkept, hdamage⟩ :=
    examine_cases { f with probeOk := true, chainLength := (leaf :: rest).length } leaf rest hostname now
  simp only [bundling, hread, hexamined] at h
  cases r with
  | ok ds =>
    obtain rfl := (Prod.mk.inj h).1
    obtain ⟨hsame, hexpiry⟩ := Prod.mk.inj ((kept_withDefects _ ds).trans hkept)
    refine ⟨⟨hexpiry, fun hdamaged => ?_⟩, hsame⟩
    obtain ⟨fault, hfault⟩ := hdamage hdamaged
    cases hfault
  | error e =>
    dsimp only at h
    cases hcode : e.encoding? with
    | none =>
      rw [hcode] at h
      cases h
    | some d =>
      rw [hcode] at h
      obtain rfl := (Prod.mk.inj h).1
      obtain ⟨hsame, hexpiry⟩ := Prod.mk.inj hkept
      exact ⟨⟨hexpiry, fun _ => List.cons_ne_nil _ _⟩, hsame⟩

end Finding

namespace Pem

theorem read_ne_nil {decode : Loader} {bundle : List UInt8} {chain : List Certificate}
    (h : read decode bundle = .ok chain) : chain ≠ [] := by
  unfold read at h
  split at h
  · cases h
  · cases h
  · obtain rfl := Except.ok.inj h
    exact List.cons_ne_nil _ _

end Pem

namespace Source

open Time Finding

/-- What a finding says of its place when it leaves its source: either the facts of a chain that is found there or why
there is none. -/
structure Accounts (kind place : String) (found : List Certificate → Prop) (f : Finding) : Prop where
  source : f.source = kind
  target : f.target = place
  probed : f.probeOk = true → ∃ leaf rest, found (leaf :: rest) ∧ f.Shows leaf rest
  unprobed : f.probeOk = false → f.probeError ≠ ""

variable {kind place : String} {found found' : List Certificate → Prop} {f g : Finding} {fs : List Finding}
  {now : Instant}

theorem Accounts.mono (h : Accounts kind place found f) (hfound : ∀ chain, found chain → found' chain) :
    Accounts kind place found' f where
  source := h.source
  target := h.target
  probed hprobe :=
    let ⟨leaf, rest, hchain, hshows⟩ := h.probed hprobe
    ⟨leaf, rest, hfound _ hchain, hshows⟩
  unprobed := h.unprobed

theorem accounts_of_shows {leaf : Certificate} {rest : List Certificate} (hsame : g.undescribed = f.undescribed)
    (hprobe : f.probeOk = true) (hfound : found (leaf :: rest)) (hshows : g.Shows leaf rest) : Accounts f.source f.target found g := by
  have hsource : g.undescribed.source = f.undescribed.source := congrArg Finding.source hsame
  have htarget : g.undescribed.target = f.undescribed.target := congrArg Finding.target hsame
  have hprobed : g.probeOk = true := (congrArg Finding.probeOk hsame).trans hprobe
  exact ⟨hsource, htarget, fun _ => ⟨leaf, rest, hfound, hshows⟩, fun hnot => Bool.noConfusion (hprobed.symm.trans hnot)⟩

section Targets

variable {σ : Type} {url hostname : String} {urls : List String} {s : σ} {r : ProbeResult}

theorem accounts_describedFinding (hleaf : ∀ p, r.outcome = .ok p → p.chain ≠ [])
    (h : describedFinding url hostname r.report now = .ok f) :
    Accounts externalSource url (fun chain => ∃ p, r.outcome = .ok p ∧ p.chain = chain) f := by
  obtain ⟨outcome, retries⟩ := r
  cases outcome with
  | error e =>
    obtain rfl := Except.ok.inj h
    exact ⟨rfl, rfl, Bool.noConfusion, fun _ => e.message_ne_empty⟩
  | ok p =>
    obtain ⟨leaf, rest, hchain⟩ := List.exists_cons_of_ne_nil (hleaf p rfl)
    have hhead : (ProbeResult.mk (.ok p) retries).report.leaf? = some leaf := congrArg List.head? hchain
    unfold describedFinding at h
    dsimp only at h
    rw [if_pos (by rw [hhead]; rfl)] at h
    split at h
    next g hpresenting =>
      obtain rfl := Except.ok.inj h
      obtain ⟨hshows, hsame⟩ := shows_of_presenting hchain hpresenting
      exact accounts_of_shows hsame rfl ⟨p, rfl, hchain⟩ hshows
    next => cases h

def networkAfter (probe : String → σ → Probe.Finished ProbeReport σ) : List String → σ → σ
  | [], s => s
  | url :: urls, s => networkAfter probe urls (probe url s).network

theorem exists_of_mem_probeTargets {probe : String → σ → Probe.Finished ProbeReport σ}
    (h : (probeTargets probe now urls s).outcome = .ok fs) (hf : f ∈ fs) :
    ∃ before url behind hostname r, urls = before ++ url :: behind ∧
      (probe url (networkAfter probe before s)).result = .ok r ∧ describedFinding url hostname r now = .ok f := by
  induction urls generalizing s fs with
  | nil =>
    obtain rfl := Except.ok.inj h
    cases hf
  | cons url urls ih =>
    rw [probeTargets] at h
    split at h
    next => cases h
    next hostname _ =>
      dsimp only at h
      split at h
      next => cases h
      next r hr =>
        split at h
        next => cases h
        next g hg =>
          cases hlater : (probeTargets probe now urls (probe url s).network).outcome with
          | error fault =>
            rw [hlater] at h
            cases h
          | ok later =>
            rw [hlater] at h
            obtain rfl := Except.ok.inj h
            rcases List.mem_cons.mp hf with rfl | hf
            · exact ⟨[], url, urls, hostname, r, rfl, hr, hg⟩
            · obtain ⟨before, url', behind, hostname', r', rfl, hr', hf'⟩ := ih hlater hf
              exact ⟨url :: before, url', behind, hostname', r', rfl, hr', hf'⟩

end Targets

section Bundles

variable {files : Files} {decode : Pem.Loader} {b : FileBundle} {bs : List FileBundle}

theorem accounts_readBundle (h : readBundle files decode now b = .ok f) :
    Accounts fileSource b.path (Holds files decode b) f := by
  unfold readBundle at h
  dsimp only at h
  cases hbytes : files b.path with
  | error e =>
    rw [hbytes] at h
    dsimp only at h
    split at h
    · obtain rfl := Except.ok.inj h
      exact ⟨rfl, rfl, Bool.noConfusion, fun _ => readingError_ne_empty b.path e⟩
    · cases h
  | ok bytes =>
    rw [hbytes] at h
    dsimp only at h
    generalize hbundling : (bundleFinding b).bundling decode bytes b.hostname (some now) = described at h
    obtain ⟨g, r⟩ := described
    cases r with
    | error e => cases h
    | ok head? =>
      obtain rfl := Except.ok.inj h
      cases hread : Pem.read decode bytes with
      | error e =>
        have htold : ∀ failure, e ≠ .unexpected failure := by
          rintro failure rfl
          rw [bundling, hread] at hbundling
          cases (Prod.mk.inj hbundling).2
        rw [bundling_of_told hread htold] at hbundling
        obtain rfl := (Prod.mk.inj hbundling).1
        exact ⟨rfl, rfl, Bool.noConfusion, fun _ => Pem.BundleError.message_ne_empty htold⟩
      | ok chain =>
        obtain ⟨leaf, rest, rfl⟩ := List.exists_cons_of_ne_nil (Pem.read_ne_nil hread)
        obtain ⟨hshows, hsame⟩ := shows_of_bundling hread hbundling
        exact accounts_of_shows hsame rfl ⟨bytes, hbytes, hread⟩ hshows

theorem exists_of_mem_readBundles (h : readBundles files decode now bs = .ok fs) (hf : f ∈ fs) :
    ∃ b ∈ bs, readBundle files decode now b = .ok f := by
  induction bs generalizing fs with
  | nil =>
    obtain rfl := Except.ok.inj h
    cases hf
  | cons b bs ih =>
    cases hb : readBundle files decode now b with
    | error fault => cases (readBundles_cons_of_error hb).symm.trans h
    | ok g =>
      rw [readBundles_cons_of_ok hb] at h
      cases hlater : readBundles files decode now bs with
      | error fault =>
        rw [hlater] at h
        cases h
      | ok later =>
        rw [hlater] at h
        obtain rfl := Except.ok.inj h
        rcases List.mem_cons.mp hf with rfl | hf
        · exact ⟨b, List.mem_cons_self, hb⟩
        · obtain ⟨b', hb', hread⟩ := ih hlater hf
          exact ⟨b', List.mem_cons_of_mem _ hb', hread⟩

end Bundles

end Source

end CertInventory
