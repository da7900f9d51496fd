import CertInventory.Proofs.Chain.Decoding
import CertInventory.Source.Description

/-!
What describing a chain does to a finding. It writes the facts of certificates and the chain errors and nothing else,
so where a finding comes from and what its probe came to stay; and it breaks off exactly where the first reading of the
chain that fails is more than a damaged encoding (`examine_eq_error_iff`).
-/

namespace CertInventory.Finding

open Time Chain

def withoutFacts (f : Finding) : Finding :=
  { f with
    notAfter := none
    subject := ""
    issuer := ""
    serial := ""
    dnsNames := []
    issuerChain := []
    keyAlgorithm := ""
    keySize := 0
    signatureAlgorithm := ""
    selfSigned := false
    chainErrors := [] }

def undescribed (f : Finding) : Finding :=
  { f.withoutFacts with
    chainLength := 0
    tlsVersion := ""
    cipherSuite := ""
    postureIssues := []
    certificate := none
    issuerCertificate := none
    staple := .empty }

variable (f : Finding)

theorem withoutFacts_describe (leaf : Certificate) (chain : List Certificate) :
    (f.describe leaf chain).1.withoutFacts = f.withoutFacts := by
  unfold describe
  dsimp only
  repeat' split
  all_goals rfl

theorem withoutFacts_examine (chain : List Certificate) (hostname : String) (now : Option Instant) :
    (f.examine chain hostname now).1.withoutFacts = f.withoutFacts := by
  cases chain with
  | nil => rfl
  | cons leaf rest =>
    have hdescribe := f.withoutFacts_describe leaf (leaf :: rest)
    unfold examine
    dsimp only
    generalize f.describe leaf (leaf :: rest) = described at hdescribe ⊢
    obtain ⟨g, d | _⟩ := described
    · exact hdescribe
    · cases now with
      | none => exact hdescribe
      | some t => exact hdescribe

theorem undescribed_examine (chain : List Certificate) (hostname : String) (now : Option Instant) :
    (f.examine chain hostname now).1.undescribed = f.undescribed := by
  show (f.examine chain hostname now).1.withoutFacts.undescribed = f.withoutFacts.undescribed
  rw [withoutFacts_examine]

theorem withoutFacts_withDefects (ds : List Defect) : (f.withDefects ds).withoutFacts = f.withoutFacts := by
  unfold withDefects
  split <;> rfl

def kept (f : Finding) : Finding × Option Instant := (f.undescribed, f.notAfter)

theorem kept_withDefects (ds : List Defect) : (f.withDefects ds).kept = f.kept := by
  unfold withDefects
  split <;> rfl

theorem kept_carrying (p : Presented) : (f.carrying p).kept = f.kept := by
  unfold carrying
  split <;> rfl

theorem kept_withHandshake (p : Presented) : (f.withHandshake p).kept = f.kept := by
  unfold withHandshake
  dsimp only
  split <;> rfl

variable {f} {leaf : Certificate} {rest chain : List Certificate} {now : Instant} {d : DecodeFault}

theorem describe_of_readable {e : Extensions} {key : PublicKey} (hleaf : leaf.extensions = .ok e)
    (hkey : leaf.publicKey = .ok key) : (f.describe leaf chain).2 = .ok () := by
  have hself : ∃ b, leaf.isSelfSigned = .ok b := by
    unfold Certificate.isSelfSigned Certificate.keyIds
    rw [hleaf]
    split <;> exact ⟨_, rfl⟩
  obtain ⟨b, hself⟩ := hself
  simp only [describe, Certificate.dnsNames, hleaf, Except.map, hkey, hself]
  split <;> rfl

theorem describe_eq_ok_iff : (f.describe leaf chain).2 = .ok () ↔
    ∃ e key, leaf.extensions = .ok e ∧ leaf.publicKey = .ok key := by
  cases hleaf : leaf.extensions with
  | error d => simp [describe, Certificate.dnsNames, hleaf, Except.map]
  | ok e =>
    cases hkey : leaf.publicKey with
    | error d => simp [describe, Certificate.dnsNames, hleaf, Except.map, hkey]
    | ok key => simp [describe_of_readable hleaf hkey]

theorem describe_eq_error_iff : (f.describe leaf chain).2 = .error d ↔
    leaf.extensions = .error d ∨ ∃ e, leaf.extensions = .ok e ∧ leaf.publicKey = .error d := by
  cases hleaf : leaf.extensions with
  | error d' => simp [describe, Certificate.dnsNames, hleaf, Except.map]
  | ok e =>
    cases hkey : leaf.publicKey with
    | error d' => simp [describe, Certificate.dnsNames, hleaf, Except.map, hkey]
    | ok key => simp [describe_of_readable hleaf hkey]

theorem examine_cons (hostname : String) : (f.examine (leaf :: rest) hostname (some now)).2 =
    match (f.describe leaf (leaf :: rest)).2 with
    | .error e => .error (.decode e)
    | .ok () => (defects (leaf :: rest) hostname now).mapError .decode := by
  unfold examine
  dsimp only
  generalize f.describe leaf (leaf :: rest) = described
  obtain ⟨g, d | _⟩ := described <;> rfl

/-- An examination breaks off at the first reading of the chain that fails, and nowhere else. -/
theorem examine_eq_error_iff {fault : Fault} {hostname : String} :
    (f.examine chain hostname (some now)).2 = .error fault ↔ ∃ d, fault = .decode d ∧ MeetsFault now d chain := by
  constructor
  · intro h
    cases chain with
    | nil => cases h
    | cons leaf rest =>
      rw [examine_cons] at h
      -- The description reads all of the leaf; what fails behind it is a reading of the others.
      cases hdescribe : (f.describe leaf (leaf :: rest)).2 with
      | error d =>
        rw [hdescribe] at h
        cases h
        refine ⟨d, rfl, ?_⟩
        obtain hleaf | ⟨e, hleaf, hkey⟩ := describe_eq_error_iff.mp hdescribe
        · exact .leafExtensions hleaf
        · exact .leafKey hleaf hkey
      | ok _ =>
        obtain ⟨e, key, hleaf, hkey⟩ := describe_eq_ok_iff.mp hdescribe
        rw [hdescribe] at h
        cases hdefects : defects (leaf :: rest) hostname now with
        | ok ds =>
          rw [hdefects] at h
          cases h
        | error d =>
          rw [hdefects] at h
          cases h
          exact ⟨d, rfl, (defects_eq_error_iff hleaf hkey hostname).mp hdefects⟩
  · rintro ⟨d, rfl, hmeets⟩
    cases hmeets with
    | leafExtensions hleaf => rw [examine_cons, describe_eq_error_iff.mpr (.inl hleaf)]
    | leafKey hleaf hkey => rw [examine_cons, describe_eq_error_iff.mpr (.inr ⟨_, hleaf, hkey⟩)]
    | extensions hleaf hkey hrest =>
      have hmeets : MeetsFault now d (_ :: _) := .extensions hleaf hkey hrest
      rw [examine_cons, describe_of_readable hleaf hkey, (defects_eq_error_iff hleaf hkey hostname).mpr hmeets]
      rfl
    | issuerKey hleaf hkey hrest hvalid hclimb =>
      have hmeets : MeetsFault now d (_ :: _) := .issuerKey hleaf hkey hrest hvalid hclimb
      rw [examine_cons, describe_of_readable hleaf hkey, (defects_eq_error_iff hleaf hkey hostname).mpr hmeets]
      rfl

variable {decode : Pem.Loader} {bundle : List UInt8}

/-- A bundle that is read tells of its chain, whatever is damaged about it, as long as no key of an unknown kind is
met. -/
theorem bundling_of_read (hread : Pem.read decode bundle = .ok chain)
    (hencoding : ∀ d, MeetsFault now d chain → d.isEncoding = true) (hostname : String) :
    ∃ g, f.bundling decode bundle hostname (some now) = (g, .ok chain.head?) ∧
      g.withoutFacts = { f with probeOk := true, chainLength := chain.length }.withoutFacts := by
  have hkept := { f with probeOk := true, chainLength := chain.length }.withoutFacts_examine chain hostname (some now)
  simp only [bundling, hread]
  cases hexamined : { f with probeOk := true, chainLength := chain.length }.examine chain hostname (some now) with
  | mk g r =>
    rw [hexamined] at hkept
    cases r with
    | ok ds => exact ⟨_, rfl, (g.withoutFacts_withDefects ds).trans hkept⟩
    | error fault =>
      obtain ⟨d, rfl, hmeets⟩ := examine_eq_error_iff.mp (congrArg Prod.snd hexamined)
      have hd : (Fault.decode d).encoding? = some d := if_pos (hencoding d hmeets)
      simp only [hd]
      exact ⟨_, rfl, hkept⟩

/-- A bundle that is refused in a way that is told gives a finding that says why. -/
theorem bundling_of_told {e : Pem.BundleError} {now : Option Instant} (hread : Pem.read decode bundle = .error e)
    (htold : ∀ g, e ≠ .unexpected g) (hostname : String) :
    f.bundling decode bundle hostname now = ({ f with probeOk := false, probeError := e.message }, .ok none) := by
  cases e with
  | noCertificate | badBlock => simp only [bundling, hread]
  | unexpected g => exact absurd rfl (htold g)

theorem bundling_of_meetsFault (hread : Pem.read decode bundle = .ok chain) (hmeets : MeetsFault now d chain)
    (hunknown : d.isEncoding = false) (hostname : String) :
    (f.bundling decode bundle hostname (some now)).2 = .error (.decode d) := by
  have hfails : ({ f with probeOk := true, chainLength := chain.length }.examine chain hostname (some now)).2 =
      .error (.decode d) := examine_eq_error_iff.mpr ⟨d, rfl, hmeets⟩
  have hd : (Fault.decode d).encoding? = none := by
    rw [Fault.encoding?, hunknown]
    rfl
  simp only [bundling, hread]
  generalize { f with probeOk := true, chainLength := chain.length }.examine chain hostname (some now) = examined
    at hfails ⊢
  obtain ⟨g, r⟩ := examined
  obtain rfl : r = .error (.decode d) := hfails
  simp only [hd]

end CertInventory.Finding
