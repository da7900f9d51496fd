import CertInventory.Chain.Defect
import CertInventory.Proofs.Chain.Search

/-!
What breaks the checks of a chain off. The checks read the leaf first, then the extensions of all others, and keys only
where a signature has to be verified; `MeetsFault` says which of these readings is the first to fail. A fault that no
check comes to, such as an unknown key beyond the anchor, does nothing.
-/

namespace CertInventory

/-- An element with a property that stands behind others of another property alone. -/
def FirstAmong {α : Type} (passed stop : α → Prop) (l : List α) : Prop :=
  ∃ before a behind, l = before ++ a :: behind ∧ (∀ b ∈ before, passed b) ∧ stop a

namespace FirstAmong

variable {α : Type} {passed stop : α → Prop} {l : List α}

theorem not_nil : ¬ FirstAmong passed stop ([] : List α) := by
  rintro ⟨before, a, behind, h, _⟩
  cases before <;> cases h

theorem cons_iff {x : α} : FirstAmong passed stop (x :: l) ↔ stop x ∨ passed x ∧ FirstAmong passed stop l := by
  constructor
  · rintro ⟨before, a, behind, h, hbefore, ha⟩
    cases before with
    | nil =>
      cases h
      exact .inl ha
    | cons b before =>
      cases h
      obtain ⟨hx, hbefore⟩ := List.forall_mem_cons.mp hbefore
      exact .inr ⟨hx, before, a, behind, rfl, hbefore, ha⟩
  · rintro (hx | ⟨hx, before, a, behind, rfl, hbefore, ha⟩)
    · exact ⟨[], x, l, rfl, nofun, hx⟩
    · exact ⟨x :: before, a, behind, rfl, List.forall_mem_cons.mpr ⟨hx, hbefore⟩, ha⟩

theorem exists_mem (h : FirstAmong passed stop l) : ∃ a ∈ l, stop a := by
  obtain ⟨before, a, behind, rfl, _, ha⟩ := h
  exact ⟨a, List.mem_append_right before List.mem_cons_self, ha⟩

end FirstAmong

/-- A reading that fails on nothing but a damaged encoding. -/
def FailsByEncoding {α : Type} (reading : Except DecodeFault α) : Prop :=
  ∀ d, reading = .error d → d.isEncoding = true

theorem FailsByEncoding.ok {α : Type} (a : α) : FailsByEncoding (.ok a) := nofun

/-- Whatever is damaged about the certificate, the kind of its key is known. -/
structure Certificate.HasKnownKey (c : Certificate) : Prop where
  key : FailsByEncoding c.publicKey
  extensions : FailsByEncoding c.extensions

namespace Certificate

variable {c a : Certificate} {d : DecodeFault}

theorem isAuthority_eq_error_iff : c.isAuthority = .error d ↔ c.extensions = .error d := by
  unfold isAuthority
  cases c.extensions with
  | ok e => exact iff_of_false nofun nofun
  | error f => simp [Except.map]

theorem exists_isSelfSigned {e : Extensions} (h : c.extensions = .ok e) : ∃ b, c.isSelfSigned = .ok b := by
  unfold isSelfSigned keyIds
  rw [h]
  split <;> exact ⟨_, rfl⟩

theorem exists_covers {e : Extensions} (h : c.extensions = .ok e) (hostname : String) :
    ∃ b, c.covers hostname = .ok b := by
  unfold covers addresses dnsNames
  rw [h]
  dsimp only
  repeat' split
  all_goals exact ⟨_, rfl⟩

theorem isSignedBy_eq_error_iff : c.isSignedBy a = .error d ↔ a.publicKey = .error d ∧ d ≠ .malformed := by
  unfold isSignedBy
  split
  · rename_i key hkey
    exact iff_of_false nofun fun h => nomatch hkey.symm.trans h.1
  · rename_i hkey
    refine iff_of_false nofun fun ⟨h, hd⟩ => hd ?_
    cases hkey.symm.trans h
    rfl
  · rename_i f hf hkey
    rw [hkey]
    constructor
    · intro h
      cases h
      exact ⟨rfl, hf⟩
    · rintro ⟨h, -⟩
      cases h
      rfl

theorem isIssuedBy_eq_error_iff :
    c.isIssuedBy a = .error d ↔ c.issuer = a.subject ∧ a.publicKey = .error d ∧ d ≠ .malformed := by
  unfold isIssuedBy
  by_cases hname : c.issuer = a.subject
  · rw [if_pos hname, isSignedBy_eq_error_iff]
    exact (and_iff_right hname).symm
  · rw [if_neg hname]
    exact iff_of_false nofun fun h => hname h.1

end Certificate

namespace Chain

open Time

variable {c leaf : Certificate} {l anchors unused rest chain : List Certificate} {d : DecodeFault} {now : Instant}

/-- Looking for the issuer of `c` comes to a certificate of its issuer's name whose key cannot be read. -/
def IssuerFault (c : Certificate) (d : DecodeFault) : List Certificate → Prop :=
  FirstAmong (fun b => c.isIssuedBy b = .ok false) fun a => c.isIssuedBy a = .error d

theorem takeIssuer_eq_error_iff : takeIssuer c l = .error d ↔ IssuerFault c d l := by
  unfold IssuerFault
  induction l with
  | nil => exact iff_of_false nofun FirstAmong.not_nil
  | cons a r ih =>
    rw [FirstAmong.cons_iff, takeIssuer]
    cases c.isIssuedBy a with
    | error f => simp
    | ok issued =>
      cases issued with
      | true => simp
      | false =>
        rw [← ih]
        cases takeIssuer c r with
        | error f => simp
        | ok found =>
          rcases found with _ | ⟨b, others⟩
          · simp
          · simp

theorem poolsOfList_eq_error_iff : Pools.ofList rest = .error d ↔
    FirstAmong (fun c => ∃ b, c.isAuthority = .ok b) (fun c => c.isAuthority = .error d) rest := by
  induction rest with
  | nil => exact iff_of_false nofun FirstAmong.not_nil
  | cons c r ih =>
    rw [FirstAmong.cons_iff, Pools.ofList]
    cases c.isAuthority with
    | error f => simp
    | ok isAuthority =>
      rw [← ih]
      cases Pools.ofList r with
      | error f => simp
      | ok pools =>
        dsimp only
        split_ifs <;> simp

/-- The climb from `c`, with so many steps left, comes to an issuer whose key cannot be read. Up to there it is the path
of first choices, and no anchor ends it. -/
inductive ClimbFault (now : Instant) (anchors : List Certificate) (d : DecodeFault) :
    Nat → Certificate → List Certificate → Prop where
  | anchor {steps : Nat} {c : Certificate} {unused : List Certificate} :
      IssuerFault c d anchors → ClimbFault now anchors d (steps + 1) c unused
  | link {steps : Nat} {c : Certificate} {unused : List Certificate} :
      (∀ b ∈ anchors, c.isIssuedBy b = .ok false) → IssuerFault c d unused →
      ClimbFault now anchors d (steps + 1) c unused
  | step {steps : Nat} {c a : Certificate} {before behind : List Certificate} :
      (∀ b ∈ anchors, c.isIssuedBy b = .ok false) → (∀ b ∈ before, c.isIssuedBy b = .ok false) →
      c.isIssuedBy a = .ok true → IsValidAt a now → ClimbFault now anchors d steps a (before ++ behind) →
      ClimbFault now anchors d (steps + 1) c (before ++ a :: behind)

theorem climb_eq_error_iff {steps : Nat} :
    climb anchors now steps c unused = .error d ↔ ClimbFault now anchors d steps c unused := by
  -- Each step climbs to the issuer it takes from the unused ones, so both change along the way.
  induction steps generalizing c unused with
  | zero => exact iff_of_false nofun nofun
  | succ steps ih =>
    constructor
    · intro h
      rw [climb] at h
      split at h
      · cases h
        exact .anchor (takeIssuer_eq_error_iff.mp ‹_›)
      · cases h
      · have hanchors := takeIssuer_eq_none_iff.mp ‹takeIssuer c anchors = .ok none›
        split at h
        · cases h
          exact .link hanchors (takeIssuer_eq_error_iff.mp ‹_›)
        · cases h
        · split at h
          · cases h
          · obtain ⟨before, behind, rfl, rfl, hissued, hbefore⟩ :=
              takeIssuer_eq_some_iff.mp ‹takeIssuer c unused = _›
            exact .step hanchors hbefore hissued (validityFailure?_eq_none_iff.mp ‹_›) (ih.mp h)
    · intro h
      cases h with
      | anchor hfault => simp only [climb, takeIssuer_eq_error_iff.mpr hfault]
      | link hanchors hfault =>
        simp only [climb, takeIssuer_eq_none_iff.mpr hanchors, takeIssuer_eq_error_iff.mpr hfault]
      | @step _ _ a before behind hanchors hbefore hissued hvalid hfault =>
        have hnext : takeIssuer c (before ++ a :: behind) = .ok (some (a, before ++ behind)) :=
          takeIssuer_eq_some_iff.mpr ⟨before, behind, rfl, rfl, hissued, hbefore⟩
        simp only [climb, takeIssuer_eq_none_iff.mpr hanchors, hnext, validityFailure?_eq_none_iff.mpr hvalid,
          ih.mpr hfault]

theorem ClimbFault.exists_mem {steps : Nat} (h : ClimbFault now anchors d steps c unused) :
    ∃ a, (a ∈ anchors ∨ a ∈ unused) ∧ a.publicKey = .error d := by
  induction h with
  | anchor hfault =>
    obtain ⟨a, ha, hkey⟩ := hfault.exists_mem
    exact ⟨a, .inl ha, (Certificate.isIssuedBy_eq_error_iff.mp hkey).2.1⟩
  | link _ hfault =>
    obtain ⟨a, ha, hkey⟩ := hfault.exists_mem
    exact ⟨a, .inr ha, (Certificate.isIssuedBy_eq_error_iff.mp hkey).2.1⟩
  | step _ _ _ _ _ ih =>
    obtain ⟨a, ha, hkey⟩ := ih
    refine ⟨a, ha.imp_right fun hmem => ?_, hkey⟩
    obtain hbefore | hbehind := List.mem_append.mp hmem
    · exact List.mem_append_left _ hbefore
    · exact List.mem_append_right _ (List.mem_cons_of_mem _ hbehind)

/-- The first reading of a chain that fails: of the leaf's extensions or its key, of the extensions of another, or of
the key of an issuer on the way from a leaf that is valid. -/
inductive MeetsFault (now : Instant) (d : DecodeFault) : List Certificate → Prop where
  | leafExtensions {leaf : Certificate} {rest : List Certificate} :
      leaf.extensions = .error d → MeetsFault now d (leaf :: rest)
  | leafKey {leaf : Certificate} {rest : List Certificate} {e : Extensions} :
      leaf.extensions = .ok e → leaf.publicKey = .error d → MeetsFault now d (leaf :: rest)
  | extensions {leaf : Certificate} {rest : List Certificate} {e : Extensions} {key : PublicKey} :
      leaf.extensions = .ok e → leaf.publicKey = .ok key →
      FirstAmong (fun c => ∃ b, c.isAuthority = .ok b) (fun c => c.isAuthority = .error d) rest →
      MeetsFault now d (leaf :: rest)
  | issuerKey {leaf : Certificate} {rest : List Certificate} {e : Extensions} {key : PublicKey} :
      leaf.extensions = .ok e → leaf.publicKey = .ok key → AllReadable rest → IsValidAt leaf now →
      ClimbFault now (anchorsOf rest) d maxSteps leaf (linksOf rest) → MeetsFault now d (leaf :: rest)

theorem trustFailure_eq_error_iff : trustFailure leaf rest now = .error d ↔
    FirstAmong (fun c => ∃ b, c.isAuthority = .ok b) (fun c => c.isAuthority = .error d) rest ∨
      AllReadable rest ∧ IsValidAt leaf now ∧ ClimbFault now (anchorsOf rest) d maxSteps leaf (linksOf rest) := by
  rw [← poolsOfList_eq_error_iff, ← climb_eq_error_iff, ← validityFailure?_eq_none_iff, trustFailure]
  cases hpools : Pools.ofList rest with
  | error f =>
    -- The pools are made before the leaf's validity is looked at, so the second way is out.
    have hread : ¬ AllReadable rest := fun h => by
      simpa [hpools] using (@poolsOfList_eq_ok_iff rest ⟨anchorsOf rest, linksOf rest⟩).mpr ⟨h, rfl, rfl⟩
    have hne : ¬ rest.isEmpty = true := by
      rintro h
      rw [List.isEmpty_iff.mp h] at hpools
      cases hpools
    simp [hne, hread]
  | ok pools =>
    obtain ⟨hread, hanchors, hlinks⟩ := poolsOfList_eq_ok_iff.mp hpools
    rw [← hanchors, ← hlinks]
    cases rest with
    | nil =>
      cases hpools
      have hclimb : climb [] now maxSteps leaf [] ≠ .error d := by
        intro h
        cases h
      simp [hclimb]
    | cons b r =>
      cases validityFailure? leaf now with
      | some failure => simp
      | none => simp [hread]

/-- Where the leaf can be read, nothing but the trust path breaks the checks off. -/
theorem defects_eq_error_iff_trustFailure {e : Extensions} (hleaf : leaf.extensions = .ok e) (hostname : String) :
    defects (leaf :: rest) hostname now = .error d ↔ trustFailure leaf rest now = .error d := by
  have hofLeaf : ∃ ds, leafDefects leaf = .ok ds := by
    obtain ⟨b, hself⟩ := Certificate.exists_isSelfSigned hleaf
    have hauthority : leaf.isAuthority = .ok e.authority := congrArg (Except.map Extensions.authority) hleaf
    rw [leafDefects, hself, hauthority]
    cases b <;> exact ⟨_, rfl⟩
  have hofHostname : ∃ ds, hostnameDefects leaf hostname = .ok ds := by
    obtain ⟨b, hcovers⟩ := Certificate.exists_covers hleaf hostname
    rw [hostnameDefects, hcovers]
    split <;> exact ⟨_, rfl⟩
  obtain ⟨ofLeaf, hofLeaf⟩ := hofLeaf
  obtain ⟨ofHostname, hofHostname⟩ := hofHostname
  simp only [defects, hofLeaf, hofHostname, bind, Except.bind]
  cases trustFailure leaf rest now with
  | error f => simp
  | ok reason => exact iff_of_false nofun nofun

theorem defects_eq_error_iff {e : Extensions} {key : PublicKey} (hleaf : leaf.extensions = .ok e)
    (hkey : leaf.publicKey = .ok key) (hostname : String) :
    defects (leaf :: rest) hostname now = .error d ↔ MeetsFault now d (leaf :: rest) := by
  rw [defects_eq_error_iff_trustFailure hleaf, trustFailure_eq_error_iff]
  constructor
  · rintro (hrest | ⟨hrest, hvalid, hclimb⟩)
    · exact .extensions hleaf hkey hrest
    · exact .issuerKey hleaf hkey hrest hvalid hclimb
  · intro h
    cases h with
    | leafExtensions hfails => cases hleaf.symm.trans hfails
    | leafKey _ hfails => cases hkey.symm.trans hfails
    | extensions _ _ hrest => exact .inl hrest
    | issuerKey _ _ hrest hvalid hclimb => exact .inr ⟨hrest, hvalid, hclimb⟩

theorem MeetsFault.exists_mem (h : MeetsFault now d chain) :
    ∃ c ∈ chain, c.extensions = .error d ∨ c.publicKey = .error d := by
  cases h with
  | leafExtensions hleaf => exact ⟨_, List.mem_cons_self, .inl hleaf⟩
  | leafKey _ hkey => exact ⟨_, List.mem_cons_self, .inr hkey⟩
  | extensions _ _ hrest =>
    obtain ⟨c, hc, hread⟩ := hrest.exists_mem
    exact ⟨c, List.mem_cons_of_mem _ hc, .inl (Certificate.isAuthority_eq_error_iff.mp hread)⟩
  | issuerKey _ _ _ _ hclimb =>
    obtain ⟨a, ha, hkey⟩ := hclimb.exists_mem
    have hmem := ha.elim (fun h => (mem_anchorsOf.mp h).1) fun h => (mem_linksOf.mp h).1
    exact ⟨a, List.mem_cons_of_mem _ hmem, .inr hkey⟩

/-- Where the kinds of all keys are known, nothing but a damaged encoding breaks the checks off. -/
theorem MeetsFault.isEncoding (h : MeetsFault now d chain) (hkeys : ∀ c ∈ chain, c.HasKnownKey) :
    d.isEncoding = true := by
  obtain ⟨c, hc, hextensions | hkey⟩ := h.exists_mem
  · exact (hkeys c hc).extensions d hextensions
  · exact (hkeys c hc).key d hkey

end Chain

end CertInventory
