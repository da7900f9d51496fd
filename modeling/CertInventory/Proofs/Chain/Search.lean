import CertInventory.Chain.Path
import Mathlib.Data.List.Basic

/-!
What the search for a trust path finds. `FirstPath` is the path of first choices: at every certificate the first
anchor that issued it, or else the first authority that issued it and is not used yet. The search succeeds exactly
on it (`trustFailure_eq_none_iff`), so any other path that the certificates hold counts for nothing.
-/

namespace CertInventory.Chain

open Time

/-- An authority that names itself as its issuer. -/
def IsAnchor (c : Certificate) : Prop := c.isAuthority = .ok true ∧ c.isSelfIssued

/-- An authority that names another issuer. -/
def IsLink (c : Certificate) : Prop := c.isAuthority = .ok true ∧ ¬ c.isSelfIssued

instance (c : Certificate) : Decidable (IsAnchor c) := inferInstanceAs (Decidable (_ ∧ _))

instance (c : Certificate) : Decidable (IsLink c) := inferInstanceAs (Decidable (_ ∧ _))

def anchorsOf (rest : List Certificate) : List Certificate := rest.filter fun c => IsAnchor c

def linksOf (rest : List Certificate) : List Certificate := rest.filter fun c => IsLink c

/-- Whether the extensions of all certificates can be read. -/
def AllReadable (rest : List Certificate) : Prop := ∀ c ∈ rest, ∃ b, c.isAuthority = .ok b

theorem poolsOfList_eq_ok_iff {rest : List Certificate} {pools : Pools} :
    Pools.ofList rest = .ok pools ↔
      AllReadable rest ∧ pools.anchors = anchorsOf rest ∧ pools.authorities = linksOf rest := by
  induction rest generalizing pools with
  | nil =>
    cases pools
    simp [Pools.ofList, AllReadable, anchorsOf, linksOf, eq_comm]
  | cons c r ih =>
    cases hc : c.isAuthority with
    | error f => simp [Pools.ofList, AllReadable, hc]
    | ok isAuthority =>
      have hread : AllReadable (c :: r) ↔ AllReadable r := by simp [AllReadable, hc]
      cases hr : Pools.ofList r with
      | error f =>
        have hn : ¬ AllReadable r := fun h => by
          simpa [hr] using (@ih ⟨anchorsOf r, linksOf r⟩).mpr ⟨h, rfl, rfl⟩
        simp [Pools.ofList, hc, hr, hread, hn]
      | ok p =>
        obtain ⟨hall, ha, hl⟩ := ih.mp hr
        obtain ⟨anchors, links⟩ := p
        simp only at ha hl
        subst ha hl
        rw [hread]
        obtain ⟨anchors, links⟩ := pools
        cases isAuthority <;> by_cases hs : c.isSelfIssued <;>
          simp [Pools.ofList, hc, hr, hall, anchorsOf, linksOf, IsAnchor, IsLink, hs, eq_comm]

theorem mem_anchorsOf {rest : List Certificate} {c : Certificate} :
    c ∈ anchorsOf rest ↔ c ∈ rest ∧ IsAnchor c := by
  simp [anchorsOf]

theorem mem_linksOf {rest : List Certificate} {c : Certificate} : c ∈ linksOf rest ↔ c ∈ rest ∧ IsLink c := by
  simp [linksOf]

theorem takeIssuer_eq_none_iff {c : Certificate} {l : List Certificate} :
    takeIssuer c l = .ok none ↔ ∀ b ∈ l, c.isIssuedBy b = .ok false := by
  induction l with
  | nil => simp [takeIssuer]
  | cons b r ih =>
    cases hb : c.isIssuedBy b with
    | error f => simp [takeIssuer, hb]
    | ok issued =>
      cases issued with
      | true => simp [takeIssuer, hb]
      | false =>
        simp only [takeIssuer, hb, List.mem_cons, forall_eq_or_imp, true_and, ← ih]
        rcases takeIssuer c r with _ | _ | ⟨d, others⟩ <;> simp

/-- The certificate that is taken is the first that issued `c`, and all others stay in order. -/
theorem takeIssuer_eq_some_iff {c a : Certificate} {l others : List Certificate} :
    takeIssuer c l = .ok (some (a, others)) ↔
      ∃ before behind, l = before ++ a :: behind ∧ others = before ++ behind ∧
        c.isIssuedBy a = .ok true ∧ ∀ b ∈ before, c.isIssuedBy b = .ok false := by
  induction l generalizing others with
  | nil => simp [takeIssuer]
  | cons b r ih =>
    constructor
    · intro h
      cases hb : c.isIssuedBy b with
      | error f => simp [takeIssuer, hb] at h
      | ok issued =>
        cases issued with
        | true =>
          simp only [takeIssuer, hb, Except.ok.injEq, Option.some.injEq, Prod.mk.injEq] at h
          obtain ⟨rfl, rfl⟩ := h
          exact ⟨[], r, rfl, rfl, hb, by simp⟩
        | false =>
          simp only [takeIssuer, hb] at h
          cases hr : takeIssuer c r with
          | error f => simp [hr] at h
          | ok found =>
            rcases found with _ | ⟨d, kept⟩
            · simp [hr] at h
            · simp only [hr, Except.ok.injEq, Option.some.injEq, Prod.mk.injEq] at h
              obtain ⟨rfl, rfl⟩ := h
              obtain ⟨before, behind, rfl, rfl, hd, hbefore⟩ := ih.mp hr
              exact ⟨b :: before, behind, rfl, rfl, hd, by simpa [hb] using hbefore⟩
    · rintro ⟨before, behind, hl, rfl, ha, hbefore⟩
      cases before with
      | nil =>
        obtain ⟨rfl, rfl⟩ : b = a ∧ r = behind := by simpa using hl
        simp [takeIssuer, ha]
      | cons d before =>
        obtain ⟨rfl, rfl⟩ : b = d ∧ r = before ++ a :: behind := by simpa using hl
        have hr := ih.mpr ⟨before, behind, rfl, rfl, ha, fun e he => hbefore e (by simp [he])⟩
        simp [takeIssuer, hbefore b (by simp), hr]

/-- The path of first choices, of so many steps from `c`, over authorities that it uses at most once. -/
inductive FirstPath (now : Instant) (anchors : List Certificate) :
    Nat → Certificate → List Certificate → Prop where
  | anchor {c a : Certificate} {before behind authorities : List Certificate} :
      anchors = before ++ a :: behind → (∀ b ∈ before, c.isIssuedBy b = .ok false) →
      c.isIssuedBy a = .ok true → IsValidAt a now → FirstPath now anchors 1 c authorities
  | step {steps : Nat} {c a : Certificate} {before behind : List Certificate} :
      (∀ b ∈ anchors, c.isIssuedBy b = .ok false) → (∀ b ∈ before, c.isIssuedBy b = .ok false) →
      c.isIssuedBy a = .ok true → IsValidAt a now → FirstPath now anchors steps a (before ++ behind) →
      FirstPath now anchors (steps + 1) c (before ++ a :: behind)

theorem FirstPath.trustPath {now : Instant} {anchors authorities : List Certificate} {steps : Nat}
    {c : Certificate} (h : FirstPath now anchors steps c authorities) :
    TrustPath now anchors steps c authorities := by
  induction h with
  | anchor hsplit _ hissued hvalid => exact .anchor (by simp [hsplit]) hissued hvalid
  | step _ _ hissued hvalid _ ih => exact .step hissued hvalid ih

/-- One step of the climb: an anchor that is valid ends it well, and where no anchor issued `c` it goes on from the
authority that is taken. -/
theorem climb_succ_eq_none_iff {now : Instant} {anchors unused : List Certificate} {steps : Nat} {c : Certificate} :
    climb anchors now (steps + 1) c unused = .ok none ↔
      (∃ a others, takeIssuer c anchors = .ok (some (a, others)) ∧ IsValidAt a now) ∨
      (takeIssuer c anchors = .ok none ∧ ∃ a others, takeIssuer c unused = .ok (some (a, others)) ∧
        IsValidAt a now ∧ climb anchors now steps a others = .ok none) := by
  cases hanchor : takeIssuer c anchors with
  | error f => simp [climb, hanchor]
  | ok found =>
    rcases found with _ | ⟨a, others⟩
    · cases hnext : takeIssuer c unused with
      | error f => simp [climb, hanchor, hnext]
      | ok found =>
        rcases found with _ | ⟨a, others⟩
        · simp [climb, hanchor, hnext]
        · cases hvalid : validityFailure? a now with
          | some failure => simp [climb, hanchor, hnext, hvalid, ← validityFailure?_eq_none_iff]
          | none => simp [climb, hanchor, hnext, hvalid, ← validityFailure?_eq_none_iff]
    · simp [climb, hanchor, ← validityFailure?_eq_none_iff]

/-- Climbing succeeds exactly where the path of first choices reaches an anchor in time. -/
theorem climb_eq_none_iff {now : Instant} {anchors unused : List Certificate} {steps : Nat} {c : Certificate} :
    climb anchors now steps c unused = .ok none ↔ ∃ k ≤ steps, FirstPath now anchors k c unused := by
  induction steps generalizing c unused with
  | zero =>
    simp only [climb, Except.ok.injEq, reduceCtorEq, Nat.le_zero_eq, exists_eq_left, false_iff]
    rintro ⟨⟩
  | succ steps ih =>
    rw [climb_succ_eq_none_iff]
    constructor
    · rintro (⟨a, others, htake, hvalid⟩ | ⟨hanchors, a, others, htake, hvalid, hclimb⟩)
      · obtain ⟨before, behind, hsplit, _, hissued, hbefore⟩ := takeIssuer_eq_some_iff.mp htake
        exact ⟨1, by omega, .anchor hsplit hbefore hissued hvalid⟩
      · obtain ⟨before, behind, rfl, rfl, hissued, hbefore⟩ := takeIssuer_eq_some_iff.mp htake
        obtain ⟨k, hk, hpath⟩ := ih.mp hclimb
        exact ⟨k + 1, by omega, .step (takeIssuer_eq_none_iff.mp hanchors) hbefore hissued hvalid hpath⟩
    · rintro ⟨k, hk, hpath⟩
      cases hpath with
      | anchor hsplit hbefore hissued hvalid =>
        exact .inl ⟨_, _, takeIssuer_eq_some_iff.mpr ⟨_, _, hsplit, rfl, hissued, hbefore⟩, hvalid⟩
      | @step k _ next before behind hanchors hbefore hissued hvalid hpath =>
        have hnext := takeIssuer_eq_some_iff.mpr ⟨before, behind, rfl, rfl, hissued, hbefore⟩
        exact .inr ⟨takeIssuer_eq_none_iff.mpr hanchors, next, _, hnext, hvalid, ih.mpr ⟨k, by omega, hpath⟩⟩

/-- Against certificates to verify against, the verdict on a leaf is good exactly where all extensions can be read,
the leaf is valid, and the path of first choices reaches an anchor within the limit. -/
theorem trustFailure_eq_none_iff {leaf : Certificate} {rest : List Certificate} {now : Instant} (hne : rest ≠ []) :
    trustFailure leaf rest now = .ok none ↔
      AllReadable rest ∧ IsValidAt leaf now ∧
        ∃ k ≤ maxSteps, FirstPath now (anchorsOf rest) k leaf (linksOf rest) := by
  have he : rest.isEmpty = false := by simpa using hne
  simp only [trustFailure, he, Bool.false_eq_true, ↓reduceIte]
  cases hpools : Pools.ofList rest with
  | error f =>
    have hn : ¬ AllReadable rest := fun h => by
      simpa [hpools] using (@poolsOfList_eq_ok_iff rest ⟨anchorsOf rest, linksOf rest⟩).mpr ⟨h, rfl, rfl⟩
    simp [hn]
  | ok pools =>
    obtain ⟨hall, ha, hl⟩ := poolsOfList_eq_ok_iff.mp hpools
    simp only [hall, true_and, ← validityFailure?_eq_none_iff]
    cases hleaf : validityFailure? leaf now with
    | some failure => simp
    | none => simp only [true_and, ha, hl, climb_eq_none_iff]

end CertInventory.Chain
