import CertInventory.Proofs.Chain.Search
import CertInventory.Proofs.Sample
import Mathlib.Data.List.Chain
import Mathlib.Data.List.FinRange
import Mathlib.Data.List.Perm.Subperm

/-!
Trust paths among the certificates behind a leaf. A leaf that passes has one (`exists_isTrustPath_of_trusted`). A
leaf that has one passes exactly when the search's own first choices make a path, and so at least when no
certificate of the path has a second authority that could have issued it (`trusted_iff_firstPath`); a renewed anchor
behind an aged one is enough to fail (`not_trusted_of_isTrustPath`).
-/

namespace CertInventory.Chain

open Time

/-- Authorities of `rest` that lead from a leaf, link by link, to a self-issued one: each certificate is issued by
the next, all of them are valid, and there are no more steps than the limit allows. -/
structure IsTrustPath (leaf : Certificate) (rest : List Certificate) (now : Instant)
    (links : List Certificate) (anchor : Certificate) : Prop where
  short : links.length + 1 ≤ maxSteps
  isLink : ∀ c ∈ links, c ∈ rest ∧ c.isAuthority = .ok true ∧ c.issuer ≠ c.subject
  isAnchor : anchor ∈ rest ∧ anchor.isAuthority = .ok true ∧ anchor.issuer = anchor.subject
  issued : (leaf :: (links ++ [anchor])).IsChain fun c d => c.issuer = d.subject ∧ c.isSignedBy d = .ok true
  valid : ∀ c ∈ leaf :: (links ++ [anchor]), c.notBefore ≤ now ∧ now ≤ c.notAfter

theorem isIssuedBy_eq_true_iff {c d : Certificate} :
    c.isIssuedBy d = .ok true ↔ c.issuer = d.subject ∧ c.isSignedBy d = .ok true := by
  by_cases h : c.issuer = d.subject <;> simp [Certificate.isIssuedBy, h]

/-- Certificates picked from a list, each at most once, have places of their own in it. -/
theorem exists_places {picked l : List Certificate} (h : picked.Subperm l) :
    ∃ places : List (Fin l.length), places.Nodup ∧ places.map l.get = picked := by
  obtain ⟨m, hperm, hsub⟩ := h
  rw [← List.map_get_finRange l, List.sublist_map_iff] at hsub
  obtain ⟨ordered, hordered, rfl⟩ := hsub
  have hcomp := congrFun₂ (List.eq_map_comp_perm l.get) picked ordered
  obtain ⟨places, rfl, hplaces⟩ := hcomp.mpr hperm.symm
  exact ⟨places, hplaces.nodup_iff.mpr ((List.nodup_finRange _).sublist hordered), rfl⟩

/-- A path over a pool of authorities shows its certificates, which the pool holds in places of their own. -/
theorem TrustPath.exists_links {now : Instant} {anchors authorities : List Certificate} {steps : Nat}
    {c : Certificate} (h : TrustPath now anchors steps c authorities) :
    ∃ links anchor, links.length + 1 = steps ∧ links.Subperm authorities ∧ anchor ∈ anchors ∧
      (c :: (links ++ [anchor])).IsChain (fun c d => c.issuer = d.subject ∧ c.isSignedBy d = .ok true) ∧
      ∀ d ∈ links ++ [anchor], IsValidAt d now := by
  induction h with
  | @anchor c a _ ha hissued hvalid =>
    refine ⟨[], a, rfl, List.nil_subperm, ha, ?_, by simpa using hvalid⟩
    simpa using isIssuedBy_eq_true_iff.mp hissued
  | @step steps c a before behind hissued hvalid _ ih =>
    obtain ⟨links, anchor, hlength, hsub, hanchor, hchain, hall⟩ := ih
    refine ⟨a :: links, anchor, by simp [hlength], ?_, hanchor, ?_, ?_⟩
    · exact ((List.subperm_cons a).mpr hsub).trans List.perm_middle.symm.subperm
    · simpa using ⟨isIssuedBy_eq_true_iff.mp hissued, hchain⟩
    · simpa using ⟨hvalid, by simpa using hall⟩

/-- A leaf that passes has a trust path, and its links stand at different places of the bundle. -/
theorem exists_isTrustPath_of_trusted {leaf : Certificate} {rest : List Certificate} {now : Instant}
    (hne : rest ≠ []) (h : trustFailure leaf rest now = .ok none) :
    ∃ links anchor, IsTrustPath leaf rest now links anchor ∧
      ∃ places : List (Fin rest.length), places.Nodup ∧ places.map rest.get = links := by
  obtain ⟨_, hleaf, steps, hsteps, hpath⟩ := (trustFailure_eq_none_iff hne).mp h
  obtain ⟨links, anchor, hlength, hsub, hanchor, hchain, hvalid⟩ := hpath.trustPath.exists_links
  have hlinks : ∀ c ∈ links, c ∈ rest ∧ IsLink c := fun c hc => mem_linksOf.mp (hsub.subset hc)
  obtain ⟨hmem, hauthority, hself⟩ := mem_anchorsOf.mp hanchor
  refine ⟨links, anchor, ⟨by omega, hlinks, ⟨hmem, hauthority, hself⟩, hchain, ?_⟩, ?_⟩
  · intro c hc
    rcases List.mem_cons.mp hc with rfl | hc
    · exact hleaf
    · exact hvalid c hc
  · exact exists_places (hsub.trans List.filter_sublist.subperm)

def sampleLeaf : Certificate := sampleCertificate "leaf" "middle" false (sampleTime 0) (sampleTime 9)

/-- An authority in the middle, and the same authority signed by one that it signed itself. -/
def sampleMiddle : Certificate := sampleCertificate "middle" "root" true (sampleTime 0) (sampleTime 9)

def sampleLoop : Certificate := sampleCertificate "root" "middle" true (sampleTime 0) (sampleTime 9)

/-- A root, the same root when its time is over, and the same root renewed. -/
def agedRoot : Certificate := sampleCertificate "root" "root" true (sampleTime 0) (sampleTime 4)

def freshRoot : Certificate := sampleCertificate "root" "root" true (sampleTime 3) (sampleTime 9)

theorem exists_isTrustPath_beside_loop :
    [sampleLoop, sampleMiddle, sampleMiddle, freshRoot] ≠ [] ∧
    trustFailure sampleLeaf [sampleLoop, sampleMiddle, sampleMiddle, freshRoot] (sampleTime 5) = .ok none ∧
    ∃ links anchor,
      IsTrustPath sampleLeaf [sampleLoop, sampleMiddle, sampleMiddle, freshRoot] (sampleTime 5) links anchor ∧
      ∃ places : List (Fin 4), places.Nodup ∧
        places.map [sampleLoop, sampleMiddle, sampleMiddle, freshRoot].get = links :=
  have hne : [sampleLoop, sampleMiddle, sampleMiddle, freshRoot] ≠ [] := by simp
  have h : trustFailure sampleLeaf [sampleLoop, sampleMiddle, sampleMiddle, freshRoot] (sampleTime 5) = .ok none := by
    decide
  ⟨hne, h, exists_isTrustPath_of_trusted hne h⟩

/-- Among the authorities of `rest` only `d` can have issued `c`. -/
def IsOnlyIssuer (rest : List Certificate) (c d : Certificate) : Prop :=
  ∀ e ∈ rest, e.isAuthority = .ok true → e = d ∨ c.isIssuedBy e = .ok false

/-- Where every certificate has one possible issuer, the path of first choices is the only path. -/
theorem firstPath_of_onlyIssuers {rest links unused : List Certificate} {now : Instant} {c anchor : Certificate}
    (hdistinct : links.Nodup) (hlinks : ∀ d ∈ links, d ∈ unused) (hunused : ∀ d ∈ unused, d ∈ linksOf rest)
    (hanchor : anchor ∈ anchorsOf rest)
    (hissued : (c :: (links ++ [anchor])).IsChain fun c d => c.isIssuedBy d = .ok true)
    (honly : (c :: (links ++ [anchor])).IsChain (IsOnlyIssuer rest))
    (hvalid : ∀ d ∈ links ++ [anchor], IsValidAt d now) :
    FirstPath now (anchorsOf rest) (links.length + 1) c unused := by
  induction links generalizing c unused with
  | nil =>
    simp only [List.nil_append, List.isChain_pair] at hissued honly
    obtain ⟨before, behind, hsplit, hnotin⟩ := List.eq_append_cons_of_mem hanchor
    refine .anchor hsplit ?_ hissued (hvalid anchor (by simp))
    intro b hb
    obtain ⟨hrest, hauthority, _⟩ := mem_anchorsOf.mp (show b ∈ anchorsOf rest by simp [hsplit, hb])
    exact (honly b hrest hauthority).resolve_left fun he => hnotin (he ▸ hb)
  | cons d links ih =>
    simp only [List.cons_append, List.isChain_cons_cons] at hissued honly
    obtain ⟨hd, hdistinct⟩ := List.nodup_cons.mp hdistinct
    have hdlink := (mem_linksOf.mp (hunused d (hlinks d (by simp)))).2
    obtain ⟨before, behind, rfl, hnotin⟩ := List.eq_append_cons_of_mem (hlinks d (by simp))
    refine .step ?_ ?_ hissued.1 (hvalid d (by simp)) (ih hdistinct ?_ ?_ hissued.2 honly.2 ?_)
    · intro b hb
      obtain ⟨hrest, hauthority, hself⟩ := mem_anchorsOf.mp hb
      exact (honly.1 b hrest hauthority).resolve_left fun he => hdlink.2 (he ▸ hself)
    · intro b hb
      obtain ⟨hrest, hauthority, _⟩ := mem_linksOf.mp (hunused b (by simp [hb]))
      exact (honly.1 b hrest hauthority).resolve_left fun he => hnotin (he ▸ hb)
    · intro e he
      have hne : e ≠ d := fun h => hd (h ▸ he)
      simpa [hne] using hlinks e (by simp [he])
    · intro e he
      rcases List.mem_append.mp he with he | he
      · exact hunused e (by simp [he])
      · exact hunused e (by simp [he])
    · exact fun e he => hvalid e (by simpa using Or.inr (by simpa using he))

/-- A leaf with a trust path passes exactly when the path of first choices reaches an anchor. It does where every
certificate of the trust path has the next one as its only possible issuer. -/
theorem trusted_iff_firstPath {leaf : Certificate} {rest links : List Certificate} {now : Instant}
    {anchor : Certificate} (hread : AllReadable rest) (hpath : IsTrustPath leaf rest now links anchor)
    (hdistinct : links.Nodup) :
    (trustFailure leaf rest now = .ok none ↔
      ∃ k ≤ maxSteps, FirstPath now (anchorsOf rest) k leaf (linksOf rest)) ∧
    ((leaf :: (links ++ [anchor])).IsChain (IsOnlyIssuer rest) → trustFailure leaf rest now = .ok none) := by
  have hne : rest ≠ [] := List.ne_nil_of_mem hpath.isAnchor.1
  have hleaf : IsValidAt leaf now := hpath.valid leaf (by simp)
  have hiff : trustFailure leaf rest now = .ok none ↔
      ∃ k ≤ maxSteps, FirstPath now (anchorsOf rest) k leaf (linksOf rest) := by
    rw [trustFailure_eq_none_iff hne]
    exact ⟨fun h => h.2.2, fun h => ⟨hread, hleaf, h⟩⟩
  refine ⟨hiff, fun honly => hiff.mpr ⟨links.length + 1, hpath.short, ?_⟩⟩
  apply firstPath_of_onlyIssuers hdistinct _ (fun _ h => h) (mem_anchorsOf.mpr hpath.isAnchor) _ honly
  · exact fun d hd => hpath.valid d (List.mem_cons_of_mem _ hd)
  · exact fun d hd => mem_linksOf.mpr (hpath.isLink d hd)
  · exact hpath.issued.imp fun _ _ h => isIssuedBy_eq_true_iff.mpr h

theorem sample_isTrustPath {rest : List Certificate} (hmiddle : sampleMiddle ∈ rest) (hroot : freshRoot ∈ rest) :
    IsTrustPath sampleLeaf rest (sampleTime 5) [sampleMiddle] freshRoot where
  short := by decide
  isLink := by simpa using ⟨hmiddle, by decide, by decide⟩
  isAnchor := ⟨hroot, by decide, by decide⟩
  issued := by
    simp only [List.cons_append, List.nil_append, List.isChain_cons_cons, List.isChain_singleton, and_true]
    decide
  valid := by decide

theorem trusted_of_sample_path :
    AllReadable [freshRoot, sampleMiddle] ∧
    IsTrustPath sampleLeaf [freshRoot, sampleMiddle] (sampleTime 5) [sampleMiddle] freshRoot ∧
    [sampleMiddle].Nodup ∧ trustFailure sampleLeaf [freshRoot, sampleMiddle] (sampleTime 5) = .ok none :=
  have hread : AllReadable [freshRoot, sampleMiddle] := by
    simp only [AllReadable, List.forall_mem_cons, List.not_mem_nil, false_implies, implies_true, and_true]
    exact ⟨⟨true, rfl⟩, ⟨true, rfl⟩⟩
  have hpath : IsTrustPath sampleLeaf [freshRoot, sampleMiddle] (sampleTime 5) [sampleMiddle] freshRoot :=
    sample_isTrustPath (by simp) (by simp)
  have hdistinct : [sampleMiddle].Nodup := List.nodup_singleton _
  have hleaf : IsOnlyIssuer [freshRoot, sampleMiddle] sampleLeaf sampleMiddle := by
    intro e he _
    rcases show e = freshRoot ∨ e = sampleMiddle by simpa using he with rfl | rfl
    · exact .inr (by decide)
    · exact .inl rfl
  have hmiddle : IsOnlyIssuer [freshRoot, sampleMiddle] sampleMiddle freshRoot := by
    intro e he _
    rcases show e = freshRoot ∨ e = sampleMiddle by simpa using he with rfl | rfl
    · exact .inl rfl
    · exact .inr (by decide)
  have honly : [sampleLeaf, sampleMiddle, freshRoot].IsChain (IsOnlyIssuer [freshRoot, sampleMiddle]) := by
    simpa using ⟨hleaf, hmiddle⟩
  ⟨hread, hpath, hdistinct, (trusted_iff_firstPath hread hpath hdistinct).2 honly⟩

/-- A leaf with a trust path may fail: an aged anchor in front of its renewal decides. -/
theorem not_trusted_of_isTrustPath :
    ¬ ∀ (leaf : Certificate) (rest links : List Certificate) (now : Instant) (anchor : Certificate),
      AllReadable rest → IsTrustPath leaf rest now links anchor → links.Nodup →
      trustFailure leaf rest now = .ok none := by
  intro h
  have hread : AllReadable [agedRoot, freshRoot, sampleMiddle] := by
    simp only [AllReadable, List.forall_mem_cons, List.not_mem_nil, false_implies, implies_true, and_true]
    exact ⟨⟨true, rfl⟩, ⟨true, rfl⟩, ⟨true, rfl⟩⟩
  have htrusted := h sampleLeaf _ [sampleMiddle] (sampleTime 5) freshRoot hread
    (sample_isTrustPath (by simp) (by simp)) (List.nodup_singleton _)
  have hfailure : trustFailure sampleLeaf [agedRoot, freshRoot, sampleMiddle] (sampleTime 5) =
      .ok (some (.expired (sampleTime 5) (sampleTime 4))) := by decide
  simp [hfailure] at htrusted

end CertInventory.Chain
