import CertInventory.Chain.Defect
import CertInventory.Proofs.Chain.TrustPath

/-!
Well-formed chains of any length. Where the names of a chain all differ, every certificate has one issuer among the
others, so the search climbs the chain as it was made, in whatever order the others are given. The limit is met
exactly: an anchor is looked for before each step, so `maxSteps` steps lead over `maxSteps - 1` certificates in the
middle and over no more.
-/

namespace CertInventory.Chain

open Time

/-- A leaf, certificates in the middle and a root, each issued and signed by the next. Those above the leaf are
authorities, so that their extensions can be read, the root names itself as its issuer, no two have one subject, and
all are valid. -/
structure IsWellFormed (leaf : Certificate) (middle : List Certificate) (root : Certificate) (now : Instant) : Prop where
  distinct : ((leaf :: (middle ++ [root])).map Certificate.subject).Nodup
  authority : ∀ c ∈ middle ++ [root], c.isAuthority = .ok true
  selfIssued : root.issuer = root.subject
  issued : (leaf :: (middle ++ [root])).IsChain fun c d => c.issuer = d.subject ∧ c.isSignedBy d = .ok true
  valid : ∀ c ∈ leaf :: (middle ++ [root]), c.notBefore ≤ now ∧ now ≤ c.notAfter

section Climb

variable {now : Instant} {c a root : Certificate} {middle unused : List Certificate}

theorem isIssuedBy_eq_false_of_ne (h : c.issuer ≠ a.subject) : c.isIssuedBy a = .ok false := if_neg h

/-- Among certificates of different subjects the issuer is taken, wherever it stands. -/
theorem exists_takeIssuer_of_mem (hdistinct : (unused.map Certificate.subject).Nodup) (ha : a ∈ unused)
    (hissued : c.isIssuedBy a = .ok true) :
    ∃ others, takeIssuer c unused = .ok (some (a, others)) ∧ unused.Perm (a :: others) := by
  obtain ⟨before, behind, rfl⟩ := List.append_of_mem ha
  have hname : c.issuer = a.subject := (isIssuedBy_eq_true_iff.mp hissued).1
  have hbefore : ∀ b ∈ before, c.isIssuedBy b = .ok false := by
    intro b hb
    apply isIssuedBy_eq_false_of_ne
    rw [List.map_append, List.map_cons] at hdistinct
    have hne := List.disjoint_of_nodup_append hdistinct (List.mem_map_of_mem hb)
    intro h
    exact hne (by rw [← h, hname]; exact List.mem_cons_self)
  exact ⟨before ++ behind, takeIssuer_eq_some_iff.mpr ⟨before, behind, rfl, rfl, hissued, hbefore⟩, List.perm_middle⟩

/-- One step of the climb: no anchor issued `c`, so it goes on from the issuer among the unused. -/
theorem climb_of_issuer {anchors others : List Certificate} {steps : Nat}
    (hanchors : takeIssuer c anchors = .ok none) (htake : takeIssuer c unused = .ok (some (a, others)))
    (hvalid : IsValidAt a now) :
    climb anchors now (steps + 1) c unused = climb anchors now steps a others := by
  simp only [climb, hanchors, htake, validityFailure?_eq_none_iff.mpr hvalid]

/-- The climb over a chain of different subjects reaches the root exactly where the steps suffice. -/
theorem climb_of_distinct {steps : Nat} (hunused : unused.Perm middle)
    (hdistinct : ((middle ++ [root]).map Certificate.subject).Nodup)
    (hissued : (c :: (middle ++ [root])).IsChain fun c d => c.isIssuedBy d = .ok true)
    (hvalid : ∀ d ∈ middle ++ [root], IsValidAt d now) :
    climb [root] now steps c unused = .ok (if middle.length < steps then none else some .tooLong) := by
  induction middle generalizing c unused steps with
  | nil =>
    cases steps with
    | zero => rfl
    | succ steps =>
      have hroot : c.isIssuedBy root = .ok true := by simpa using hissued
      have htake : takeIssuer c [root] = .ok (some (root, [])) :=
        takeIssuer_eq_some_iff.mpr ⟨[], [], rfl, rfl, hroot, by simp⟩
      simp [climb, htake, validityFailure?_eq_none_iff.mpr (hvalid root (by simp))]
  | cons d middle ih =>
    cases steps with
    | zero => rfl
    | succ steps =>
      rw [List.cons_append, List.isChain_cons_cons] at hissued
      obtain ⟨hd, hissued⟩ := hissued
      have hanchors : takeIssuer c [root] = .ok none := by
        rw [takeIssuer_eq_none_iff, List.forall_mem_singleton]
        apply isIssuedBy_eq_false_of_ne
        rw [(isIssuedBy_eq_true_iff.mp hd).1]
        intro h
        simp [h] at hdistinct
      have hsubjects : (unused.map Certificate.subject).Nodup := by
        rw [List.map_append] at hdistinct
        exact (hunused.map _).nodup_iff.mpr hdistinct.of_append_left
      obtain ⟨others, htake, hothers⟩ :=
        exists_takeIssuer_of_mem hsubjects (hunused.mem_iff.mpr List.mem_cons_self) hd
      have hrest : others.Perm middle := (List.perm_cons d).mp (hothers.symm.trans hunused)
      rw [climb_of_issuer hanchors htake (hvalid d List.mem_cons_self),
        ih hrest hdistinct.of_cons hissued fun e he => hvalid e (List.mem_cons_of_mem d he)]
      simp only [List.length_cons, Nat.add_lt_add_iff_right]

end Climb

/-- Of a readable bundle and a valid leaf the climb alone decides. -/
theorem trustFailure_eq_climb {leaf : Certificate} {rest : List Certificate} {now : Instant} (hne : rest ≠ [])
    (hread : AllReadable rest) (hleaf : IsValidAt leaf now) :
    trustFailure leaf rest now = climb (anchorsOf rest) now maxSteps leaf (linksOf rest) := by
  have hpools : Pools.ofList rest = .ok ⟨anchorsOf rest, linksOf rest⟩ :=
    poolsOfList_eq_ok_iff.mpr ⟨hread, rfl, rfl⟩
  have he : rest.isEmpty = false := by simpa using hne
  simp only [trustFailure, he, Bool.false_eq_true, ↓reduceIte, hpools, validityFailure?_eq_none_iff.mpr hleaf]

/-- A chain is in order exactly where every certificate names the next as its issuer. -/
theorem misorderedAt?_eq_none_iff {chain : List Certificate} :
    misorderedAt? chain = none ↔ chain.IsChain fun c d => c.issuer = d.subject := by
  induction chain with
  | nil => simp [misorderedAt?]
  | cons c r ih =>
    cases r with
    | nil => simp [misorderedAt?]
    | cons d r =>
      rw [List.isChain_cons_cons, ← ih, misorderedAt?]
      by_cases h : c.issuer = d.subject
      · simp [h]
      · simp [h]

theorem validityDefects_eq_nil_iff {c : Certificate} {now : Instant} :
    validityDefects now c = [] ↔ IsValidAt c now := by
  rw [← validityFailure?_eq_none_iff]
  unfold validityDefects validityFailure?
  by_cases hexpired : c.notAfter < now
  · simp [hexpired]
  · by_cases hfuture : now < c.notBefore
    · simp [hexpired, hfuture]
    · simp [hexpired, hfuture]

namespace IsWellFormed

variable {leaf root : Certificate} {middle rest : List Certificate} {now : Instant}

theorem above (h : IsWellFormed leaf middle root now) : ((middle ++ [root]).map Certificate.subject).Nodup :=
  h.distinct.of_cons

/-- Below the root every certificate names another one as its issuer. -/
theorem not_isSelfIssued (h : IsWellFormed leaf middle root now) : ∀ c ∈ leaf :: middle, ¬ c.isSelfIssued := by
  intro c hc
  obtain ⟨before, behind, hsplit⟩ := List.append_of_mem hc
  have hwhole : leaf :: (middle ++ [root]) = before ++ c :: (behind ++ [root]) := by
    rw [← List.cons_append, hsplit, List.append_assoc, List.cons_append]
  obtain ⟨d, above, habove⟩ : ∃ d above, behind ++ [root] = d :: above := by
    cases behind with
    | nil => exact ⟨root, [], rfl⟩
    | cons d behind => exact ⟨d, behind ++ [root], rfl⟩
  rw [habove] at hwhole
  have hissuer : c.issuer = d.subject := by
    have hchain := h.issued
    rw [hwhole, List.isChain_append_cons_cons] at hchain
    exact hchain.2.1.1
  have hdistinct := h.distinct
  rw [hwhole, List.map_append, List.map_cons, List.map_cons] at hdistinct
  intro hself
  have hrepeated : d.subject = c.subject := hissuer.symm.trans hself
  rw [hrepeated] at hdistinct
  exact (List.nodup_cons.mp hdistinct.of_append_right).1 List.mem_cons_self

/-- In any order of the certificates above the leaf, the root is the one anchor. -/
theorem anchorsOf_eq (h : IsWellFormed leaf middle root now) (hperm : rest.Perm (middle ++ [root])) :
    anchorsOf rest = [root] := by
  have hroot : IsAnchor root := ⟨h.authority root (by simp), h.selfIssued⟩
  have hmiddle : anchorsOf middle = [] := by
    unfold anchorsOf
    rw [List.filter_eq_nil_iff]
    intro c hc hanchor
    exact h.not_isSelfIssued c (List.mem_cons_of_mem leaf hc) (of_decide_eq_true hanchor).2
  have hanchors : (anchorsOf rest).Perm (anchorsOf (middle ++ [root])) := hperm.filter _
  have hwhole : anchorsOf (middle ++ [root]) = anchorsOf middle ++ anchorsOf [root] := List.filter_append ..
  rw [hwhole, hmiddle, List.nil_append] at hanchors
  have hsingle : anchorsOf [root] = [root] := by simp [anchorsOf, hroot]
  exact List.perm_singleton.mp (hsingle ▸ hanchors)

/-- In any order of the certificates above the leaf, those in the middle are the other authorities. -/
theorem linksOf_perm (h : IsWellFormed leaf middle root now) (hperm : rest.Perm (middle ++ [root])) :
    (linksOf rest).Perm middle := by
  have hroot : ¬ IsLink root := fun hlink => hlink.2 h.selfIssued
  have hmiddle : linksOf middle = middle := by
    unfold linksOf
    rw [List.filter_eq_self]
    intro c hc
    have hauthority : c.isAuthority = .ok true := h.authority c (List.mem_append_left _ hc)
    exact decide_eq_true ⟨hauthority, h.not_isSelfIssued c (List.mem_cons_of_mem leaf hc)⟩
  have hlinks : (linksOf rest).Perm (linksOf (middle ++ [root])) := hperm.filter _
  have hwhole : linksOf (middle ++ [root]) = linksOf middle ++ linksOf [root] := List.filter_append ..
  have hsingle : linksOf [root] = [] := by simp [linksOf, hroot]
  rw [hwhole, hmiddle, hsingle, List.append_nil] at hlinks
  exact hlinks

/-- In any order of the certificates above the leaf, their number alone decides. -/
theorem trustFailure_eq (h : IsWellFormed leaf middle root now) (hperm : rest.Perm (middle ++ [root])) :
    trustFailure leaf rest now = .ok (if middle.length < maxSteps then none else some .tooLong) := by
  have hne : rest ≠ [] := by
    rintro rfl
    simpa using hperm.length_eq
  have hread : AllReadable rest := fun c hc => ⟨true, h.authority c (hperm.mem_iff.mp hc)⟩
  rw [trustFailure_eq_climb hne hread (h.valid leaf List.mem_cons_self), h.anchorsOf_eq hperm]
  apply climb_of_distinct (h.linksOf_perm hperm) h.above
  · exact h.issued.imp fun c d hcd => isIssuedBy_eq_true_iff.mpr hcd
  · exact fun d hd => h.valid d (List.mem_cons_of_mem leaf hd)

/-- Apart from a chain that is too long nothing is wrong with it. -/
theorem defects_eq (h : IsWellFormed leaf middle root now) {hostname : String}
    (hname : hostname = "" ∨ leaf.covers hostname = .ok true) :
    defects (leaf :: (middle ++ [root])) hostname now =
      .ok (if middle.length < maxSteps then [] else [.untrusted .tooLong]) := by
  have hleaf : leafDefects leaf = .ok [] := by
    simp [leafDefects, Certificate.isSelfSigned, h.not_isSelfIssued leaf List.mem_cons_self]
  have htimes : (middle ++ [root]).flatMap (validityDefects now) = [] := by
    rw [List.flatMap_eq_nil_iff]
    intro c hc
    exact validityDefects_eq_nil_iff.mpr (h.valid c (List.mem_cons_of_mem leaf hc))
  have horder : misorderedAt? (leaf :: (middle ++ [root])) = none :=
    misorderedAt?_eq_none_iff.mpr (h.issued.imp fun _ _ hcd => hcd.1)
  have hhost : hostnameDefects leaf hostname = .ok [] := by
    unfold hostnameDefects
    rcases hname with rfl | hcovers
    · rfl
    · rw [hcovers]
      split <;> rfl
  simp only [defects, hleaf, h.trustFailure_eq (List.Perm.refl _), hhost, htimes, horder]
  by_cases hshort : middle.length < maxSteps
  · simp only [hshort, ↓reduceIte]; rfl
  · simp only [hshort, ↓reduceIte]; rfl

end IsWellFormed

/-- A well-formed chain verifies, in any order of the certificates above its leaf, with no more than nine of them in
the middle, and is too long with more; its checks find nothing else, whatever host name it covers. -/
theorem verdict_of_wellFormed {leaf root : Certificate} {middle : List Certificate} {now : Instant}
    (h : IsWellFormed leaf middle root now) :
    (∀ rest, rest.Perm (middle ++ [root]) →
      (trustFailure leaf rest now).map (fun reason => reason.elim "" TrustFailure.message) =
        .ok (if middle.length ≤ maxSteps - 1 then "" else "certificate chain too long")) ∧
    ∀ hostname, hostname = "" ∨ leaf.covers hostname = .ok true →
      (defects (leaf :: (middle ++ [root])) hostname now).map (List.map Defect.message) =
        .ok (if middle.length ≤ maxSteps - 1 then []
          else ["chain verification failed: certificate chain too long"]) := by
  have hlimit : middle.length ≤ maxSteps - 1 ↔ middle.length < maxSteps :=
    Nat.le_pred_iff_lt (show 0 < maxSteps by decide)
  simp only [hlimit]
  refine ⟨fun rest hperm => ?_, fun hostname hname => ?_⟩
  · rw [h.trustFailure_eq hperm]
    split <;> rfl
  · rw [h.defects_eq hname]
    split <;> rfl

/-- A floor of a tower of that height: the floor above it is its issuer, and the top floor is its own. -/
def floor (height level : Nat) : Certificate :=
  let name (n : Nat) : String := String.ofList (List.replicate n 'i')
  { sampleCertificate (name level) (name (min (level + 1) height)) true (sampleTime 0) (sampleTime 9) with
    extensions := .ok ⟨true, none, none, [.dns "edge"], [], []⟩ }

def floorsBetween (count : Nat) : List Certificate := (List.range count).map fun k => floor (count + 1) (k + 1)

theorem floors_eq (count : Nat) :
    floor (count + 1) 0 :: (floorsBetween count ++ [floor (count + 1) (count + 1)]) =
      (List.range (count + 2)).map (floor (count + 1)) := by
  rw [List.range_succ, List.range_succ_eq_map]
  simp [floorsBetween]

/-- There are well-formed chains of every length. -/
theorem isWellFormed_floors (count : Nat) :
    IsWellFormed (floor (count + 1) 0) (floorsBetween count) (floor (count + 1) (count + 1)) (sampleTime 5) where
  distinct := by
    rw [floors_eq, List.map_map]
    apply List.nodup_range.map
    intro j k h
    have hname : String.ofList (List.replicate j 'i') = String.ofList (List.replicate k 'i') := by
      simpa [floor, sampleCertificate, Name.ofCommonName] using h
    simpa using congrArg String.length hname
  authority := by
    intro c hc
    rw [floorsBetween, List.mem_append, List.mem_map, List.mem_singleton] at hc
    rcases hc with ⟨k, _, rfl⟩ | rfl
    · rfl
    · rfl
  selfIssued := by simp [floor, sampleCertificate]
  issued := by
    rw [floors_eq, List.isChain_iff_getElem]
    intro k hk
    rw [List.length_map, List.length_range] at hk
    have habove : min (k + 1) (count + 1) = k + 1 := by omega
    simp [floor, sampleCertificate, Certificate.isSignedBy, habove]
  valid := by
    rw [floors_eq, List.forall_mem_map]
    exact fun k _ => ⟨show sampleTime 0 ≤ sampleTime 5 by decide, show sampleTime 5 ≤ sampleTime 9 by decide⟩

theorem verdict_of_nine_and_of_ten_floors :
    IsWellFormed (floor 10 0) (floorsBetween 9) (floor 10 10) (sampleTime 5) ∧
    IsWellFormed (floor 11 0) (floorsBetween 10) (floor 11 11) (sampleTime 5) ∧
    (floor 11 0).covers "edge" = .ok true ∧
    (trustFailure (floor 10 0) (floorsBetween 9 ++ [floor 10 10]).reverse (sampleTime 5)).map
      (fun reason => reason.elim "" TrustFailure.message) = .ok "" ∧
    (trustFailure (floor 11 0) (floorsBetween 10 ++ [floor 11 11]).reverse (sampleTime 5)).map
      (fun reason => reason.elim "" TrustFailure.message) = .ok "certificate chain too long" ∧
    (defects (floor 11 0 :: (floorsBetween 10 ++ [floor 11 11])) "edge" (sampleTime 5)).map (List.map Defect.message) =
      .ok ["chain verification failed: certificate chain too long"] :=
  have hnine := isWellFormed_floors 9
  have hten := isWellFormed_floors 10
  have hcovers : (floor 11 0).covers "edge" = .ok true := by decide
  ⟨hnine, hten, hcovers, (verdict_of_wellFormed hnine).1 _ (List.reverse_perm _),
    (verdict_of_wellFormed hten).1 _ (List.reverse_perm _), (verdict_of_wellFormed hten).2 "edge" (.inr hcovers)⟩

end CertInventory.Chain
