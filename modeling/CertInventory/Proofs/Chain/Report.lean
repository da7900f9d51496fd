import CertInventory.Chain.Moment
import CertInventory.Proofs.Chain.Decoding
import CertInventory.Proofs.Chain.WellFormed
import Mathlib.Order.Bounds.Basic

/-!
What the checks of a chain report. A report has a part for each check, and `Report.IsOf` says what each part holds
without a look at the others, so that no defect hides another. Only the search for a trust path breaks the checks off,
at an issuer whose kind of key is unknown; then there is no report, whatever else is wrong with the chain.
-/

namespace CertInventory.Chain

open Time

/-- The entries of a report, by the checks that they come from. -/
structure Report where
  ofLeaf : List String
  ofTimes : List String
  ofOrder : List String
  ofTrust : List String
  ofHostname : List String

def Report.messages (r : Report) : List String := r.ofLeaf ++ r.ofTimes ++ r.ofOrder ++ r.ofTrust ++ r.ofHostname

def lateness (now : Instant) (c : Certificate) : String :=
  (if c.notAfter < now then "intermediate expired: " else "intermediate not yet valid: ") ++ c.subject.shortText

/-- The certificate at a position names another issuer than the one behind it. -/
def IsBreak (chain : List Certificate) (position : Nat) : Prop :=
  ∃ c d, chain[position]? = some c ∧ chain[position + 1]? = some d ∧ c.issuer ≠ d.subject

/-- The entries of a check that tells of one thing at most: they name it, or there is none. -/
def TellsOfOne {α : Type} (found : α → Prop) (message : α → String) (entries : List String) : Prop :=
  (∃ a, found a ∧ entries = [message a]) ∨ (∀ a, ¬ found a) ∧ entries = []

/-- The report of a chain: each part by its own condition. -/
structure Report.IsOf (r : Report) (leaf : Certificate) (rest : List Certificate) (hostname : String) (now : Instant) :
    Prop where
  ofLeaf : r.ofLeaf =
    if leaf.isSelfSigned = .ok true ∧ leaf.isAuthority = .ok false then ["leaf certificate is self-signed"] else []
  ofTimes : r.ofTimes = (rest.filter fun c => ¬ IsValidAt c now).map (lateness now)
  ofOrder : TellsOfOne (IsLeast {position | IsBreak (leaf :: rest) position})
    (fun position => "chain misordered at position " ++ Text.showNat position) r.ofOrder
  ofTrust : TellsOfOne (fun reason => rest ≠ [] ∧ trustFailure leaf rest now = .ok (some reason))
    (fun reason => "chain verification failed: " ++ reason.message) r.ofTrust
  ofHostname : r.ofHostname =
    if hostname ≠ "" ∧ leaf.covers hostname = .ok false then
      ["certificate does not cover hostname \"" ++ hostname ++ "\""]
    else []

section Parts

variable {leaf c : Certificate} {chain rest : List Certificate} {now : Instant} {position : Nat}

theorem isBreak_cons_succ : IsBreak (c :: chain) (position + 1) ↔ IsBreak chain position := Iff.rfl

theorem not_isBreak_of_isChain (h : chain.IsChain fun c d => c.issuer = d.subject) : ¬ IsBreak chain position := by
  rintro ⟨c, d, hc, hd, hne⟩
  obtain ⟨hposition, rfl⟩ := List.getElem?_eq_some_iff.mp hd
  obtain ⟨_, rfl⟩ := List.getElem?_eq_some_iff.mp hc
  exact hne (h.getElem position hposition)

theorem isLeast_of_misorderedAt? (h : misorderedAt? chain = some position) :
    IsLeast {position | IsBreak chain position} position := by
  induction chain generalizing position with
  | nil => cases h
  | cons c r ih =>
    cases r with
    | nil => cases h
    | cons d r =>
      rw [misorderedAt?] at h
      split_ifs at h with hname
      · obtain ⟨before, hbefore, rfl⟩ := Option.map_eq_some_iff.mp h
        obtain ⟨hbreak, hleast⟩ := ih hbefore
        refine ⟨isBreak_cons_succ.mpr hbreak, fun other hother => ?_⟩
        cases other with
        | zero =>
          obtain ⟨_, _, hc, hd, hne⟩ := hother
          cases hc
          cases hd
          exact absurd hname hne
        | succ other => exact Nat.succ_le_succ (hleast (isBreak_cons_succ.mp hother))
      · cases h
        exact ⟨⟨c, d, rfl, rfl, hname⟩, fun _ _ => Nat.zero_le _⟩

theorem tellsOfOne_order (chain : List Certificate) :
    TellsOfOne (IsLeast {position | IsBreak chain position})
      (fun position => "chain misordered at position " ++ Text.showNat position)
      (((misorderedAt? chain).map Defect.misordered).toList.map Defect.message) := by
  cases h : misorderedAt? chain with
  | none => exact .inr ⟨fun _ hleast => not_isBreak_of_isChain (misorderedAt?_eq_none_iff.mp h) hleast.1, rfl⟩
  | some position => exact .inl ⟨position, isLeast_of_misorderedAt? h, rfl⟩

theorem tellsOfOne_trust {reason : Option TrustFailure} (h : trustFailure leaf rest now = .ok reason) :
    TellsOfOne (fun reason => rest ≠ [] ∧ trustFailure leaf rest now = .ok (some reason))
      (fun reason => "chain verification failed: " ++ reason.message)
      ((reason.map Defect.untrusted).toList.map Defect.message) := by
  cases reason with
  | none =>
    refine .inr ⟨fun reason hreason => ?_, rfl⟩
    cases h.symm.trans hreason.2
  | some reason =>
    refine .inl ⟨reason, ⟨?_, h⟩, rfl⟩
    rintro rfl
    cases h

/-- Behind the leaf each certificate that is not valid has its one entry, in order. -/
theorem map_message_validityDefects (now : Instant) (rest : List Certificate) :
    (rest.flatMap (validityDefects now)).map Defect.message =
      (rest.filter fun c => ¬ IsValidAt c now).map (lateness now) := by
  induction rest with
  | nil => rfl
  | cons c r ih =>
    rw [List.flatMap_cons, List.map_append, ih]
    by_cases hvalid : IsValidAt c now
    · rw [validityDefects_eq_nil_iff.mpr hvalid, List.filter_cons_of_neg (by simp [hvalid])]
      rfl
    · rw [List.filter_cons_of_pos (by simp [hvalid]), List.map_cons]
      have hne := mt validityDefects_eq_nil_iff.mp hvalid
      unfold validityDefects at hne ⊢
      unfold lateness
      split_ifs at hne ⊢ with hexpired hfuture
      · rfl
      · rfl
      · exact absurd rfl hne

variable {e : Extensions}

theorem exists_leafDefects (h : leaf.extensions = .ok e) :
    ∃ ds, leafDefects leaf = .ok ds ∧ ds.map Defect.message =
      if leaf.isSelfSigned = .ok true ∧ leaf.isAuthority = .ok false then ["leaf certificate is self-signed"]
      else [] := by
  obtain ⟨b, hself⟩ := Certificate.exists_isSelfSigned h
  have hauthority : leaf.isAuthority = .ok e.authority := congrArg (Except.map Extensions.authority) h
  rw [leafDefects, hself, hauthority]
  cases b with
  | false => exact ⟨[], rfl, rfl⟩
  | true => cases e.authority <;> exact ⟨_, rfl, rfl⟩

theorem exists_hostnameDefects (h : leaf.extensions = .ok e) (hostname : String) :
    ∃ ds, hostnameDefects leaf hostname = .ok ds ∧ ds.map Defect.message =
      if hostname ≠ "" ∧ leaf.covers hostname = .ok false then
        ["certificate does not cover hostname \"" ++ hostname ++ "\""]
      else [] := by
  obtain ⟨b, hcovers⟩ := Certificate.exists_covers h hostname
  rw [hostnameDefects, hcovers]
  by_cases hempty : hostname = ""
  · subst hempty
    exact ⟨[], rfl, rfl⟩
  · have hasked : ¬ hostname.isEmpty = true := by simpa using hempty
    rw [if_neg hasked]
    cases b with
    | true =>
      refine ⟨[], rfl, (if_neg ?_).symm⟩
      rintro ⟨_, h⟩
      cases h
    | false => exact ⟨[.uncoveredHostname hostname], rfl, (if_pos ⟨hempty, rfl⟩).symm⟩

end Parts

section Whole

variable {leaf : Certificate} {rest : List Certificate} {now : Instant} {d : DecodeFault} {e : Extensions}

/-- Where the search for a trust path comes to its end, there is a report. -/
theorem exists_report (hleaf : leaf.extensions = .ok e) (hostname : String) {reason : Option TrustFailure}
    (htrust : trustFailure leaf rest now = .ok reason) :
    ∃ report : Report, report.IsOf leaf rest hostname now ∧
      (defects (leaf :: rest) hostname now).map (List.map Defect.message) = .ok report.messages := by
  obtain ⟨ofLeaf, hofLeaf, hleafMessages⟩ := exists_leafDefects hleaf
  obtain ⟨ofHostname, hofHostname, hhostMessages⟩ := exists_hostnameDefects hleaf hostname
  refine ⟨⟨ofLeaf.map Defect.message, _, _, _, ofHostname.map Defect.message⟩,
    ⟨hleafMessages, rfl, tellsOfOne_order (leaf :: rest), tellsOfOne_trust htrust, hhostMessages⟩, ?_⟩
  rw [defects, hofLeaf, htrust, hofHostname]
  show Except.ok (List.map Defect.message _) = _
  simp only [List.map_append, map_message_validityDefects, Report.messages]

/-- Where all extensions can be read, the key of an issuer breaks the checks off, and nothing else. -/
theorem defects_eq_error_iff_climbFault (hread : ∀ c ∈ leaf :: rest, ∃ e, c.extensions = .ok e) (hostname : String) :
    defects (leaf :: rest) hostname now = .error d ↔
      IsValidAt leaf now ∧ ClimbFault now (anchorsOf rest) d maxSteps leaf (linksOf rest) := by
  obtain ⟨⟨e, hleaf⟩, hrest⟩ := List.forall_mem_cons.mp hread
  have hauthorities : AllReadable rest := by
    intro c hc
    obtain ⟨e, he⟩ := hrest c hc
    exact ⟨e.authority, congrArg (Except.map Extensions.authority) he⟩
  rw [defects_eq_error_iff_trustFailure hleaf, trustFailure_eq_error_iff]
  constructor
  · rintro (hfirst | ⟨_, hmeets⟩)
    · obtain ⟨c, hc, hfails⟩ := hfirst.exists_mem
      obtain ⟨b, hb⟩ := hauthorities c hc
      cases hb.symm.trans hfails
    · exact hmeets
  · exact fun hmeets => .inr ⟨hauthorities, hmeets⟩

theorem defectsAt_of_toInstant? {w : WrittenTime} (h : w.toInstant? = some now) (hostname : String) :
    defectsAt (leaf :: rest) hostname w = (defects (leaf :: rest) hostname now).mapError .damaged := by
  simp only [defectsAt, List.isEmpty_cons, Bool.false_eq_true, ↓reduceIte, h]

end Whole

/-- An empty chain has no defect. Any other with readable extensions is reported on at every time that the calendar
holds in universal time, each check by its own condition, unless the path from a valid leaf comes to an issuer whose key
cannot be read; that alone breaks the checks off. -/
theorem defectsAt_reports_or_breaks_off {leaf : Certificate} {rest : List Certificate}
    (hread : ∀ c ∈ leaf :: rest, ∃ e, c.extensions = .ok e) (hostname : String) (w : WrittenTime) :
    defectsAt [] hostname w = .ok [] ∧
    (w.toInstant? = none → defectsAt (leaf :: rest) hostname w = .error .beyondCalendar) ∧
    ∀ now, w.toInstant? = some now →
      ((∃ report : Report, report.IsOf leaf rest hostname now ∧
          (defectsAt (leaf :: rest) hostname w).map (List.map Defect.message) = .ok report.messages) ↔
        ∀ d, ¬ (IsValidAt leaf now ∧ ClimbFault now (anchorsOf rest) d maxSteps leaf (linksOf rest))) ∧
      ∀ d, defectsAt (leaf :: rest) hostname w = .error (.damaged d) ↔
        IsValidAt leaf now ∧ ClimbFault now (anchorsOf rest) d maxSteps leaf (linksOf rest) := by
  refine ⟨rfl, fun hbeyond => ?_, fun now hnow => ?_⟩
  · simp only [defectsAt, List.isEmpty_cons, Bool.false_eq_true, ↓reduceIte, hbeyond]
  · simp only [defectsAt_of_toInstant? hnow, ← defects_eq_error_iff_climbFault hread hostname]
    obtain ⟨⟨e, hleaf⟩, _⟩ := List.forall_mem_cons.mp hread
    cases hdefects : defects (leaf :: rest) hostname now with
    | error f =>
      constructor
      · refine iff_of_false ?_ fun h => h f rfl
        rintro ⟨report, _, hreport⟩
        cases hreport
      · intro d
        simp [Except.mapError]
    | ok ds =>
      constructor
      · refine iff_of_true ?_ nofun
        cases htrust : trustFailure leaf rest now with
        | error d => cases hdefects.symm.trans ((defects_eq_error_iff_trustFailure hleaf hostname).mpr htrust)
        | ok reason =>
          obtain ⟨report, hof, hmessages⟩ := exists_report hleaf hostname htrust
          rw [hdefects] at hmessages
          exact ⟨report, hof, congrArg Except.ok (Except.ok.inj hmessages)⟩
      · exact fun d => iff_of_false nofun nofun

def sampleLeafOf (issuer : String) : Certificate := sampleCertificate "leaf" issuer false (sampleTime 0) (sampleTime 9)

def sampleLateIssuer : Certificate := sampleCertificate "mid" "root" true (sampleTime 0) (sampleTime 3)

theorem defectsAt_reports_sample :
    (∀ c ∈ [sampleLeafOf "leaf", sampleLateIssuer], ∃ e, c.extensions = .ok e) ∧
    (⟨sampleTime 5, none⟩ : WrittenTime).toInstant? = some (sampleTime 5) ∧
    ∃ report : Report, report.IsOf (sampleLeafOf "leaf") [sampleLateIssuer] "edge" (sampleTime 5) ∧
      report.messages = ["leaf certificate is self-signed", "intermediate expired: mid",
        "chain misordered at position 0",
        "chain verification failed: certificate signed by unknown authority (issuer 'CN=leaf' not found)",
        "certificate does not cover hostname \"edge\""] := by
  have hread : ∀ c ∈ [sampleLeafOf "leaf", sampleLateIssuer], ∃ e, c.extensions = .ok e :=
    List.forall_mem_cons.mpr ⟨⟨_, rfl⟩, List.forall_mem_singleton.mpr ⟨_, rfl⟩⟩
  have hnow : (⟨sampleTime 5, none⟩ : WrittenTime).toInstant? = some (sampleTime 5) := by decide
  obtain ⟨report, hof, hmessages⟩ :=
    ((defectsAt_reports_or_breaks_off hread "edge" ⟨sampleTime 5, none⟩).2.2 (sampleTime 5) hnow).1.mpr <| by
      rintro d ⟨_, hclimb⟩
      obtain ⟨a, ha, hkey⟩ := hclimb.exists_mem
      have hmem := ha.elim (fun h => (mem_anchorsOf.mp h).1) fun h => (mem_linksOf.mp h).1
      obtain rfl := List.mem_singleton.mp hmem
      cases hkey
  refine ⟨hread, hnow, report, hof, ?_⟩
  rw [← Except.ok.injEq, ← hmessages]
  decide +kernel

def sampleOddIssuer : Certificate :=
  { sampleLateIssuer with publicKey := .error (.unknownKeyType "1.2.840.10045.2.127") }

/-- An issuer whose kind of key is unknown hides that it has expired, and that the leaf does not cover the host name. -/
theorem exists_report_lost :
    ¬ ∀ (leaf : Certificate) (rest : List Certificate) (hostname : String) (now : Instant),
      (∀ c ∈ leaf :: rest, ∃ e, c.extensions = .ok e) →
      ∃ report : Report, report.IsOf leaf rest hostname now ∧
        (defectsAt (leaf :: rest) hostname ⟨now, some 0⟩).map (List.map Defect.message) = .ok report.messages := by
  intro h
  have hread : ∀ c ∈ [sampleLeafOf "mid", sampleOddIssuer], ∃ e, c.extensions = .ok e :=
    List.forall_mem_cons.mpr ⟨⟨_, rfl⟩, List.forall_mem_singleton.mpr ⟨_, rfl⟩⟩
  have hfails : defectsAt [sampleLeafOf "mid", sampleOddIssuer] "edge" ⟨sampleTime 5, some 0⟩ =
      .error (.damaged (.unknownKeyType "1.2.840.10045.2.127")) := by
    decide +kernel
  obtain ⟨report, _, hreport⟩ := h _ _ "edge" (sampleTime 5) hread
  rw [hfails] at hreport
  cases hreport

end CertInventory.Chain
