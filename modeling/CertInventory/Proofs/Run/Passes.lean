import CertInventory.Proofs.Finding.Renewal
import CertInventory.Proofs.Finding.Urgency
import CertInventory.Run
import Mathlib.Data.List.Basic

/-!
The passes of a run over the findings of its sources, each as a map: judging, renewals, revocation checks one after
the other, and emission. `snapshot_run` says what they come to together; the lemmas below it say what each leaves as
it was.
-/

namespace CertInventory

def Source.found (s : Source) : List Finding :=
  match s.outcome with
  | .ok fs => fs
  | .error _ => []

theorem SourceReport.findings_report (timer : Option Timer) (sources : List Source) :
    findings (sources.map (Source.report timer)) = sources.flatMap Source.found := by
  induction sources with
  | nil => rfl
  | cons s sources ih =>
    simp only [findings, List.map_cons, List.flatMap_cons] at ih ⊢
    rw [ih]
    congr 1
    cases h : s.outcome <;> simp [Source.report, Source.found, h, Except.mapError]

def Finding.checkTrace (f : Finding) : Bool × Option Certificate × Option Certificate × OcspBody :=
  (f.probeOk, f.certificate, f.issuerCertificate, f.staple)

theorem Finding.checkTrace_renewed_classified (c : Cutoffs) (all : List Finding) (f : Finding) :
    (Finding.renewed all (f.classified c)).checkTrace = f.checkTrace := by
  rcases Finding.renewed_cases all (f.classified c) with ⟨h, _⟩ | ⟨_, h, _⟩ | ⟨_, h, _⟩ <;> rw [h] <;> rfl

namespace Run

variable {σ : Type}

/-- A finding of a source in the light of its run, before it is checked. -/
def judgedAmong (c : Cutoffs) (all : List Finding) (f : Finding) : Finding :=
  Finding.renewed (all.map (Finding.classified c)) (f.classified c)

theorem judged_eq_map (c : Cutoffs) (all : List Finding) : judged c all = all.map (judgedAmong c all) := by
  rw [judged, Finding.renewAll, List.map_map]
  rfl

/-- What a run emits: its findings judged, checked in order, and made ready. -/
theorem snapshot_run {r : Run σ} {now : Time.Instant} {c : Cutoffs}
    (hc : Cutoffs.at? now r.warnBefore r.critBefore = some c) (sources : List Source) (s : σ) :
    (r.snapshot now sources).run s =
      let checked := (checkAll r.revocation (judged c (sources.flatMap Source.found))).run s
      (.ok ⟨now, checked.1.map (emitted r.cluster),
        SourceReport.errors (sources.map (Source.report r.timer))⟩, checked.2) := by
  simp only [snapshot, ofReports, hc, SourceReport.findings_report]
  rfl

/-- A run whose cutoffs lie beyond the calendar breaks off before any check. -/
theorem snapshot_run_of_no_cutoffs {r : Run σ} {now : Time.Instant}
    (hc : Cutoffs.at? now r.warnBefore r.critBefore = none) (sources : List Source) (s : σ) :
    (r.snapshot now sources).run s = (.error .outOfRange, s) := by
  simp only [snapshot, ofReports, hc]
  rfl

theorem checkAll_some_cons (check : RevocationCheck σ) (f : Finding) (fs : List Finding) (s : σ) :
    (checkAll (some check) (f :: fs)).run s =
      let first := (checkOne check f).run s
      let others := (checkAll (some check) fs).run first.2
      (first.1 :: others.1, others.2) := by
  simp only [checkAll, List.mapM_cons]
  rfl

/-- Whatever issues leave as it was, the checks leave as it was, finding by finding. -/
theorem map_checkAll {β : Type} (g : Finding → β) (hg : ∀ f issues, g (withIssues f issues) = g f)
    (check : Option (RevocationCheck σ)) (fs : List Finding) (s : σ) :
    ((checkAll check fs).run s).1.map g = fs.map g := by
  cases check with
  | none => rfl
  | some check =>
    induction fs generalizing s with
    | nil => rfl
    | cons f fs ih =>
      have hone : g ((checkOne check f).run s).1 = g f := by
        simp only [checkOne, StateT.run]
        split
        · exact hg f _
        · rfl
      simp only [checkAll_some_cons, List.map_cons, hone, ih]

theorem isChecked_iff {f : Finding} : isChecked f = true ↔ f.probeOk = true ∧ ∃ c, f.certificate = some c := by
  rw [isChecked, Bool.and_eq_true, Option.isSome_iff_exists]

theorem run_checkOne_of_isChecked {f : Finding} (h : isChecked f = true) (check : RevocationCheck σ) (s : σ) :
    (checkOne check f).run s =
      let checked := (check f.certificate f.issuerCertificate f.staple).run s
      (withIssues f (issuesOf checked.1), checked.2) := by
  simp only [checkOne, StateT.run, h, if_true]
  rfl

theorem run_checkOne_of_not_isChecked {f : Finding} (h : ¬ isChecked f = true) (check : RevocationCheck σ) (s : σ) :
    (checkOne check f).run s = (f, s) := by
  simp only [checkOne, StateT.run, if_neg h]

theorem state_checkOne_congr {f g : Finding} (h : f.checkTrace = g.checkTrace) (check : RevocationCheck σ) (s : σ) :
    ((checkOne check f).run s).2 = ((checkOne check g).run s).2 := by
  simp only [Finding.checkTrace, Prod.mk.injEq] at h
  obtain ⟨hprobe, hcertificate, hissuer, hstaple⟩ := h
  have hsame : isChecked f = isChecked g := by rw [isChecked, isChecked, hprobe, hcertificate]
  by_cases hg : isChecked g = true
  · simp only [run_checkOne_of_isChecked (hsame.trans hg), run_checkOne_of_isChecked hg, hcertificate, hissuer, hstaple]
  · simp only [run_checkOne_of_not_isChecked (hsame ▸ hg), run_checkOne_of_not_isChecked hg]

/-- The session behind the checks of findings depends on nothing else of them. -/
theorem state_checkAll_congr {fs gs : List Finding} (h : fs.map Finding.checkTrace = gs.map Finding.checkTrace)
    (check : RevocationCheck σ) (s : σ) :
    ((checkAll (some check) fs).run s).2 = ((checkAll (some check) gs).run s).2 := by
  induction fs generalizing gs s with
  | nil =>
    obtain rfl : gs = [] := by simpa using h.symm
    rfl
  | cons f fs ih =>
    cases gs with
    | nil => simp at h
    | cons g gs =>
      obtain ⟨hfirst, hothers⟩ := List.cons.inj h
      simp only [checkAll_some_cons, state_checkOne_congr hfirst, ih hothers]

theorem checkAll_append (check : RevocationCheck σ) (before behind : List Finding) (s : σ) :
    (checkAll (some check) (before ++ behind)).run s =
      let first := (checkAll (some check) before).run s
      let others := (checkAll (some check) behind).run first.2
      (first.1 ++ others.1, others.2) := by
  induction before generalizing s with
  | nil => rfl
  | cons f before ih => simp only [List.cons_append, checkAll_some_cons, ih]

theorem length_checkAll (check : Option (RevocationCheck σ)) (fs : List Finding) (s : σ) :
    ((checkAll check fs).run s).1.length = fs.length := by
  have h := congrArg List.length (map_checkAll (fun _ => ()) (fun _ _ => rfl) check fs s)
  simpa using h

/-- What the check of a finding comes to behind the checks of others, if it is checked. -/
def outcomeBehind? (check : Option (RevocationCheck σ)) (before : List Finding) (f : Finding) (s : σ) :
    Option (Except Fault (List String)) :=
  match check with
  | none => none
  | some check =>
    if isChecked f then
      some ((check f.certificate f.issuerCertificate f.staple).run ((checkAll (some check) before).run s).2).1
    else none

def withOutcome (f : Finding) : Option (Except Fault (List String)) → Finding
  | some outcome => withIssues f (issuesOf outcome)
  | none => f

/-- The check of a finding starts from the session that the findings in front of it left. -/
theorem getElem?_checkAll (check : Option (RevocationCheck σ)) (before behind : List Finding) (f : Finding) (s : σ) :
    ((checkAll check (before ++ f :: behind)).run s).1[before.length]? =
      some (withOutcome f (outcomeBehind? check before f s)) := by
  cases check with
  | none =>
    show (before ++ f :: behind)[before.length]? = some f
    rw [List.getElem?_append_right (Nat.le_refl _), Nat.sub_self, List.getElem?_cons_zero]
  | some check =>
    have hlength := length_checkAll (some check) before s
    simp only [checkAll_append, checkAll_some_cons]
    rw [List.getElem?_append_right (Nat.le_of_eq hlength), hlength, Nat.sub_self, List.getElem?_cons_zero]
    by_cases hf : isChecked f = true
    · simp only [run_checkOne_of_isChecked hf, outcomeBehind?, hf, if_true, withOutcome]
    · simp only [run_checkOne_of_not_isChecked hf, outcomeBehind?, if_neg hf, withOutcome]

/-- Judging leaves what checks read, so every check comes to what it does for the findings of the sources. -/
theorem outcomeBehind?_judgedAmong (check : Option (RevocationCheck σ)) (c : Cutoffs) (all before : List Finding)
    (f : Finding) (s : σ) :
    outcomeBehind? check (before.map (judgedAmong c all)) (judgedAmong c all f) s =
      outcomeBehind? check before f s := by
  cases check with
  | none => rfl
  | some check =>
    have hstate : ((checkAll (some check) (before.map (judgedAmong c all))).run s).2 =
        ((checkAll (some check) before).run s).2 := by
      apply state_checkAll_congr
      rw [List.map_map]
      exact List.map_congr_left fun g _ => Finding.checkTrace_renewed_classified c _ g
    have hread : (judgedAmong c all f).checkTrace = f.checkTrace := Finding.checkTrace_renewed_classified c _ f
    simp only [Finding.checkTrace, Prod.mk.injEq] at hread
    obtain ⟨hprobe, hcertificate, hissuer, hstaple⟩ := hread
    have hchecked : isChecked (judgedAmong c all f) = isChecked f := by rw [isChecked, isChecked, hprobe, hcertificate]
    simp only [outcomeBehind?, hchecked, hcertificate, hissuer, hstaple, hstate]

/-- A finding of a source as a run over all these findings emits it behind those in front of it. -/
def emission (r : Run σ) (c : Cutoffs) (all before : List Finding) (f : Finding) (s : σ) : Finding :=
  emitted r.cluster (withOutcome (judgedAmong c all f) (outcomeBehind? r.revocation before f s))

theorem getElem?_snapshot_run {r : Run σ} {c : Cutoffs} {all before behind : List Finding} {f : Finding}
    (hall : all = before ++ f :: behind) (s : σ) :
    (((checkAll r.revocation (judged c all)).run s).1.map (emitted r.cluster))[before.length]? =
      some (emission r c all before f s) := by
  have hjudged : judged c all =
      before.map (judgedAmong c all) ++ judgedAmong c all f :: behind.map (judgedAmong c all) := by
    rw [judged_eq_map]
    nth_rewrite 2 [hall]
    rw [List.map_append, List.map_cons]
  have hchecked := getElem?_checkAll r.revocation (before.map (judgedAmong c all)) (behind.map (judgedAmong c all))
    (judgedAmong c all f) s
  rw [List.length_map, outcomeBehind?_judgedAmong] at hchecked
  rw [List.getElem?_map, hjudged, hchecked]
  rfl

/-- What the check of the finding in a place comes to, if there is one and it is checked. -/
def outcomeAt? (check : Option (RevocationCheck σ)) (all : List Finding) (place : Nat) (s : σ) :
    Option (Except Fault (List String)) :=
  all[place]?.bind fun f => outcomeBehind? check (all.take place) f s

/-- What stands in a place cuts a list in two. -/
theorem eq_take_append_cons_drop {l : List Finding} {place : Nat} {f : Finding} (h : l[place]? = some f) :
    l = l.take place ++ f :: l.drop (place + 1) ∧ (l.take place).length = place := by
  obtain ⟨hlt, hget⟩ := List.getElem?_eq_some_iff.mp h
  refine ⟨?_, List.length_take_of_le (Nat.le_of_lt hlt)⟩
  rw [← hget, ← List.drop_eq_getElem_cons hlt, List.take_append_drop]

/-- Every finding of the sources is emitted in its place, by what the check in that place comes to. -/
theorem getElem?_emitted (r : Run σ) (c : Cutoffs) (all : List Finding) (s : σ) (place : Nat) :
    (((checkAll r.revocation (judged c all)).run s).1.map (emitted r.cluster))[place]? =
      all[place]?.map fun f =>
        emitted r.cluster (withOutcome (judgedAmong c all f) (outcomeAt? r.revocation all place s)) := by
  cases hf : all[place]? with
  | none =>
    rw [Option.map_none, List.getElem?_eq_none_iff, List.length_map, length_checkAll, judged_eq_map, List.length_map]
    exact List.getElem?_eq_none_iff.mp hf
  | some f =>
    obtain ⟨hall, hlength⟩ := eq_take_append_cons_drop hf
    have hplace := @getElem?_snapshot_run _ r c all _ _ _ hall s
    rw [hlength] at hplace
    rw [hplace, outcomeAt?, hf]
    rfl

/-- A checked finding as the run emits it. -/
theorem exists_snapshot_getElem? {r : Run σ} {check : RevocationCheck σ} {now : Time.Instant} {c : Cutoffs}
    (hcheck : r.revocation = some check) (hc : Cutoffs.at? now r.warnBefore r.critBefore = some c)
    {sources : List Source} {before behind : List Finding} {f : Finding}
    (hfound : sources.flatMap Source.found = before ++ f :: behind) (hf : isChecked f = true) (s : σ) :
    ∃ snap s', (r.snapshot now sources).run s = (.ok snap, s') ∧
      snap.findings[before.length]? = some (emitted r.cluster (withIssues
        (judgedAmong c (sources.flatMap Source.found) f)
        (issuesOf ((check f.certificate f.issuerCertificate f.staple).run
          ((checkAll (some check) before).run s).2).1))) := by
  refine ⟨_, _, snapshot_run hc sources s, (getElem?_snapshot_run hfound s).trans ?_⟩
  simp only [emission, hcheck, outcomeBehind?, hf, if_true, withOutcome]

/-- A check that depends on nothing but what a finding carries. -/
abbrev RevocationAnswer := Option Certificate → Option Certificate → OcspBody → Except Fault (List String)

/-- The check that gives answers and leaves the state alone. -/
def answering (answer : RevocationAnswer) : RevocationCheck σ := fun certificate issuer staple s =>
  (answer certificate issuer staple, s)

def outcome? (answer : Option RevocationAnswer) (f : Finding) : Option (Except Fault (List String)) :=
  if f.probeOk ∧ f.certificate ≠ none then answer.map fun a => a f.certificate f.issuerCertificate f.staple else none

def checkedBy (answer : Option RevocationAnswer) (f : Finding) : Finding :=
  match outcome? answer f with
  | some outcome => withIssues f (issuesOf outcome)
  | none => f

theorem checkOne_answering (answer : RevocationAnswer) (f : Finding) (s : σ) :
    (checkOne (answering answer) f).run s = (checkedBy (some answer) f, s) := by
  cases hp : f.probeOk <;> cases hcert : f.certificate <;>
    simp [checkOne, isChecked, checkedBy, outcome?, answering, StateT.run, ExceptT.run, hp, hcert]

theorem checkAll_answering (answer : Option RevocationAnswer) (fs : List Finding) (s : σ) :
    (checkAll (answer.map answering) fs).run s = (fs.map (checkedBy answer), s) := by
  cases answer with
  | none =>
    have hid : checkedBy none = id := by
      funext f
      simp [checkedBy, outcome?]
    rw [hid, List.map_id]
    rfl
  | some answer =>
    induction fs with
    | nil => rfl
    | cons f fs ih =>
      simp only [Option.map_some] at ih
      simp only [Option.map_some, checkAll_some_cons, checkOne_answering, ih, List.map_cons]

/-- What stands in front of a finding changes nothing for a check that depends on the finding alone. -/
theorem outcomeBehind?_answering (answer : Option RevocationAnswer) (before : List Finding) (f : Finding) (s : σ) :
    outcomeBehind? (answer.map answering) before f s = outcome? answer f := by
  cases answer with
  | none =>
    unfold outcome?
    split <;> rfl
  | some answer =>
    cases hp : f.probeOk <;> cases hcert : f.certificate <;>
      simp [outcomeBehind?, isChecked, outcome?, answering, ExceptT.run, hp, hcert]

/-- A finding of a source as a run over all these findings emits it. -/
def emittedAmong (answer : Option RevocationAnswer) (cluster : String) (c : Cutoffs) (all : List Finding)
    (f : Finding) : Finding :=
  emitted cluster (checkedBy answer (Finding.renewed (all.map (Finding.classified c)) (f.classified c)))

/-- A run whose check answers by what findings carry comes to a snapshot, finding by finding. -/
theorem snapshot_answering {r : Run σ} {answer : Option RevocationAnswer} {now : Time.Instant} {c : Cutoffs}
    (hcheck : r.revocation = answer.map answering) (hc : Cutoffs.at? now r.warnBefore r.critBefore = some c)
    (sources : List Source) (s : σ) :
    (r.snapshot now sources).run s =
      (.ok ⟨now, (sources.flatMap Source.found).map
          (emittedAmong answer r.cluster c (sources.flatMap Source.found)),
        SourceReport.errors (sources.map (Source.report r.timer))⟩, s) := by
  rw [snapshot_run hc, hcheck]
  simp only [checkAll_answering, judged_eq_map, List.map_map]
  rfl

end Run

end CertInventory
