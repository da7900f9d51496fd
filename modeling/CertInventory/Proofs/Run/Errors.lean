import CertInventory.Proofs.Run.FanIn
import CertInventory.Snapshot.Summary
import Mathlib.Data.List.Dedup

/-!
The errors of a run are kept under the names of their sources. A name that comes again takes the place of the error
that it had, so a run keeps one error for each name under which a source failed, that of the last to be done
(`lookup_errors`). No failure is lost exactly where no two sources that failed have one name
(`sourceErrors_snapshot_iff`); two sources without a name of their own share that of their kind.
-/

namespace CertInventory

def Source.failure? (src : Source) : Option (String × String) :=
  match src.outcome with
  | .ok _ => none
  | .error fault => some (src.displayName, fault.report)

theorem Source.names_failures_sublist (sources : List Source) :
    ((sources.filterMap Source.failure?).map Prod.fst).Sublist (sources.map Source.displayName) := by
  induction sources with
  | nil => exact List.Sublist.refl _
  | cons src sources ih =>
    cases h : src.outcome with
    | ok fs =>
      have hnone : src.failure? = none := by simp [Source.failure?, h]
      rw [List.filterMap_cons_none hnone]
      exact ih.cons _
    | error fault =>
      have hsome : src.failure? = some (src.displayName, fault.report) := by simp [Source.failure?, h]
      rw [List.filterMap_cons_some hsome]
      exact ih.cons_cons _

namespace SourceReport

def error? (r : SourceReport) : Option (String × String) :=
  match r.outcome with
  | .ok _ => none
  | .error text => some (r.name, text)

theorem error?_report (timer : Option Timer) (src : Source) : (src.report timer).error? = src.failure? := by
  unfold error? Source.failure? Source.report
  cases src.outcome with
  | ok fs => rfl
  | error fault => rfl

theorem filterMap_error?_report (timer : Option Timer) (sources : List Source) :
    (sources.map (Source.report timer)).filterMap error? = sources.filterMap Source.failure? := by
  rw [List.filterMap_map]
  exact List.filterMap_congr fun src _ => error?_report timer src

theorem putError_of_not_mem {name text : String} {found : List (String × String)}
    (h : name ∉ found.map Prod.fst) : putError name text found = found ++ [(name, text)] := by
  induction found with
  | nil => rfl
  | cons first found ih =>
    simp only [List.map_cons, List.mem_cons, not_or] at h
    rw [putError, if_neg (Ne.symm h.1), ih h.2]
    rfl

/-- What is put under a name is found there, and nothing changes under another. -/
theorem lookup_putError (name text other : String) (found : List (String × String)) :
    (putError name text found).lookup other = if other = name then some text else found.lookup other := by
  induction found with
  | nil =>
    by_cases h : other = name
    · simp [putError, h]
    · simp [putError, List.lookup_cons, beq_eq_false_iff_ne.mpr h, h]
  | cons first found ih =>
    by_cases hfirst : first.1 = name
    · rw [putError, if_pos hfirst, List.lookup_cons, List.lookup_cons, hfirst]
      by_cases h : other = name
      · simp [h]
      · simp [beq_eq_false_iff_ne.mpr h, h]
    · rw [putError, if_neg hfirst, List.lookup_cons, List.lookup_cons, ih]
      by_cases h : other = name
      · have hne : ¬ other = first.1 := fun h' => hfirst (h'.symm.trans h)
        simp only [beq_eq_false_iff_ne.mpr hne, if_pos h]
      · simp only [if_neg h]

/-- The error that a name keeps is the last that came under it. -/
theorem lookup_errors (reports : List SourceReport) (name : String) :
    (errors reports).lookup name = (reports.filterMap error?).reverse.lookup name := by
  induction reports using List.reverseRecOn with
  | nil => rfl
  | append_singleton reports r ih =>
    rw [errors_concat, List.filterMap_append]
    cases hr : r.outcome with
    | ok fs => simpa [error?, hr] using ih
    | error text =>
      have hentry : [r].filterMap error? = [(r.name, text)] := by simp [error?, hr]
      rw [hentry, List.reverse_append, List.reverse_singleton, List.singleton_append, List.lookup_cons]
      simp only [lookup_putError, ih]
      by_cases h : name = r.name
      · simp [h]
      · simp [h, beq_eq_false_iff_ne.mpr h]

/-- A name has one error, however often it came with one. -/
theorem names_errors_perm (reports : List SourceReport) :
    ((errors reports).map Prod.fst).Perm ((reports.filterMap error?).map Prod.fst).dedup := by
  rw [List.perm_ext_iff_of_nodup (nodup_names_errors reports) (List.nodup_dedup _)]
  intro name
  rw [mem_names_errors, List.mem_dedup, List.mem_map]
  constructor
  · rintro ⟨r, hr, rfl, text, htext⟩
    exact ⟨(r.name, text), List.mem_filterMap.mpr ⟨r, hr, by simp [error?, htext]⟩, rfl⟩
  · rintro ⟨e, he, rfl⟩
    obtain ⟨r, hr, hentry⟩ := List.mem_filterMap.mp he
    unfold error? at hentry
    split at hentry
    · cases hentry
    · rename_i text htext
      cases hentry
      exact ⟨r, hr, rfl, text, htext⟩

/-- Where no two errors come under one name, none takes the place of another. -/
theorem errors_eq_filterMap {reports : List SourceReport}
    (h : ((reports.filterMap error?).map Prod.fst).Nodup) : errors reports = reports.filterMap error? := by
  induction reports using List.reverseRecOn with
  | nil => rfl
  | append_singleton reports r ih =>
    rw [List.filterMap_append, List.map_append] at h
    rw [errors_concat, List.filterMap_append, ih h.of_append_left]
    cases hr : r.outcome with
    | ok fs => simp [error?, hr]
    | error text =>
      have hentry : [r].filterMap error? = [(r.name, text)] := by simp [error?, hr]
      rw [hentry] at h ⊢
      apply putError_of_not_mem
      intro hmem
      exact List.disjoint_of_nodup_append h hmem List.mem_cons_self

end SourceReport

namespace Run

variable {σ : Type}

/-- Of the failures of its sources a run keeps one for each name, that of the last source of the name to be done, and
counts these. So it keeps and counts every failure exactly where the sources that failed have different names. -/
theorem sourceErrors_snapshot_iff {r : Run σ} {now warn critical : Time.Instant}
    (hwarn : now.add? r.warnBefore = some warn) (hcritical : now.add? r.critBefore = some critical)
    {sources : List Source} {order : List Nat} (horder : order.Perm (List.range sources.length)) (s : σ) :
    ∃ snap s', (r.snapshot now (inOrder order sources)).run s = (.ok snap, s') ∧
      (∀ name, snap.errors.lookup name =
        ((inOrder order sources).filterMap Source.failure?).reverse.lookup name) ∧
      (Summary.ofSnapshot snap).sourceErrors = snap.errors.length ∧
      snap.errors.length = ((sources.filterMap Source.failure?).map Prod.fst).dedup.length ∧
      (snap.errors.length = (sources.filterMap Source.failure?).length ↔
        ((sources.filterMap Source.failure?).map Prod.fst).Nodup) ∧
      (((sources.filterMap Source.failure?).map Prod.fst).Nodup →
        snap.errors.Perm (sources.filterMap Source.failure?)) := by
  have hfailures : ((inOrder order sources).filterMap Source.failure?).Perm (sources.filterMap Source.failure?) :=
    (inOrder_perm horder).filterMap _
  have hreports := SourceReport.filterMap_error?_report r.timer (inOrder order sources)
  have hlength : (SourceReport.errors ((inOrder order sources).map (Source.report r.timer))).length =
      ((sources.filterMap Source.failure?).map Prod.fst).dedup.length := by
    have hnames := SourceReport.names_errors_perm ((inOrder order sources).map (Source.report r.timer))
    rw [hreports] at hnames
    rw [← List.length_map Prod.fst, hnames.length_eq]
    exact (hfailures.map Prod.fst).dedup.length_eq
  refine ⟨_, _, snapshot_run (Cutoffs.at?_eq_some hwarn hcritical) _ s, ?_, rfl, hlength, ?_, ?_⟩
  · intro name
    rw [SourceReport.lookup_errors, hreports]
  · rw [hlength, ← List.length_map Prod.fst, ← List.dedup_eq_self]
    constructor
    · exact (List.dedup_sublist _).eq_of_length
    · exact congrArg List.length
  · intro hdistinct
    have hdone := (hfailures.map Prod.fst).nodup_iff.mpr hdistinct
    rw [← hreports] at hdone
    rw [SourceReport.errors_eq_filterMap hdone, hreports]
    exact hfailures

/-- A source of a kind that cannot tell its name and comes to nothing but an error. -/
def sampleNameless (text : String) : Source :=
  ⟨.error (.saying .runtime "no name"), "Broken", .error (.outside (.saying .runtime text))⟩

theorem sourceErrors_snapshot_nameless :
    let r : Run Unit := ⟨⟨3⟩, ⟨1⟩, "", none, none⟩
    Time.Instant.add? (sampleTime 5) r.warnBefore = some (sampleTime 8) ∧
    Time.Instant.add? (sampleTime 5) r.critBefore = some (sampleTime 6) ∧
    [1, 0].Perm (List.range [sampleNameless "first", sampleNameless "second"].length) ∧
    ∃ snap s', (r.snapshot (sampleTime 5) (inOrder [1, 0] [sampleNameless "first", sampleNameless "second"])).run () =
        (.ok snap, s') ∧
      snap.errors.lookup "Broken" = some "first" ∧ (Summary.ofSnapshot snap).sourceErrors = 1 := by
  intro r
  have hwarn : Time.Instant.add? (sampleTime 5) r.warnBefore = some (sampleTime 8) := by decide
  have hcritical : Time.Instant.add? (sampleTime 5) r.critBefore = some (sampleTime 6) := by decide
  have horder : [1, 0].Perm (List.range [sampleNameless "first", sampleNameless "second"].length) := by decide
  obtain ⟨snap, s', hrun, hlookup, hcount, hlength, _⟩ := sourceErrors_snapshot_iff hwarn hcritical horder ()
  refine ⟨hwarn, hcritical, horder, snap, s', hrun, ?_, ?_⟩
  · rw [hlookup]
    decide
  · rw [hcount, hlength]
    decide

/-- Two sources that fail may leave one error. -/
theorem exists_failure_lost :
    ¬ ∀ (r : Run Unit) (now warn critical : Time.Instant) (sources : List Source) (order : List Nat),
      now.add? r.warnBefore = some warn → now.add? r.critBefore = some critical →
      order.Perm (List.range sources.length) →
      ∃ snap s', (r.snapshot now (inOrder order sources)).run () = (.ok snap, s') ∧
        snap.errors.length = (sources.filterMap Source.failure?).length ∧
        (Summary.ofSnapshot snap).sourceErrors = (sources.filterMap Source.failure?).length := by
  intro h
  let r : Run Unit := ⟨⟨3⟩, ⟨1⟩, "", none, none⟩
  have hwarn : Time.Instant.add? (sampleTime 5) r.warnBefore = some (sampleTime 8) := by decide
  have hcritical : Time.Instant.add? (sampleTime 5) r.critBefore = some (sampleTime 6) := by decide
  obtain ⟨snap, s', hrun, hlength, _⟩ := h r _ _ _ [sampleNameless "first", sampleNameless "second"] [0, 1] hwarn
    hcritical (by decide)
  rw [snapshot_run (r := r) (Cutoffs.at?_eq_some hwarn hcritical)] at hrun
  obtain rfl := Except.ok.inj (congrArg Prod.fst hrun)
  have hone : (SourceReport.errors ([sampleNameless "first", sampleNameless "second"].map (Source.report none))).length =
      1 := by decide
  exact absurd (hone.symm.trans hlength) (by decide)

end Run

end CertInventory
