import CertInventory.Proofs.Finding.Document
import CertInventory.Snapshot.Basic

/-!
Snapshots written and read back. What is written tells everything but the transient parts of the findings, so reading
it gives `withoutTransients`, and the snapshot itself exactly where no finding has transient parts.
-/

namespace CertInventory

theorem Finding.withoutTransients_eq_iff {f : Finding} : f.withoutTransients = f ↔ f.hasTransients = false := by
  have hstaple : f.staple = .empty ↔ f.staple.isEmpty = true := by cases f.staple <;> simp [OcspBody.isEmpty]
  constructor
  · intro h
    have hcertificate : f.certificate = none := by rw [← h]; rfl
    have hissuer : f.issuerCertificate = none := by rw [← h]; rfl
    have hempty : f.staple = .empty := by rw [← h]; rfl
    simp [hasTransients, hcertificate, hissuer, hstaple.mp hempty]
  · intro h
    simp only [hasTransients, Bool.or_eq_false_iff, Option.isSome_eq_false_iff, Option.isNone_iff_eq_none,
      Bool.not_eq_false'] at h
    obtain ⟨⟨hcertificate, hissuer⟩, hempty⟩ := h
    obtain ⟨⟩ := f
    simp_all [withoutTransients]

namespace Snapshot

theorem withoutTransients_eq_iff {s : Snapshot} :
    s.withoutTransients = s ↔ ∀ f ∈ s.findings, f.hasTransients = false := by
  have hfindings : s.withoutTransients = s ↔ s.findings.map Finding.withoutTransients = s.findings := by
    obtain ⟨time, findings, errors⟩ := s
    simp [withoutTransients]
  have hpointwise : s.findings.map Finding.withoutTransients = s.findings.map id ↔
      ∀ f ∈ s.findings, f.withoutTransients = f := List.map_inj_left
  rw [hfindings, ← forall₂_congr fun f _ => Finding.withoutTransients_eq_iff, ← hpointwise, List.map_id]

theorem readAll_map (fs : List Finding) :
    readAll (fs.map Finding.toDatum) = .ok (fs.map Finding.withoutTransients) := by
  induction fs with
  | nil => rfl
  | cons f rest ih =>
    rw [List.map_cons, readAll, f.ofDatum_toDatum, ih]
    rfl

theorem readFindings_findingsDatum (s : Snapshot) :
    readFindings s.findingsDatum = .ok (s.findings.map Finding.withoutTransients) := by
  by_cases hvoid : s.findingsDatum.isVoid = true
  · unfold readFindings
    rw [if_pos hvoid]
    have hnone : s.findings = [] := by simpa [findingsDatum, Datum.isVoid] using hvoid
    rw [hnone]
    rfl
  · unfold readFindings
    rw [if_neg hvoid]
    exact readAll_map s.findings

theorem readTextEntries_map (errors : List (String × String)) :
    Datum.readTextEntries (errors.map fun e => (Scalar.text e.1, Datum.text e.2)) = .good errors := by
  induction errors with
  | nil => rfl
  | cons e rest ih =>
    rw [List.map_cons, Datum.readTextEntries, ih]
    rfl

theorem readErrors_errorsDatum (s : Snapshot) : readErrors s.errorsDatum = .good s.errors := by
  have hwritten : s.errorsDatum = .map (s.errors.map fun e => (Scalar.text e.1, Datum.text e.2)) := by
    simp only [errorsDatum, Datum.object, List.map_map]
    rfl
  rw [readErrors, hwritten]
  split
  · rename_i hvoid
    have hnone : s.errors = [] := by simpa [Datum.isVoid] using hvoid
    rw [hnone]
  · exact readTextEntries_map s.errors

/-- The three parts of a snapshot make the snapshot again. -/
theorem ofParts_written (s : Snapshot) {errors : Datum} (herrors : readErrors errors = .good s.errors) :
    ofParts (.text s.time.text) s.findingsDatum errors = .ok s.withoutTransients := by
  rw [ofParts, readFindings_findingsDatum, herrors, Datum.toTime_text]
  rfl

def entries (s : Snapshot) : List (Scalar × Datum) := s.fields.map fun (name, v) => (.text name, v)

theorem field?_at (s : Snapshot) : Datum.field? s.entries "at" = some (.text s.time.text) := rfl

theorem field?_findings (s : Snapshot) : Datum.field? s.entries "findings" = some s.findingsDatum := by
  unfold entries fields
  split <;> rfl

theorem readErrors_entries (s : Snapshot) :
    readErrors ((Datum.field? s.entries "errors").getD .null) = .good s.errors := by
  have hfield : (Datum.field? s.entries "errors").getD .null =
      if s.errors.isEmpty then .null else s.errorsDatum := by
    unfold entries fields
    split <;> rfl
  rw [hfield]
  split
  · rename_i hnone
    rw [List.isEmpty_iff.mp hnone]
    rfl
  · exact s.readErrors_errorsDatum

theorem ofDatum_toDatum (s : Snapshot) : ofDatum s.toDatum = .ok s.withoutTransients := by
  have hentries : s.toDatum = .map s.entries := rfl
  rw [hentries, ofDatum, field?_at, field?_findings, Option.getD_some]
  exact s.ofParts_written s.readErrors_entries

/-- A snapshot read back is the snapshot without the transient parts of its findings; it is the snapshot itself
exactly when these are clear. -/
theorem ofDatum_toDatum_iff (s : Snapshot) :
    ofDatum s.toDatum = .ok s.withoutTransients ∧
      (ofDatum s.toDatum = .ok s ↔ ∀ f ∈ s.findings, f.hasTransients = false) := by
  refine ⟨ofDatum_toDatum s, ?_⟩
  rw [ofDatum_toDatum, Except.ok.injEq, withoutTransients_eq_iff]

end Snapshot

end CertInventory
