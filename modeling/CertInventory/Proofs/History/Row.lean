import CertInventory.History.Store
import CertInventory.Proofs.Datum.Json
import CertInventory.Proofs.Snapshot.Document

/-!
Rows of the history read back. The texts of a row are JSON of documents that JSON tells in full, as long as no number
in the snapshot is too long to be written and no two errors have one name; so the row gives the snapshot again
(`toSnapshot_ofSnapshot`), and is listed with the snapshot's time and summary (`toEntry_ofSnapshot`).
-/

namespace CertInventory

namespace Json

theorem hasForm_object {fields : List (String × Datum)} (hnames : (fields.map Prod.fst).Nodup)
    (h : ∀ e ∈ fields, HasForm e.2) : HasForm (.object fields) := by
  refine .map ?_ ?_ ?_
  · intro e he
    obtain ⟨field, -, rfl⟩ := List.mem_map.mp he
    exact ⟨field.1, rfl⟩
  · rw [List.pairwise_map]
    exact (List.pairwise_map.mp hnames).imp fun hne => beq_eq_false_iff_ne.mpr hne
  · intro e he
    obtain ⟨field, hfield, rfl⟩ := List.mem_map.mp he
    exact h field hfield

theorem hasForm_texts (v : List String) : HasForm (.texts v) := by
  refine .list fun d hd => ?_
  obtain ⟨s, -, rfl⟩ := List.mem_map.mp hd
  exact .text s

end Json

namespace Datum

theorem isShowable_int {n : Int} : (Datum.int n).isShowable = true ↔ n.natAbs < Nat.pow 10 Text.digitLimit := by
  simp only [isShowable, everyScalar, decide_eq_true_eq]

theorem everyItem_iff {p : Scalar → Bool} {items : List Datum} :
    everyItem p items = true ↔ ∀ v ∈ items, v.everyScalar p = true := by
  induction items with
  | nil => simp [everyItem]
  | cons v rest ih => simp [everyItem, ih]

theorem isShowable_list {items : List Datum} :
    (Datum.list items).isShowable = true ↔ ∀ v ∈ items, v.isShowable = true := everyItem_iff

theorem everyScalar_of_mem_object {p : Scalar → Bool} {fields : List (String × Datum)}
    (h : (object fields).everyScalar p = true) : ∀ e ∈ fields, e.2.everyScalar p = true := by
  induction fields with
  | nil => simp
  | cons e rest ih =>
    simp only [object, List.map_cons, everyScalar, everyEntry, Bool.and_eq_true] at h
    exact List.forall_mem_cons.mpr ⟨h.1.2, ih h.2⟩

theorem isShowable_of_mem_object {fields : List (String × Datum)} (h : (object fields).isShowable = true) :
    ∀ e ∈ fields, e.2.isShowable = true := everyScalar_of_mem_object h

end Datum

open Json

namespace Finding

/-- The value in a slot has a form in JSON as soon as its numbers are not too long. -/
def FormSlot (slot : Option Datum) : Prop := ∀ d, slot = some d → d.isShowable = true → HasForm d

theorem formSlot_some {d : Datum} (h : d.isShowable = true → HasForm d) : FormSlot (some d) := by
  intro e he hshow
  cases he
  exact h hshow

theorem formSlot_unlessDefault {isDefault : Prop} [Decidable isDefault] {d : Datum}
    (h : d.isShowable = true → HasForm d) : FormSlot (Datum.unlessDefault isDefault d) := by
  unfold Datum.unlessDefault
  split
  · exact nofun
  · exact formSlot_some h

theorem formSlot_textSlot (v : String) : FormSlot (textSlot v) := formSlot_unlessDefault fun _ => .text v

theorem formSlot_textsSlot (v : List String) : FormSlot (textsSlot v) := formSlot_unlessDefault fun _ => hasForm_texts v

theorem formSlot_intSlot (v : Int) : FormSlot (intSlot v) :=
  formSlot_unlessDefault fun hshow => .int (Datum.isShowable_int.mp hshow)

theorem formSlot_truthSlot (v : Bool) : FormSlot (truthSlot v) := formSlot_unlessDefault fun _ => .bool true

theorem formSlot_timeSlot (v : Option Time.Instant) : FormSlot (timeSlot v) := by
  intro d hd _
  obtain ⟨t, -, rfl⟩ := Option.map_eq_some_iff.mp hd
  exact .text t.text

theorem formSlot_text (s : String) : FormSlot (some (.text s)) := formSlot_some fun _ => .text s

theorem formSlot_bool (b : Bool) : FormSlot (some (.bool b)) := formSlot_some fun _ => .bool b

theorem formSlot_of_mem_slots (f : Finding) : ∀ slot ∈ f.slots, FormSlot slot.2 := by
  simp only [slots, List.forall_mem_cons, formSlot_textSlot, formSlot_textsSlot, formSlot_intSlot,
    formSlot_truthSlot, formSlot_timeSlot, formSlot_text, formSlot_bool, true_and, List.not_mem_nil, false_implies,
    implies_true]

theorem nodup_names_fields (f : Finding) : (f.fields.map Prod.fst).Nodup := by
  have hslots : (f.slots.map Prod.fst).Nodup := by
    simp only [slots, List.map_cons, List.map_nil]
    decide
  rw [fields_eq]
  exact hslots.sublist (Datum.names_slotFields_sublist f.slots)

theorem hasForm_toDatum (f : Finding) (h : f.toDatum.isShowable = true) : HasForm f.toDatum := by
  unfold toDatum at h ⊢
  have hshow := Datum.isShowable_of_mem_object h
  have hnames := f.nodup_names_fields
  rw [fields_eq] at hshow hnames ⊢
  apply hasForm_object hnames
  intro e he
  have hfield := hshow e he
  obtain ⟨slot, hslot, he⟩ := List.mem_flatMap.mp he
  obtain ⟨d, hd, rfl⟩ := Option.map_eq_some_iff.mp (Option.mem_toList.mp he)
  exact f.formSlot_of_mem_slots slot hslot d hd hfield

end Finding

namespace Summary

theorem hasForm_toDatum {summary : Summary} (h : summary.toDatum.isShowable = true) : HasForm summary.toDatum := by
  unfold toDatum at h ⊢
  have hshow := Datum.isShowable_of_mem_object h
  simp only [List.forall_mem_cons, Datum.isShowable_int] at hshow
  obtain ⟨htotal, hcritical, hwarn, hinfo, hprobe, hchain, hposture, herrors, -⟩ := hshow
  apply hasForm_object
  · simp only [List.map_cons, List.map_nil]
    decide
  · simp only [List.forall_mem_cons]
    exact ⟨.int htotal, .int hcritical, .int hwarn, .int hinfo, .int hprobe, .int hchain, .int hposture, .int herrors,
      .text _, by simp⟩

end Summary

namespace HistoryRow

theorem content_render {d : Datum} (h : HasForm d) (default : Datum) : content (Json.render d) default = .ok d := by
  obtain ⟨c, rest, htext, -⟩ := exists_write_cons h
  have hempty : (Json.render d).isEmpty = false := by
    rw [Json.render, htext]
    simp
  rw [content, hempty, if_neg (by decide), read_render h]

/-- The row of a snapshot gives the snapshot, without the transient parts of its findings. -/
theorem toSnapshot_ofSnapshot {s : Snapshot} (hwritable : s.isWritable = true)
    (herrors : (s.errors.map Prod.fst).Nodup) (id : Nat) :
    (ofSnapshot s id).toSnapshot = .ok s.withoutTransients := by
  obtain ⟨hfindings, -⟩ := Bool.and_eq_true_iff.mp hwritable
  have hfindingsForm : HasForm s.findingsDatum := by
    have hitems : ∀ d ∈ s.findings.map Finding.toDatum, HasForm d := by
      intro d hd
      have hshow := Datum.isShowable_list.mp hfindings d hd
      obtain ⟨f, -, hf⟩ := List.mem_map.mp hd
      rw [← hf] at hshow ⊢
      exact f.hasForm_toDatum hshow
    exact .list hitems
  have herrorsForm : HasForm s.errorsDatum := by
    unfold Snapshot.errorsDatum
    apply hasForm_object
    · rwa [List.map_map]
    · intro e he
      obtain ⟨error, -, rfl⟩ := List.mem_map.mp he
      exact .text error.2
  have hparts := s.ofParts_written s.readErrors_errorsDatum
  simp only [toSnapshot, ofSnapshot, content_render hfindingsForm, content_render herrorsForm, Except.mapError, bind,
    Except.bind, hparts]

theorem toEntry_ofSnapshot {s : Snapshot} (hwritable : s.isWritable = true) (id : Nat) :
    (ofSnapshot s id).toEntry = ⟨id, s.time.text, (Summary.ofSnapshot s).toDatum⟩ := by
  obtain ⟨-, hsummary⟩ := Bool.and_eq_true_iff.mp hwritable
  simp only [toEntry, ofSnapshot, content_render (Summary.hasForm_toDatum hsummary)]
  rfl

end HistoryRow

end CertInventory
