import CertInventory.Datum.Checked

/-!
When a reading breaks off. A reading that is put together from others breaks off exactly when one of them does, and
tells of problems otherwise; text, truth values, lists and records of them never break off (`BreaksOffIff`).
-/

namespace CertInventory

namespace Checked

/-- A reading that succeeded, or tells what the problems are. -/
def Told {α : Type} : Checked α → Prop
  | .good _ => True
  | .refused (.invalid details) => details ≠ []
  | .refused .outOfRange => False

/-- A reading breaks off exactly under a condition, and is told otherwise. -/
structure BreaksOffIff {α : Type} (c : Checked α) (P : Prop) : Prop where
  broken : P → c = .refused .outOfRange
  told : ¬ P → c.Told

namespace BreaksOffIff

variable {α β : Type}

theorem good (a : α) : BreaksOffIff (.good a) False := ⟨False.elim, fun _ => trivial⟩

theorem problem (p : Problem) : BreaksOffIff (Checked.problem p : Checked α) False :=
  ⟨False.elim, fun _ => List.cons_ne_nil _ _⟩

theorem congr {c : Checked α} {P Q : Prop} (h : BreaksOffIff c P) (hPQ : P ↔ Q) : BreaksOffIff c Q :=
  ⟨fun q => h.broken (hPQ.mpr q), fun q => h.told (mt hPQ.mp q)⟩

theorem map {c : Checked α} {P : Prop} (h : BreaksOffIff c P) (f : α → β) : BreaksOffIff (c.map f) P := by
  constructor
  · intro hP
    rw [h.broken hP]
    rfl
  · intro hP
    match c, h.told hP with
    | .good a, _ => trivial
    | .refused (.invalid details), hne => exact hne

theorem under {c : Checked α} {P : Prop} (h : BreaksOffIff c P) (step : PathStep) : BreaksOffIff (c.under step) P := by
  constructor
  · intro hP
    rw [h.broken hP]
    rfl
  · intro hP
    match c, h.told hP with
    | .good a, _ => trivial
    | .refused (.invalid details), hne => exact fun hnil => hne (List.map_eq_nil_iff.mp hnil)

/-- Two readings side by side: one that breaks off hides what the other tells. -/
theorem both {f : Checked (α → β)} {c : Checked α} {P Q : Prop} (hf : BreaksOffIff f P) (hc : BreaksOffIff c Q) :
    BreaksOffIff (f.both c) (P ∨ Q) := by
  constructor
  · rintro (hP | hQ)
    · rw [hf.broken hP]
      cases c <;> rfl
    · rw [hc.broken hQ]
      match f with
      | .good _ => rfl
      | .refused (.invalid _) => rfl
      | .refused .outOfRange => rfl
  · intro hPQ
    have hftold := hf.told fun hP => hPQ (.inl hP)
    have hctold := hc.told fun hQ => hPQ (.inr hQ)
    match f, c, hftold, hctold with
    | .good _, .good _, _, _ => trivial
    | .good _, .refused (.invalid _), _, hne => exact hne
    | .refused (.invalid _), .good _, hne, _ => exact hne
    | .refused (.invalid _), .refused (.invalid _), hne, _ => exact List.append_ne_nil_of_left_ne_nil hne _

end BreaksOffIff

end Checked

namespace Datum

open Checked

variable {α : Type}

theorem breaksOff_textForm {damaged : Problem} {d : Datum} {c : Checked String} (h : d.textForm? damaged = some c) :
    BreaksOffIff c False := by
  unfold textForm? at h
  split at h
  · cases h
    exact .good _
  · cases h
    exact .problem .notUnicode
  · split at h
    · cases h
      exact .good _
    · cases h
      exact .problem damaged
  · cases h

theorem breaksOff_byText {damaged other : Problem} {read : String → Checked α}
    (h : ∀ s, BreaksOffIff (read s) False) (d : Datum) : BreaksOffIff (d.byText damaged other read) False := by
  unfold byText
  split
  · exact h _
  · rename_i r hr
    match r, (breaksOff_textForm hr).told not_false with
    | .invalid details, hne => exact ⟨False.elim, fun _ => hne⟩
  · exact .problem other

theorem breaksOff_toText (d : Datum) : BreaksOffIff d.toText False := breaksOff_byText .good d

theorem breaksOff_truthOfNumber (n : Int) : BreaksOffIff (truthOfNumber n) False := by
  unfold truthOfNumber
  split
  · exact .good false
  · split
    · exact .good true
    · exact .problem .unreadableTruth

theorem breaksOff_toTruth (d : Datum) : BreaksOffIff d.toTruth False := by
  unfold toTruth
  split
  · exact .good _
  · split
    · exact breaksOff_truthOfNumber _
    · exact .problem .notTruth
  · split
    · split
      · exact breaksOff_truthOfNumber _
      · exact .problem .notTruth
    · exact .problem .notTruth
  · refine breaksOff_byText (fun s => ?_) _
    unfold truthOfText
    split
    · exact .good _
    · exact .problem .unreadableTruth

theorem breaksOff_readItems {read : Datum → Checked α} (h : ∀ v, BreaksOffIff (read v) False) (start : Nat)
    (vs : List Datum) : BreaksOffIff (readItems read start vs) False := by
  induction vs generalizing start with
  | nil => exact .good []
  | cons v rest ih => exact ((((h v).under _).map _).both (ih (start + 1))).congr (or_self_iff)

theorem breaksOff_toList {read : Datum → Checked α} (h : ∀ v, BreaksOffIff (read v) False) (d : Datum) :
    BreaksOffIff (d.toList read) False := by
  unfold toList
  split
  · exact breaksOff_readItems h 0 _
  · exact breaksOff_readItems h 0 _
  · exact .problem .notList

theorem breaksOff_toRecord {read : List (Scalar × Datum) → Checked α} (h : ∀ entries, BreaksOffIff (read entries) False)
    (d : Datum) : BreaksOffIff (d.toRecord read) False := by
  unfold toRecord
  split
  · exact h _
  · exact .problem .notRecord

theorem breaksOff_fieldOr {read : Datum → Checked α} {P : Datum → Prop} (h : ∀ v, BreaksOffIff (read v) (P v))
    (entries : List (Scalar × Datum)) (name other : String) (default : α) :
    BreaksOffIff (fieldOr entries name other default read)
      (∃ found v, spelled? entries name other = some (found, v) ∧ P v) := by
  unfold fieldOr
  split
  · rename_i found v hfound
    refine ((h v).under (.field found)).congr ⟨fun hP => ⟨found, v, hfound, hP⟩, ?_⟩
    rintro ⟨found', v', hfound', hP⟩
    rw [hfound] at hfound'
    cases hfound'
    exact hP
  · rename_i hnone
    refine (BreaksOffIff.good default).congr ⟨False.elim, ?_⟩
    rintro ⟨found, v, hfound, -⟩
    rw [hnone] at hfound
    cases hfound

theorem breaksOff_fieldOr_never {read : Datum → Checked α} (h : ∀ v, BreaksOffIff (read v) False)
    (entries : List (Scalar × Datum)) (name other : String) (default : α) :
    BreaksOffIff (fieldOr entries name other default read) False :=
  (breaksOff_fieldOr h entries name other default).congr (by simp)

theorem breaksOff_requiredField {read : Datum → Checked α} (h : ∀ v, BreaksOffIff (read v) False)
    (entries : List (Scalar × Datum)) (name other : String) :
    BreaksOffIff (requiredField entries name other read) False := by
  unfold requiredField
  split
  · exact (h _).under _
  · exact (BreaksOffIff.problem .missing).under _

end Datum

end CertInventory
