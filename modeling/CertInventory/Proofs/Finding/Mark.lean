import CertInventory.Finding.Urgency
import CertInventory.Outside.Web
import Mathlib.Data.List.Basic

/-!
Texts with the mark of a revoked certificate in them. A mark is not put together by the words around the parts of a
message: it stands in one of the parts or in none.
-/

namespace CertInventory

open Finding

/-- A text with the mark of a revoked certificate in it. -/
def SaysRevoked (text : String) : Prop := revokedMark.toList <:+: text.toList

instance (text : String) : Decidable (SaysRevoked text) := decidable_of_iff _ Text.contains_iff_isInfix

theorem Finding.isRevoked_iff {f : Finding} : f.isRevoked = true ↔ ∃ issue ∈ f.revocationIssues, SaysRevoked issue := by
  simp only [isRevoked, List.any_eq_true, Text.contains_iff_isInfix, SaysRevoked]

theorem Finding.severity_withRevocation (f : Finding) :
    f.withRevocation.severity = if ∃ issue ∈ f.revocationIssues, SaysRevoked issue then .critical else f.severity := by
  simp only [withRevocation, isRevoked_iff]
  split <;> rfl

def isForeign (c : Char) : Bool := !revokedMark.toList.contains c

theorem not_mem_revokedMark {c : Char} (h : isForeign c = true) : c ∉ revokedMark.toList := by
  simpa [isForeign] using h

theorem revokedMark_ne_nil : revokedMark.toList ≠ [] := by decide +kernel

theorem isPlain_of_mem_revokedMark : ∀ c ∈ revokedMark.toList, Text.isPlain c = true :=
  List.all_eq_true.mp (by decide +kernel : revokedMark.toList.all Text.isPlain = true)

theorem not_saysRevoked_of_not_mem {c : Char} {text : String} (hmark : c ∈ revokedMark.toList)
    (h : c ∉ text.toList) : ¬ SaysRevoked text := fun hsays => h <| hsays.subset hmark

/-- No mark reaches across the end of a text whose last character is none of the mark's. -/
theorem saysRevoked_append_of_last {a : String} (h : a.toList.getLast?.any isForeign = true) (b : String) :
    SaysRevoked (a ++ b) ↔ SaysRevoked a ∨ SaysRevoked b := by
  obtain ⟨c, hlast, hforeign⟩ := (Option.any_eq_true _ _).mp h
  obtain ⟨l, ha⟩ := List.getLast?_eq_some_iff.mp hlast
  have hc := not_mem_revokedMark hforeign
  have hshort : revokedMark.toList <:+: l ++ [c] ↔ revokedMark.toList <:+: l := by
    rw [Text.isInfix_append_cons hc, List.infix_nil]
    exact or_iff_left revokedMark_ne_nil
  rw [SaysRevoked, SaysRevoked, String.toList_append, ha, List.append_assoc, List.singleton_append,
    Text.isInfix_append_cons hc, hshort]
  rfl

/-- No mark reaches across the beginning of a text whose first character is none of the mark's. -/
theorem saysRevoked_append_of_first (a : String) {b : String} (h : b.toList.head?.any isForeign = true) :
    SaysRevoked (a ++ b) ↔ SaysRevoked a ∨ SaysRevoked b := by
  obtain ⟨c, hfirst, hforeign⟩ := (Option.any_eq_true _ _).mp h
  obtain ⟨l, hb⟩ := List.head?_eq_some_iff.mp hfirst
  have hc := not_mem_revokedMark hforeign
  have hshort : revokedMark.toList <:+: c :: l ↔ revokedMark.toList <:+: l := by
    rw [← List.nil_append (c :: l), Text.isInfix_append_cons hc, List.infix_nil]
    exact or_iff_right revokedMark_ne_nil
  simp only [SaysRevoked, String.toList_append, hb, Text.isInfix_append_cons hc, hshort]

/-- Words that lead to a text: they do not bear the mark, and none begins in them. -/
def Leads (words : String) : Prop := ¬ SaysRevoked words ∧ words.toList.getLast?.any isForeign = true

/-- Words that lead from one text to another: no mark ends in them either. -/
def Joins (words : String) : Prop := Leads words ∧ words.toList.head?.any isForeign = true

instance (words : String) : Decidable (Leads words) := inferInstanceAs (Decidable (_ ∧ _))

instance (words : String) : Decidable (Joins words) := inferInstanceAs (Decidable (_ ∧ _))

theorem Leads.saysRevoked_append_iff {words : String} (h : Leads words) (text : String) :
    SaysRevoked (words ++ text) ↔ SaysRevoked text := by
  rw [saysRevoked_append_of_last h.2]
  exact or_iff_right h.1

theorem Joins.saysRevoked_append_iff {words : String} (h : Joins words) (a b : String) :
    SaysRevoked (a ++ words ++ b) ↔ SaysRevoked a ∨ SaysRevoked b := by
  obtain ⟨c, hc, hforeign⟩ := (Option.any_eq_true _ _).mp h.2
  have hends : (words ++ b).toList.head?.any isForeign = true := by
    rw [String.toList_append, List.head?_append, hc]
    exact hforeign
  rw [String.append_assoc, saysRevoked_append_of_first a hends, h.1.saysRevoked_append_iff]

/-- Neither digits nor what stands between them in a date bear the mark. -/
theorem not_saysRevoked_secondText (t : Time.Instant) : ¬ SaysRevoked t.secondText := by
  have hdigits (n : Nat) : '_' ∉ Text.decimal n := by
    intro h
    rcases Text.toNat_of_mem_digitsIn h with h | h <;> exact absurd h (by decide)
  have hpadded (width n : Nat) : '_' ∉ Text.padded width n := by
    intro h
    rcases Text.toNat_of_mem_padded h with h | h <;> exact absurd h (by decide)
  have hchars : '_' ∉ t.secondChars := by
    simp [Time.Instant.secondChars, Time.Instant.dateText, Time.Instant.clockText, hpadded]
  apply not_saysRevoked_of_not_mem (c := '_') (by decide +kernel)
  simp only [Time.Instant.secondText, String.toList_ofList, List.mem_append, hdigits, false_or, List.mem_singleton,
    Char.reduceEq, or_false]
  exact fun h => hchars (List.drop_subset _ _ h)

/-- An address that cannot be asked bears the mark wherever its quotation does. -/
theorem saysRevoked_of_noScheme {url : String}
    (h : SaysRevoked (Fault.noScheme (String.ofList (requestAddress url))).text) : SaysRevoked url := by
  have hwords : Leads "unknown url type: " := by decide +kernel
  have hquoted := (hwords.saysRevoked_append_iff _).mp h
  rw [SaysRevoked, Text.quoted, String.toList_ofList, String.toList_ofList] at hquoted
  exact (Text.isInfix_of_isInfix_quotedChars revokedMark_ne_nil isPlain_of_mem_revokedMark hquoted).trans
    (requestAddress_isInfix url)

end CertInventory
