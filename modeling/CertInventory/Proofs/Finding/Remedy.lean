import CertInventory.Finding.Remedy
import Mathlib.Data.List.Basic

/-!
What findings are told to do. No two types of the playbook have one text, and what a finding of any other type is told
is in the playbook for none, so a text of the playbook is told to the findings of its own type and to no others
(`lookup_eq_remedy_iff`). Only a finding without any trouble is told nothing (`remedy_eq_empty_iff`,
`remedy_ne_empty_iff`).
-/

namespace CertInventory.Finding

def plainRemedies : List String :=
  [revocationRemedy, chainRemedy, postureRemedy, probeRemedy, severityRemedy .critical, severityRemedy .warn,
    severityRemedy .info]

theorem remedy_cases (f : Finding) : playbook.lookup f.findingType = some f.remedy ∨
    playbook.lookup f.findingType = none ∧ f.remedy ∈ plainRemedies := by
  cases h : playbook.lookup f.findingType with
  | some text => simp only [remedy, h, true_or]
  | none =>
    refine .inr ⟨rfl, ?_⟩
    simp only [remedy, h]
    repeat' split
    · simp [plainRemedies]
    · simp [plainRemedies]
    · simp [plainRemedies]
    · simp [plainRemedies]
    · cases f.severity <;> simp [plainRemedies]

theorem type_eq_of_text_eq : ∀ e ∈ playbook, ∀ e' ∈ playbook, e.2 = e'.2 → e.1 = e'.1 := by decide +kernel

theorem text_not_mem_plainRemedies : ∀ e ∈ playbook, e.2 ∉ plainRemedies := by decide +kernel

theorem mem_playbook_of_lookup {type text : String} (h : playbook.lookup type = some text) :
    (type, text) ∈ playbook := by
  obtain ⟨before, behind, hsplit, _⟩ := List.lookup_eq_some_iff.mp h
  rw [hsplit]
  exact List.mem_append_right before List.mem_cons_self

theorem text_ne_empty : ∀ e ∈ playbook, e.2 ≠ "" := by decide +kernel

theorem severityRemedy_eq_empty_iff {s : Severity} : severityRemedy s = "" ↔ s = .info := by
  cases s <;> simp [severityRemedy]

theorem remedy_eq_empty_iff {f : Finding} :
    f.remedy = "" ↔ playbook.lookup f.findingType = none ∧ f.revocationIssues = [] ∧ f.chainErrors = [] ∧
      f.postureIssues = [] ∧ (f.probeOk = true ∨ f.probeError = "") ∧ f.severity = .info := by
  unfold remedy
  cases hlookup : playbook.lookup f.findingType with
  | some text => exact iff_of_false (text_ne_empty _ (mem_playbook_of_lookup hlookup)) (fun h => by cases h.1)
  | none =>
    dsimp only
    split_ifs with hrevocation hchain hposture hprobe
    · exact iff_of_false (by decide) fun h => hrevocation h.2.1
    · exact iff_of_false (by decide) fun h => hchain h.2.2.1
    · exact iff_of_false (by decide) fun h => hposture h.2.2.2.1
    · refine iff_of_false (by decide) fun h => ?_
      simp only [Bool.and_eq_true, Bool.not_eq_true', String.isEmpty_eq_false_iff] at hprobe
      exact h.2.2.2.2.1.elim (fun hok => Bool.noConfusion (hok.symm.trans hprobe.1)) hprobe.2
    · have hprobe : f.probeOk = true ∨ f.probeError = "" := by
        cases hok : f.probeOk with
        | true => exact .inl rfl
        | false => simpa [hok] using hprobe
      rw [severityRemedy_eq_empty_iff]
      exact ⟨fun h => ⟨rfl, of_not_not hrevocation, of_not_not hchain, of_not_not hposture, hprobe, h⟩,
        fun h => h.2.2.2.2.2⟩

/-- There is trouble with a finding: the playbook knows its type, it has issues or errors, its probe failed and says
why, or it is urgent. -/
def IsTroubled (f : Finding) : Prop :=
  f.findingType ∈ playbook.map Prod.fst ∨ f.revocationIssues ≠ [] ∨ f.chainErrors ≠ [] ∨ f.postureIssues ≠ [] ∨
    (f.probeOk = false ∧ f.probeError ≠ "") ∨ f.severity = .warn ∨ f.severity = .critical

theorem remedy_ne_empty_iff {f : Finding} : f.remedy ≠ "" ↔ f.IsTroubled := by
  have htype : playbook.lookup f.findingType = none ↔ f.findingType ∉ playbook.map Prod.fst := by
    rw [List.lookup_eq_none_iff, List.mem_map, not_exists]
    refine forall_congr' fun e => ?_
    rw [not_and, bne_iff_ne, ne_comm]
  have hseverity : f.severity = .info ↔ ¬ (f.severity = .warn ∨ f.severity = .critical) := by
    cases f.severity <;> decide
  rw [ne_eq, remedy_eq_empty_iff, htype, hseverity]
  simp only [IsTroubled, not_and_or, not_or, not_not, ne_eq, Bool.not_eq_true]

@[simp] theorem remedy_withRemedy (f : Finding) : f.withRemedy.remedy = f.remedy := by
  unfold withRemedy
  split <;> rfl

theorem remediation_withRemedy (f : Finding) :
    f.withRemedy.remediation = if f.remediation = "" then f.remedy else f.remediation := by
  simp only [withRemedy, String.isEmpty_iff]
  split <;> rfl

theorem lookup_eq_remedy_iff {f : Finding} {type text : String} (htext : playbook.lookup type = some text) :
    f.remedy = text ↔ f.findingType = type := by
  have hmem := mem_playbook_of_lookup htext
  constructor
  · intro hremedy
    rcases f.remedy_cases with hown | ⟨_, hplain⟩
    · exact type_eq_of_text_eq _ (mem_playbook_of_lookup hown) _ hmem hremedy
    · exact absurd (hremedy ▸ hplain) (text_not_mem_plainRemedies _ hmem)
  · intro htype
    simp only [remedy, htype, htext]

end CertInventory.Finding
