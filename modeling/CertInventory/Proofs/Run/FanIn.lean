import CertInventory.Proofs.Finding.Renewal
import CertInventory.Proofs.Run.Passes
import CertInventory.Proofs.Sample
import Mathlib.Data.List.Induction
import Mathlib.Data.List.Nodup

/-!
What a run keeps of its sources. Every pass over the findings leaves what their source saw of them (`sighting`), so a
snapshot holds the findings of all sources one for one, in the order in which the sources were done; the errors hold
one entry for each name under which a source failed. What a timer was told, and how it took it, is not read.
-/

namespace CertInventory

/-- What a source saw of a finding: where it is, its certificate and its probe, without what a run decides about it
or drops from it. -/
def Finding.sighting (f : Finding) : Finding :=
  { f.withoutTransients with
    revocationIssues := []
    severity := .info
    findingType := ""
    notes := ""
    remediation := ""
    cluster := "" }

namespace SourceReport

theorem mem_putError {name text : String} {found : List (String × String)} {e : String × String}
    (h : e ∈ putError name text found) : e = (name, text) ∨ e ∈ found := by
  induction found with
  | nil => exact .inl (List.mem_singleton.mp h)
  | cons first found ih =>
    rw [putError] at h
    split at h
    · rename_i hsame
      rcases List.mem_cons.mp h with rfl | h
      · exact .inl (by rw [hsame])
      · exact .inr (List.mem_cons_of_mem _ h)
    · rcases List.mem_cons.mp h with rfl | h
      · exact .inr List.mem_cons_self
      · exact (ih h).imp_right (List.mem_cons_of_mem _)

/-- A name that has an error keeps its place, and a new one comes last. -/
theorem names_putError (name text : String) (found : List (String × String)) :
    (putError name text found).map Prod.fst =
      if name ∈ found.map Prod.fst then found.map Prod.fst else found.map Prod.fst ++ [name] := by
  induction found with
  | nil => rfl
  | cons first found ih =>
    rw [putError]
    by_cases hsame : first.1 = name
    · simp [hsame]
    · have hne : ¬ name = first.1 := fun h => hsame h.symm
      simp only [hsame, if_false, List.map_cons, ih, List.mem_cons, hne, false_or]
      split <;> rfl

theorem errors_concat (reports : List SourceReport) (r : SourceReport) :
    errors (reports ++ [r]) =
      match r.outcome with
      | .ok _ => errors reports
      | .error text => putError r.name text (errors reports) := by
  rw [errors, List.foldl_append]
  rfl

/-- Every error is that of a report. -/
theorem exists_report_of_mem_errors {reports : List SourceReport} {e : String × String} (h : e ∈ errors reports) :
    ∃ r ∈ reports, r.name = e.1 ∧ r.outcome = .error e.2 := by
  induction reports using List.reverseRecOn with
  | nil => simp [errors] at h
  | append_singleton reports r ih =>
    have hearlier : e ∈ errors reports → ∃ r' ∈ reports ++ [r], r'.name = e.1 ∧ r'.outcome = .error e.2 := by
      intro h
      obtain ⟨r', hmem, hr'⟩ := ih h
      exact ⟨r', List.mem_append_left _ hmem, hr'⟩
    rw [errors_concat] at h
    split at h
    · exact hearlier h
    · rename_i text htext
      rcases mem_putError h with rfl | h
      · exact ⟨r, List.mem_concat_self, rfl, htext⟩
      · exact hearlier h

theorem mem_names_errors_of_mem {reports : List SourceReport} {r : SourceReport} {text : String}
    (hmem : r ∈ reports) (htext : r.outcome = .error text) : r.name ∈ (errors reports).map Prod.fst := by
  induction reports using List.reverseRecOn with
  | nil => simp at hmem
  | append_singleton reports last ih =>
    rw [errors_concat]
    rcases List.mem_append.mp hmem with hmem | hmem
    · have hr := ih hmem
      split
      · exact hr
      · rw [names_putError]
        split
        · exact hr
        · exact List.mem_append_left _ hr
    · obtain rfl := List.mem_singleton.mp hmem
      simp only [htext, names_putError]
      split
      · assumption
      · exact List.mem_concat_self

/-- The names of errors are the names of the reports that have one. -/
theorem mem_names_errors {reports : List SourceReport} {name : String} :
    name ∈ (errors reports).map Prod.fst ↔ ∃ r ∈ reports, r.name = name ∧ ∃ text, r.outcome = .error text := by
  constructor
  · intro h
    obtain ⟨e, he, rfl⟩ := List.mem_map.mp h
    obtain ⟨r, hr, hname, htext⟩ := exists_report_of_mem_errors he
    exact ⟨r, hr, hname, e.2, htext⟩
  · rintro ⟨r, hr, rfl, text, htext⟩
    exact mem_names_errors_of_mem hr htext

/-- No two errors have one name. -/
theorem nodup_names_errors (reports : List SourceReport) : ((errors reports).map Prod.fst).Nodup := by
  induction reports using List.reverseRecOn with
  | nil => exact List.nodup_nil
  | append_singleton reports r ih =>
    rw [errors_concat]
    split
    · exact ih
    · rw [names_putError]
      split
      · exact ih
      · rename_i hnew
        rw [← List.concat_eq_append]
        exact ih.concat hnew

end SourceReport

namespace Finding

theorem sighting_renewed (all : List Finding) (f : Finding) : (renewed all f).sighting = f.sighting := by
  rcases renewed_cases all f with ⟨h, _⟩ | ⟨_, h, _⟩ | ⟨_, h, _⟩ <;> rw [h] <;> rfl

end Finding

namespace Run

open Finding

variable {σ : Type}

theorem sighting_withIssues (f : Finding) (issues : List String) : (withIssues f issues).sighting = f.sighting := by
  unfold withIssues
  split
  · rfl
  · unfold Finding.withRevocation
    split <;> rfl

theorem sighting_emitted (cluster : String) (f : Finding) : (emitted cluster f).sighting = f.sighting := by
  unfold emitted inCluster Finding.withRemedy
  split <;> split <;> rfl

/-- An order that names every place once gives every source once. -/
theorem inOrder_perm {order : List Nat} {sources : List Source} (h : order.Perm (List.range sources.length)) :
    (inOrder order sources).Perm sources := by
  have hplaces : (List.range sources.length).map (fun i => sources[i]?) = sources.map some := by
    apply List.ext_getElem
    · simp
    · intro i hi _
      simp only [List.length_map, List.length_range] at hi
      simp [hi]
  have hall : inOrder (List.range sources.length) sources = sources := by
    have hid := congrArg (List.filterMap id) hplaces
    rw [List.filterMap_map, List.filterMap_map] at hid
    exact hid.trans List.filterMap_some
  have hperm : (inOrder order sources).Perm (inOrder (List.range sources.length) sources) := h.filterMap _
  rwa [hall] at hperm

end Run

end CertInventory
