import CertInventory.Proofs.Finding.Renewal
import Mathlib.Algebra.GroupWithZero.Nat
import Mathlib.Algebra.BigOperators.Group.List.Basic
import Mathlib.Data.List.Perm.Basic

/-!
Renewals of findings that come in another order. A renewal reads the order in one place only: of several managed
certificates with one serial number the last counts. Nothing that comes later makes up for that: where the findings
come out alike in both orders, every urgent finding has the same managed key in both (`keyAmong?_eq_of_perm_map`).
-/

namespace CertInventory.Finding

def renewalHead : String := "managed by cert-manager Certificate "

def renewalState (isPending : Bool) : String := if isPending then ", renewal UNHEALTHY" else ", renewal healthy"

def renewalNote (isPending : Bool) (key : String) : String := renewalHead ++ key ++ renewalState isPending

def noteHead (notes : String) : String := if notes.isEmpty then "" else notes ++ "; "

/-- The notes of an urgent finding with a managed key; those of a healthy renewal take the place of all others. -/
def noted (isPending : Bool) (key notes : String) : String :=
  (if isPending then noteHead notes else "") ++ renewalNote isPending key

theorem withNote_eq (f : Finding) (note : String) : f.withNote note = noteHead f.notes ++ note := by
  unfold withNote noteHead
  split
  · rw [String.empty_append]
  · rfl

theorem notes_renewed {all : List Finding} {f : Finding} {key : String} (hurgent : f.severity ≠ .info)
    (hkey : f.keyAmong? all = some key) :
    (renewed all f).notes = noted (decide (key ∈ pendingKeys all)) key f.notes := by
  simp only [renewed, if_neg hurgent, hkey]
  by_cases hpending : key ∈ pendingKeys all
  · rw [if_pos hpending, decide_eq_true hpending]
    exact withNote_eq f (renewalNote true key)
  · rw [if_neg hpending, decide_eq_false hpending]
    exact (@String.empty_append (renewalNote false key)).symm

/-- The last letter of a note tells whether the renewal is pending. -/
theorem getLast?_noted (isPending : Bool) (key notes : String) :
    (noted isPending key notes).toList.getLast? = some (if isPending then 'Y' else 'y') := by
  have hstate : (renewalState isPending).toList.getLast? = some (if isPending then 'Y' else 'y') := by
    cases isPending <;> decide
  simp only [noted, renewalNote, String.toList_append, List.getLast?_append, hstate, Option.some_or]

theorem renewalNote_inj {isPending : Bool} {key key' : String}
    (h : renewalNote isPending key = renewalNote isPending key') : key = key' := by
  have h := congrArg String.toList h
  simp only [renewalNote, String.toList_append, List.append_cancel_right_eq, List.append_cancel_left_eq] at h
  exact String.toList_injective h

theorem sum_length_noted (isPending : Bool) (key : String) (notes : List String) :
    ((notes.map (noted isPending key)).map String.length).sum =
      (notes.map fun w => (if isPending then noteHead w else "").length).sum +
        notes.length * (renewalNote isPending key).length := by
  simp only [List.map_map, Function.comp_def, noted, String.length_append, List.sum_map_add, List.map_const',
    List.sum_replicate, Nat.nsmul_eq_mul]

/-- Several texts with one note behind each are those with another only where the two notes have one key. The lengths
have to agree first, since a note may end in a shorter one. -/
theorem key_eq_of_perm_noted {isPending isPending' : Bool} {key key' : String} {notes : List String}
    (hne : notes ≠ []) (h : (notes.map (noted isPending key)).Perm (notes.map (noted isPending' key'))) :
    key = key' := by
  obtain ⟨w, hw⟩ := List.exists_mem_of_ne_nil notes hne
  obtain ⟨w', _, hsame⟩ := List.mem_map.mp (h.subset (List.mem_map_of_mem hw))
  obtain rfl : isPending = isPending' := by
    have hlast := congrArg (fun s => s.toList.getLast?) hsame
    simp only [getLast?_noted, Option.some.injEq] at hlast
    cases isPending <;> cases isPending' <;> simp_all
  have hlength : (renewalNote isPending key).length = (renewalNote isPending key').length := by
    have hsum := (h.map String.length).sum_eq
    rw [sum_length_noted, sum_length_noted, Nat.add_left_cancel_iff] at hsum
    exact Nat.eq_of_mul_eq_mul_left (List.length_pos_of_ne_nil hne) hsum
  have hlists := congrArg String.toList hsame
  simp only [noted, String.toList_append] at hlists
  have hends := List.append_inj_right' hlists (by rw [String.length_toList, String.length_toList, hlength])
  exact (renewalNote_inj (String.toList_injective hends)).symm

/-- The light of a run depends on nothing but the managed key and the keys of pending renewals. -/
theorem renewed_congr {all all' : List Finding} {f : Finding} (hkey : f.keyAmong? all = f.keyAmong? all')
    (hpending : ∀ key, key ∈ pendingKeys all ↔ key ∈ pendingKeys all') : renewed all f = renewed all' f := by
  simp only [renewed, hkey, hpending]

theorem renewed_of_info {all : List Finding} {f : Finding} (h : f.severity = .info) : renewed all f = f := by
  simp only [renewed, if_pos h]

theorem keyAmong?_eq_of_serial_eq {all : List Finding} {f g : Finding} (hf : f.source ≠ certManagerSource)
    (hg : g.source ≠ certManagerSource) (hserial : g.serial = f.serial) : g.keyAmong? all = f.keyAmong? all := by
  simp only [keyAmong?, if_neg hf, if_neg hg, hserial]

theorem keyOfSerial?_eq_none_iff {all : List Finding} {serial : String} :
    keyOfSerial? all serial = none ↔ ∀ g ∈ all, g.IsManaged → g.serial ≠ serial := by
  simp [keyOfSerial?, showsManaged_iff]

def keyTrace (f : Finding) : String × String × String := (f.source, f.serial, f.notes)

theorem keyTrace_renewed (all : List Finding) (f : Finding) :
    (renewed all f).keyTrace = (f.source, f.serial, (renewed all f).notes) := by
  rcases renewed_cases all f with ⟨h, _⟩ | ⟨_, h, _⟩ | ⟨_, h, _⟩ <;> rw [h] <;> rfl

def knownBy (serial : String) (all : List Finding) : List Finding :=
  all.filter fun f => decide (f.source ≠ certManagerSource ∧ f.serial = serial)

theorem mem_knownBy {serial : String} {all : List Finding} {f : Finding} :
    f ∈ knownBy serial all ↔ f ∈ all ∧ f.source ≠ certManagerSource ∧ f.serial = serial := by
  simp [knownBy]

/-- Findings that come out alike come out with the same notes among those of one serial number. -/
theorem perm_notes_knownBy {all l l' : List Finding}
    (h : (all.map fun f => (renewed l f).keyTrace).Perm (all.map fun f => (renewed l' f).keyTrace))
    (serial : String) : ((knownBy serial all).map fun f => (renewed l f).notes).Perm
      ((knownBy serial all).map fun f => (renewed l' f).notes) := by
  have h := (h.filter fun t => decide (t.1 ≠ certManagerSource ∧ t.2.1 = serial)).map fun t => t.2.2
  simpa only [keyTrace_renewed, List.filter_map, List.map_map, Function.comp_def, knownBy] using h

section Reordered

variable {all all' : List Finding} (h : all.Perm all')
include h

theorem mem_pendingKeys_of_perm {key : String} : key ∈ pendingKeys all ↔ key ∈ pendingKeys all' := by
  simp only [mem_pendingKeys, h.mem_iff]

theorem keyAmong?_eq_of_source {f : Finding} (hsource : f.source = certManagerSource) :
    f.keyAmong? all = f.keyAmong? all' := by
  have hmem : f.managedKey ∈ managedKeys all ↔ f.managedKey ∈ managedKeys all' := by
    simp only [mem_managedKeys, h.mem_iff]
  simp only [keyAmong?, if_pos hsource, hmem]

theorem keyOfSerial?_eq_none_of_perm {serial : String} (hnone : keyOfSerial? all serial = none) :
    keyOfSerial? all' serial = none := by
  simpa only [keyOfSerial?_eq_none_iff, h.mem_iff] using hnone

/-- A finding has the same managed key in both orders, or it is known by its serial number and has a key in each. -/
theorem keyAmong?_eq_or_of_perm (f : Finding) : f.keyAmong? all = f.keyAmong? all' ∨
    f.source ≠ certManagerSource ∧
      ∃ key key', f.keyAmong? all = some key ∧ f.keyAmong? all' = some key' := by
  by_cases hsource : f.source = certManagerSource
  · exact .inl (keyAmong?_eq_of_source h hsource)
  · simp only [keyAmong?, if_neg hsource]
    split
    · exact .inl rfl
    · cases hkey : keyOfSerial? all f.serial with
      | none => exact .inl (keyOfSerial?_eq_none_of_perm h hkey).symm
      | some key =>
        cases hkey' : keyOfSerial? all' f.serial with
        | none => simp [keyOfSerial?_eq_none_of_perm h.symm hkey'] at hkey
        | some key' => exact .inr ⟨hsource, key, key', rfl, rfl⟩

/-- Where one serial number stands for one managed key, the order decides nothing. -/
theorem keyAmong?_eq_of_perm {f : Finding} (hone : ∀ g ∈ all, ∀ g' ∈ all, g.IsManaged → g'.IsManaged →
    g.serial ≠ "" → g.serial = g'.serial → g.managedKey = g'.managedKey) :
    f.keyAmong? all = f.keyAmong? all' := by
  rcases keyAmong?_eq_or_of_perm h f with heq | ⟨hsource, key, key', hkey, hkey'⟩
  · exact heq
  · rw [hkey, hkey', Option.some.injEq]
    rw [keyAmong?_eq_some_iff] at hkey hkey'
    cases hkey with
    | named hs => exact absurd hs hsource
    | @served before behind g _ hne hsplit hg hserial =>
      cases hkey' with
      | named hs => exact absurd hs hsource
      | @served before' behind' g' _ _ hsplit' hg' hserial' =>
        have hmem : g ∈ all := by simp [hsplit]
        have hmem' : g' ∈ all := h.mem_iff.mpr (by simp [hsplit'])
        exact hone g hmem g' hmem' hg hg' (hserial ▸ hne) (hserial.trans hserial'.symm)

/-- Findings that come out alike in both orders, as far as source, serial number and notes go, had the same managed
keys in both where they are urgent. All findings known by a serial number share its key, so their notes are compared
together; those that are not urgent keep theirs and cancel out. -/
theorem keyAmong?_eq_of_perm_map
    (halike : (all.map fun f => (renewed all f).keyTrace).Perm (all.map fun f => (renewed all' f).keyTrace))
    {f : Finding} (hf : f ∈ all) (hurgent : f.severity ≠ .info) : f.keyAmong? all = f.keyAmong? all' := by
  rcases keyAmong?_eq_or_of_perm h f with heq | ⟨hsource, key, key', hkey, hkey'⟩
  · exact heq
  · let urgent := (knownBy f.serial all).filter fun g => decide (g.severity ≠ .info)
    let others := (knownBy f.serial all).filter fun g => !decide (g.severity ≠ .info)
    have hsplit : (urgent ++ others).Perm (knownBy f.serial all) := List.filter_append_perm _ _
    have hsplit' (l : List Finding) := hsplit.map fun g => (renewed l g).notes
    have hnotes := ((hsplit' all).trans (perm_notes_knownBy halike f.serial)).trans (hsplit' all').symm
    have hothers (l : List Finding) : (others.map fun g => (renewed l g).notes) = others.map Finding.notes := by
      apply List.map_congr_left
      intro g hg
      rw [renewed_of_info (by simpa using (List.mem_filter.mp hg).2)]
    have hnoted (l : List Finding) {k : String} (hk : f.keyAmong? l = some k) :
        (urgent.map fun g => (renewed l g).notes) =
          (urgent.map Finding.notes).map (noted (decide (k ∈ pendingKeys l)) k) := by
      rw [List.map_map]
      apply List.map_congr_left
      intro g hg
      obtain ⟨hknown, hurgent⟩ := List.mem_filter.mp hg
      obtain ⟨_, hsource', hserial⟩ := mem_knownBy.mp hknown
      exact notes_renewed (of_decide_eq_true hurgent) ((keyAmong?_eq_of_serial_eq hsource hsource' hserial).trans hk)
    have hmem : f ∈ urgent := List.mem_filter.mpr ⟨mem_knownBy.mpr ⟨hf, hsource, rfl⟩, decide_eq_true hurgent⟩
    rw [List.map_append, List.map_append, hothers all, hothers all', List.perm_append_right_iff, hnoted all hkey,
      hnoted all' hkey'] at hnotes
    rw [hkey, hkey', key_eq_of_perm_noted (by simpa using List.ne_nil_of_mem hmem) hnotes]

end Reordered

end CertInventory.Finding
