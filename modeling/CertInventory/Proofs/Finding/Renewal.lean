import CertInventory.Finding.Renewal
import CertInventory.Finding.Urgency
import Mathlib.Data.List.Basic

/-!
Managed certificates as a relation. `HasManagedKey` says which managed certificate a finding is about and
`RenewsByItself` that none of its renewals is pending; `severity_renewed` is what the renewals of a run do to a
severity. Judging findings first changes neither relation.
-/

namespace CertInventory.Finding

/-- A probed finding of the certificate manager. -/
def IsManaged (f : Finding) : Prop := f.source = certManagerSource ∧ f.probeOk = true

/-- The key of the managed certificate that a finding is about: its own for one of the certificate manager's, and
for any other that of the last managed finding with its serial number. -/
inductive HasManagedKey (all : List Finding) (f : Finding) : String → Prop where
  | named {g : Finding} : f.source = certManagerSource → g ∈ all → g.IsManaged → g.managedKey = f.managedKey →
      HasManagedKey all f f.managedKey
  | served {before behind : List Finding} {g : Finding} : f.source ≠ certManagerSource → f.serial ≠ "" →
      all = before ++ g :: behind → g.IsManaged → g.serial = f.serial →
      (∀ h ∈ behind, h.IsManaged → h.serial ≠ f.serial) → HasManagedKey all f g.managedKey

/-- A finding of a renewal request that is pending for a key. -/
def IsPendingFor (key : String) (f : Finding) : Prop :=
  f.source = renewalSource ∧ f.findingType = requestPending ∧ f.managedKey = key

/-- A finding about a managed certificate none of whose renewals is pending. -/
def RenewsByItself (all : List Finding) (f : Finding) : Prop :=
  ∃ key, HasManagedKey all f key ∧ ∀ g ∈ all, ¬ IsPendingFor key g

theorem not_renewsByItself {all : List Finding} {f : Finding} (hall : ∀ g ∈ all, ¬ g.IsManaged) :
    ¬ RenewsByItself all f := by
  rintro ⟨key, hkey, _⟩
  cases hkey with
  | named _ hg hmanaged _ => exact hall _ hg hmanaged
  | served _ _ hsplit hmanaged _ _ =>
    exact hall _ (hsplit ▸ List.mem_append_right _ List.mem_cons_self) hmanaged

theorem showsManaged_iff {f : Finding} : f.showsManaged = true ↔ f.IsManaged := by
  simp [showsManaged, IsManaged]

theorem mem_managedKeys {all : List Finding} {key : String} :
    key ∈ managedKeys all ↔ ∃ g ∈ all, g.IsManaged ∧ g.managedKey = key := by
  simp [managedKeys, showsManaged_iff, and_assoc]

theorem mem_pendingKeys {all : List Finding} {key : String} :
    key ∈ pendingKeys all ↔ ∃ g ∈ all, IsPendingFor key g := by
  simp [pendingKeys, showsPending, IsPendingFor, and_assoc]

theorem keyOfSerial?_eq_some_iff {all : List Finding} {serial key : String} :
    keyOfSerial? all serial = some key ↔
      ∃ before g behind, all = before ++ g :: behind ∧ g.IsManaged ∧ g.serial = serial ∧
        (∀ h ∈ behind, h.IsManaged → h.serial ≠ serial) ∧ g.managedKey = key := by
  have hfind : keyOfSerial? all serial =
      (all.reverse.find? fun f => f.showsManaged && f.serial == serial).map managedKey := by
    rw [keyOfSerial?, List.getLast?_map, List.getLast?_eq_head?_reverse, ← List.filter_reverse, List.head?_filter]
  rw [hfind, Option.map_eq_some_iff]
  constructor
  · rintro ⟨g, hg, rfl⟩
    obtain ⟨hgood, behind, before, hsplit, hnone⟩ := List.find?_eq_some_iff_append.mp hg
    simp only [Bool.and_eq_true, showsManaged_iff, beq_iff_eq] at hgood
    refine ⟨before.reverse, g, behind.reverse, ?_, hgood.1, hgood.2, ?_, rfl⟩
    · simpa using congrArg List.reverse hsplit
    · intro h hh hm hs
      have hh := hnone h (List.mem_reverse.mp hh)
      simp [showsManaged_iff.mpr hm, hs] at hh
  · rintro ⟨before, g, behind, rfl, hm, hs, hnone, rfl⟩
    refine ⟨g, List.find?_eq_some_iff_append.mpr ⟨?_, behind.reverse, before.reverse, by simp, ?_⟩, rfl⟩
    · simp [showsManaged_iff.mpr hm, hs]
    · intro h hh
      have hh := hnone h (List.mem_reverse.mp hh)
      rw [← showsManaged_iff] at hh
      rw [Bool.not_eq_true', Bool.and_eq_false_iff, beq_eq_false_iff_ne]
      cases hm : h.showsManaged with
      | false => exact .inl rfl
      | true => exact .inr (hh hm)

theorem keyAmong?_eq_some_iff {all : List Finding} {f : Finding} {key : String} :
    f.keyAmong? all = some key ↔ HasManagedKey all f key := by
  constructor
  · intro h
    unfold keyAmong? at h
    split at h
    next hsource =>
      split at h
      next hmem =>
        obtain ⟨g, hg, hm, hkey⟩ := mem_managedKeys.mp hmem
        obtain rfl := Option.some.inj h
        exact .named hsource hg hm hkey
      next => simp at h
    next hsource =>
      split at h
      next => simp at h
      next hserial =>
        obtain ⟨before, g, behind, hsplit, hm, hs, hnone, rfl⟩ := keyOfSerial?_eq_some_iff.mp h
        exact .served hsource (by simpa using hserial) hsplit hm hs hnone
  · intro h
    cases h with
    | named hsource hg hm hkey =>
      have hmem : f.managedKey ∈ managedKeys all := mem_managedKeys.mpr ⟨_, hg, hm, hkey⟩
      simp only [keyAmong?, if_pos hsource, if_pos hmem]
    | served hsource hserial hsplit hm hs hnone =>
      have hempty : f.serial.isEmpty = false := by simpa using hserial
      simp only [keyAmong?, if_neg hsource, hempty]
      exact keyOfSerial?_eq_some_iff.mpr ⟨_, _, _, hsplit, hm, hs, hnone, rfl⟩

theorem renewsByItself_iff {all : List Finding} {f : Finding} :
    RenewsByItself all f ↔ ∃ key, f.keyAmong? all = some key ∧ key ∉ pendingKeys all := by
  simp only [RenewsByItself, keyAmong?_eq_some_iff, mem_pendingKeys, not_exists, not_and]

instance (all : List Finding) (f : Finding) : Decidable (RenewsByItself all f) :=
  match h : f.keyAmong? all with
  | none => isFalse fun hr => by simp [renewsByItself_iff, h] at hr
  | some key =>
    if hkey : key ∈ pendingKeys all then isFalse fun hr => by simp [renewsByItself_iff, h, hkey] at hr
    else isTrue (renewsByItself_iff.mpr ⟨key, h, hkey⟩)

/-- The light of its run leaves a finding alone, adds a note to it, or makes it a renewal at `info`. -/
theorem renewed_cases (all : List Finding) (f : Finding) :
    (renewed all f = f ∧ (f.severity = .info ∨ f.keyAmong? all = none)) ∨
    (∃ note, renewed all f = { f with notes := note } ∧ ¬ RenewsByItself all f) ∨
    ∃ note, renewed all f = { f with findingType := managedExpiry, severity := .info, notes := note } ∧
      f.severity ≠ .info ∧ RenewsByItself all f := by
  by_cases hinfo : f.severity = .info
  · exact .inl ⟨by simp [renewed, hinfo], .inl hinfo⟩
  · cases hkey : f.keyAmong? all with
    | none => exact .inl ⟨by simp [renewed, hinfo, hkey], .inr rfl⟩
    | some key =>
      by_cases hpending : key ∈ pendingKeys all
      · refine .inr (.inl ⟨_, by simp only [renewed, hinfo, hkey, hpending, ↓reduceIte]; rfl, ?_⟩)
        simp [renewsByItself_iff, hkey, hpending]
      · refine .inr (.inr ⟨_, by simp only [renewed, hinfo, hkey, hpending, ↓reduceIte]; rfl, hinfo, ?_⟩)
        exact renewsByItself_iff.mpr ⟨key, hkey, hpending⟩

theorem severity_renewed (all : List Finding) (f : Finding) :
    (renewed all f).severity =
      if f.severity ≠ .info ∧ RenewsByItself all f then .info else f.severity := by
  rcases renewed_cases all f with ⟨h, hinfo | hkey⟩ | ⟨_, h, hnot⟩ | ⟨_, h, hinfo, hrenews⟩
  · simp [h, hinfo]
  · simp [h, renewsByItself_iff, hkey]
  · simp [h, hnot]
  · simp [h, hinfo, hrenews]

theorem findingType_renewed (all : List Finding) (f : Finding) :
    (renewed all f).findingType =
      if f.severity ≠ .info ∧ RenewsByItself all f then managedExpiry else f.findingType := by
  rcases renewed_cases all f with ⟨h, hinfo | hkey⟩ | ⟨_, h, hnot⟩ | ⟨_, h, hinfo, hrenews⟩
  · simp [h, hinfo]
  · simp [h, renewsByItself_iff, hkey]
  · simp [h, hnot]
  · simp [h, hinfo, hrenews]

theorem remediation_renewed (all : List Finding) (f : Finding) : (renewed all f).remediation = f.remediation := by
  rcases renewed_cases all f with ⟨h, _⟩ | ⟨_, h, _⟩ | ⟨_, h, _⟩ <;> rw [h]

theorem managedKeys_classified (c : Cutoffs) (all : List Finding) :
    managedKeys (all.map (classified c)) = managedKeys all := by
  simp only [managedKeys, List.filter_map, List.map_map]
  rfl

theorem pendingKeys_classified (c : Cutoffs) (all : List Finding) :
    pendingKeys (all.map (classified c)) = pendingKeys all := by
  simp only [pendingKeys, List.filter_map, List.map_map]
  rfl

theorem keyOfSerial?_classified (c : Cutoffs) (all : List Finding) (serial : String) :
    keyOfSerial? (all.map (classified c)) serial = keyOfSerial? all serial := by
  simp only [keyOfSerial?, List.filter_map, List.map_map]
  rfl

theorem keyAmong?_classified (c : Cutoffs) (all : List Finding) (f : Finding) :
    (f.classified c).keyAmong? (all.map (classified c)) = f.keyAmong? all := by
  simp only [keyAmong?, managedKeys_classified, keyOfSerial?_classified]
  rfl

/-- The severity that a finding is judged at decides nothing about who manages its certificate. -/
theorem renewsByItself_classified (c : Cutoffs) (all : List Finding) (f : Finding) :
    RenewsByItself (all.map (classified c)) (f.classified c) ↔ RenewsByItself all f := by
  simp only [renewsByItself_iff, keyAmong?_classified, pendingKeys_classified]

end CertInventory.Finding
