import CertInventory.Config.Read
import CertInventory.Proofs.Datum.Checked

/-!
What reading a configuration can come to. Exactly where a period is too long for a duration the reading breaks off
without an error of the configuration; otherwise there is a sound configuration, or the problems are told.
-/

namespace CertInventory

open Time Checked

theorem ofWholeSeconds_eq_outOfRange_iff {n : Int} :
    Duration.ofWholeSeconds n = .error .outOfRange ↔ n < -(86400 * 999999999) ∨ 86400 * 1000000000 ≤ n := by
  have hdays : (n * Duration.microsPerSecond).fdiv Duration.microsPerDay = n * 1000000 / 86400000000 :=
    Int.fdiv_eq_ediv_of_nonneg _ (by decide)
  have hrange : (-Duration.maxDays ≤ n * 1000000 / 86400000000 ∧ n * 1000000 / 86400000000 ≤ Duration.maxDays) ↔
      ¬ (n < -(86400 * 999999999) ∨ 86400 * 1000000000 ≤ n) := by
    rw [Duration.maxDays]
    omega
  unfold Duration.ofWholeSeconds Duration.ofMicros?
  rw [hdays]
  by_cases hlong : n < -(86400 * 999999999) ∨ 86400 * 1000000000 ≤ n
  · rw [if_neg (fun h => hrange.mp h hlong)]
    simp only [hlong]
  · rw [if_pos (hrange.mpr hlong)]
    simp only [hlong, reduceCtorEq]

/-- Values that a duration is read from, but a longer one than there is. -/
def TooLong : Datum → Prop
  | .int n => n < -(86400 * 999999999) ∨ 86400 * 1000000000 ≤ n
  | .real x => Duration.ofFloatSeconds x = .error .outOfRange
  | .text s => Duration.parse s = .error .outOfRange
  | _ => False

theorem durationOfSeconds_eq_outOfRange_iff {seconds : Except SecondsError Duration} :
    durationOfSeconds seconds = .error .outOfRange ↔ seconds = .error .outOfRange := by
  match seconds with
  | .ok d => simp [durationOfSeconds]
  | .error .notANumber => simp [durationOfSeconds]
  | .error .outOfRange => simp [durationOfSeconds]

theorem durationOfDatum_eq_outOfRange_iff (v : Datum) : durationOfDatum v = .error .outOfRange ↔ TooLong v := by
  have hother : (if v.isVoid then Except.error .empty else if v.isShowable then .error (.invalid v.shown)
      else .error .notShowable : Except DurationProblem Duration) ≠ .error .outOfRange := by
    split
    · simp
    · split <;> simp
  match v with
  | .bool b => simp [durationOfDatum, TooLong]
  | .int n => exact durationOfSeconds_eq_outOfRange_iff.trans ofWholeSeconds_eq_outOfRange_iff
  | .real x => exact durationOfSeconds_eq_outOfRange_iff
  | .text s =>
    simp only [durationOfDatum, TooLong]
    match Duration.parse s with
    | .ok d => simp
    | .error .empty => simp
    | .error .invalid => simp
    | .error .outOfRange => simp
  | .null | .scalar (.wide _) | .scalar (.bytes _) | .scalar (.date _) | .scalar (.time _) | .list _ | .pair _ _ | .set _
  | .map _ | .knot _ _ | .again _ _ => exact iff_of_false hother not_false

namespace Config

theorem breaksOff_readDuration (v : Datum) : BreaksOffIff (readDuration v) (TooLong v) := by
  rw [← durationOfDatum_eq_outOfRange_iff v]
  unfold readDuration
  split
  · rename_i d hd
    exact (BreaksOffIff.good d).congr (by simp [hd])
  · rename_i hd
    exact ⟨fun _ => rfl, fun hne => absurd hd hne⟩
  · rename_i p hp hd
    refine (BreaksOffIff.problem _).congr ?_
    rw [hd]
    simpa using hp

theorem flaw?_eq_none_iff {c : Config} : c.flaw? = none ↔ c.IsSound := by
  have hguard {P : Prop} [Decidable P] {f : Flaw} {rest : Option Flaw} :
      (if P then some f else rest) = none ↔ ¬ P ∧ rest = none := by
    split <;> simp [*]
  simp only [flaw?, hguard, Option.map_eq_none_iff, List.findIdx?_eq_none_iff, String.isEmpty_iff]
  constructor
  · rintro ⟨_, hcrit, hless, hrefresh, hlisten, hurls⟩
    exact ⟨by omega, by omega, by omega, hlisten, hurls⟩
  · rintro ⟨hcrit, hless, hrefresh, hlisten, hurls⟩
    exact ⟨by omega, by omega, by omega, by omega, hlisten, hurls⟩

def durationFields : List (String × String) :=
  [("refreshEvery", "refresh_every"), ("warnBefore", "warn_before"), ("critBefore", "crit_before")]

/-- A document with a period that is too long for a duration. -/
def HasTooLong (d : Datum) : Prop :=
  ∃ entries, d.opened = .map entries ∧ ∃ field ∈ durationFields, ∃ found v,
    Datum.spelled? entries field.1 field.2 = some (found, v) ∧ TooLong v

theorem breaksOff_ofEntries (entries : List (Scalar × Datum)) :
    BreaksOffIff (ofEntries entries) (∃ field ∈ durationFields, ∃ found v,
      Datum.spelled? entries field.1 field.2 = some (found, v) ∧ TooLong v) := by
  have hurl (v : Datum) : BreaksOffIff (readTarget v) False :=
    Datum.breaksOff_toRecord (fun entries => Datum.breaksOff_requiredField Datum.breaksOff_toText entries _ _) v
  have hbundle (v : Datum) : BreaksOffIff (readBundle v) False := by
    refine Datum.breaksOff_toRecord (fun entries => ?_) v
    have hpath := Datum.breaksOff_requiredField Datum.breaksOff_toText entries "path" "path"
    have htext := fun name => Datum.breaksOff_fieldOr_never Datum.breaksOff_toText entries name name ""
    exact (((hpath.map FileBundle.mk).both (htext "hostname")).both (htext "name")).congr (by simp)
  have htext := fun name other default =>
    Datum.breaksOff_fieldOr_never Datum.breaksOff_toText entries name other default
  have hduration := fun name other default => Datum.breaksOff_fieldOr breaksOff_readDuration entries name other default
  have htruth := Datum.breaksOff_fieldOr_never Datum.breaksOff_toTruth entries "checkRevocation" "check_revocation"
    defaults.checkRevocation
  have htargets := Datum.breaksOff_fieldOr_never (Datum.breaksOff_toList hurl) entries "external" "external" []
  have hfiles := Datum.breaksOff_fieldOr_never (Datum.breaksOff_toList hbundle) entries "files" "files" []
  have hfields := ((((((((htext "listenAddr" "listen_addr" defaults.listenAddress).map Config.mk).both
    (htext "clusterName" "cluster_name" defaults.clusterName)).both
    (hduration "refreshEvery" "refresh_every" defaults.refreshEvery)).both
    (hduration "warnBefore" "warn_before" defaults.warnBefore)).both
    (hduration "critBefore" "crit_before" defaults.critBefore)).both htruth).both htargets).both hfiles
  refine hfields.congr ?_
  simp only [durationFields, List.mem_cons, List.not_mem_nil, exists_eq_or_imp, exists_eq_left, false_or, or_false,
    or_assoc]

theorem breaksOff_toRecord_ofEntries (d : Datum) : BreaksOffIff (d.toRecord ofEntries) (HasTooLong d) := by
  unfold Datum.toRecord HasTooLong
  split
  · rename_i entries hentries
    -- The map that a document opens to is one, so the entries that `HasTooLong` speaks of are these.
    refine (breaksOff_ofEntries entries).congr ⟨fun h => ⟨entries, hentries, h⟩, ?_⟩
    rintro ⟨entries', hentries', h⟩
    rw [hentries] at hentries'
    cases hentries'
    exact h
  · rename_i hnomap
    refine (BreaksOffIff.problem .notRecord).congr ⟨False.elim, ?_⟩
    rintro ⟨entries, hentries, -⟩
    exact hnomap entries hentries

/-- A document that counts as absent has no periods. -/
theorem not_hasTooLong_of_isVoid {d : Datum} (h : d.isVoid = true) : ¬ HasTooLong d := by
  rintro ⟨entries, hentries, field, -, found, v, hspelled, -⟩
  match d, h, hentries with
  | .map [], _, rfl => cases hspelled

theorem breaksOff_document (d : Datum) :
    BreaksOffIff ((if d.isVoid then Datum.map [] else d).toRecord ofEntries) (HasTooLong d) := by
  by_cases hvoid : d.isVoid = true
  · rw [if_pos hvoid]
    exact (breaksOff_toRecord_ofEntries _).congr
      (iff_of_false (not_hasTooLong_of_isVoid rfl) (not_hasTooLong_of_isVoid hvoid))
  · rw [if_neg hvoid]
    exact breaksOff_toRecord_ofEntries d

theorem ofDatum_of_hasTooLong {d : Datum} (h : HasTooLong d) : ofDatum d = .error .outOfRange := by
  simp only [ofDatum, (breaksOff_document d).broken h]

theorem checked_sound_or_told (c : Config) :
    (c.checked.toExcept = .ok c ∧ c.IsSound) ∨
      ∃ details, details ≠ [] ∧ c.checked.toExcept = .error (.invalid details) := by
  unfold checked
  split
  · rename_i hflaw
    exact .inl ⟨rfl, flaw?_eq_none_iff.mp hflaw⟩
  · exact .inr ⟨_, List.cons_ne_nil _ _, rfl⟩

theorem isSound_of_ofDatum {d : Datum} {c : Config} (h : ofDatum d = .ok c) : c.IsSound := by
  unfold ofDatum at h
  dsimp only at h
  split at h
  · cases h
  · rename_i c' _
    rcases c'.checked_sound_or_told with ⟨hok, hsound⟩ | ⟨details, -, hrefused⟩
    · rw [hok] at h
      cases h
      exact hsound
    · rw [hrefused] at h
      cases h

/-- Where a period is too long, reading a configuration breaks off. Otherwise, and only then, there is a sound
configuration or the problems are told. -/
theorem ofDatum_sound_or_told_iff (d : Datum) :
    (HasTooLong d → ofDatum d = .error .outOfRange) ∧
    (((∃ c, ofDatum d = .ok c ∧ c.IsSound) ∨ ∃ details, details ≠ [] ∧ ofDatum d = .error (.invalid details)) ↔
      ¬ HasTooLong d) := by
  refine ⟨ofDatum_of_hasTooLong, ?_, ?_⟩
  · rintro houtcome hlong
    rw [ofDatum_of_hasTooLong hlong] at houtcome
    rcases houtcome with ⟨c, hc, -⟩ | ⟨details, -, hdetails⟩
    · cases hc
    · cases hdetails
  · intro hshort
    unfold ofDatum
    dsimp only
    match (if d.isVoid then Datum.map [] else d).toRecord ofEntries, (breaksOff_document d).told hshort with
    | .good c, _ =>
      rcases c.checked_sound_or_told with ⟨hok, hsound⟩ | hrefused
      · exact .inl ⟨c, hok, hsound⟩
      · exact .inr hrefused
    | .refused (.invalid details), hne => exact .inr ⟨details, hne, rfl⟩

/-- A period of ten to the fifteenth seconds gives neither a configuration nor problems of one. -/
theorem exists_neither_sound_nor_told :
    ¬ ∀ d : Datum, (∃ c, ofDatum d = .ok c ∧ c.IsSound) ∨
      ∃ details, details ≠ [] ∧ ofDatum d = .error (.invalid details) := by
  intro hall
  have hlong : HasTooLong (.object [("warnBefore", .int 1000000000000000)]) :=
    ⟨_, rfl, ("warnBefore", "warn_before"), by simp [durationFields], "warnBefore", .int 1000000000000000, rfl,
      .inr (by decide)⟩
  rcases hall (.object [("warnBefore", .int 1000000000000000)]) with ⟨c, hc, -⟩ | ⟨details, -, hdetails⟩
  · rw [ofDatum_of_hasTooLong hlong] at hc
    cases hc
  · rw [ofDatum_of_hasTooLong hlong] at hdetails
    cases hdetails

end Config

end CertInventory
