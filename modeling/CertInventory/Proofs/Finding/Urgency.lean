import CertInventory.Finding.Urgency
import CertInventory.Proofs.Sample
import Mathlib.Data.List.Forall2

/-!
Urgency by windows. Of an expiry only the window counts that the cutoffs put it in, and only behind the window of
warning does the severity of the source count too (`urgency_eq_severityIn`). An earlier expiry is in the same window or
in a nearer one, and so is any expiry once the cutoffs have moved on (`Cutoffs.distance_window_le`). Both how urgency
depends on expiry and how it is judged again later are questions about two windows, one no further away than the other.
-/

namespace CertInventory

open Time

theorem Time.Instant.not_lt {t t' : Instant} : ¬ t < t' ↔ t' ≤ t := Nat.not_lt

theorem Time.Instant.add?_mono {t t' u u' : Instant} {d : Duration} (h : t ≤ t') (hu : t.add? d = some u)
    (hu' : t'.add? d = some u') : u ≤ u' := by
  have hmicros {t u : Instant} (hu : t.add? d = some u) : (u.micros : Int) = t.micros + d.micros := by
    simp only [add?, ofMicros?] at hu
    split at hu
    · obtain rfl := Option.some.inj hu
      exact Int.toNat_of_nonneg (by omega)
    · cases hu
  have hfirst := hmicros hu
  have hsecond := hmicros hu'
  have hmoved : t.micros ≤ t'.micros := h
  show u.micros ≤ u'.micros
  omega

/-- How near an expiry is: to be acted on at once, to be warned about, or neither. -/
inductive Window where
  | urgent
  | near
  | far
  deriving DecidableEq

def Window.distance : Window → Nat
  | .urgent => 0
  | .near => 1
  | .far => 2

theorem Window.distance_le_far (w : Window) : w.distance ≤ Window.far.distance := by
  cases w <;> decide

namespace Cutoffs

theorem at?_eq_some_iff {now : Instant} {warnBefore critBefore : Duration} {c : Cutoffs} :
    at? now warnBefore critBefore = some c ↔
      now = c.now ∧ now.add? warnBefore = some c.warn ∧ now.add? critBefore = some c.critical := by
  obtain ⟨start, warn, critical⟩ := c
  simp only [at?]
  split
  next hwarn hcritical => simp [hwarn, hcritical]
  next hnone =>
    refine iff_of_false (Option.some_ne_none _).symm ?_
    rintro ⟨_, hwarn, hcritical⟩
    exact hnone _ _ hwarn hcritical

theorem at?_eq_some {now warn critical : Instant} {warnBefore critBefore : Duration}
    (hwarn : now.add? warnBefore = some warn) (hcritical : now.add? critBefore = some critical) :
    at? now warnBefore critBefore = some ⟨now, warn, critical⟩ :=
  at?_eq_some_iff.mpr ⟨rfl, hwarn, hcritical⟩

def window (c : Cutoffs) (notAfter : Instant) : Window :=
  if notAfter < c.now ∨ notAfter < c.critical then .urgent else if notAfter < c.warn then .near else .far

variable {c c' : Cutoffs} {notAfter : Instant}

theorem window_eq_near_iff :
    c.window notAfter = .near ↔ c.now ≤ notAfter ∧ c.critical ≤ notAfter ∧ notAfter < c.warn := by
  rw [← Instant.not_lt, ← Instant.not_lt, ← and_assoc, ← not_or]
  unfold window
  split
  next hurgent => simp [hurgent]
  next hlasts => split <;> simp_all

theorem window_eq_far_iff :
    c.window notAfter = .far ↔ c.now ≤ notAfter ∧ c.critical ≤ notAfter ∧ c.warn ≤ notAfter := by
  rw [← Instant.not_lt, ← Instant.not_lt, ← Instant.not_lt, ← and_assoc, ← not_or]
  unfold window
  split
  next hurgent => simp [hurgent]
  next hlasts => split <;> simp_all

theorem window_ne_far (h : notAfter < c.warn) : c.window notAfter ≠ .far :=
  fun hfar => Instant.not_lt.mpr (window_eq_far_iff.mp hfar).2.2 h

/-- Cutoffs that have all been reached when their counterparts are. -/
structure Precedes (c c' : Cutoffs) : Prop where
  now : c.now ≤ c'.now
  warn : c.warn ≤ c'.warn
  critical : c.critical ≤ c'.critical

theorem Precedes.refl (c : Cutoffs) : c.Precedes c := ⟨Nat.le_refl _, Nat.le_refl _, Nat.le_refl _⟩

/-- With the same periods of warning all cutoffs move on with the clock. -/
theorem precedes_of_le {now now' : Instant} (h : now ≤ now') {warnBefore critBefore : Duration}
    (hc : at? now warnBefore critBefore = some c) (hc' : at? now' warnBefore critBefore = some c') : c.Precedes c' := by
  obtain ⟨rfl, hwarn, hcritical⟩ := at?_eq_some_iff.mp hc
  obtain ⟨rfl, hwarn', hcritical'⟩ := at?_eq_some_iff.mp hc'
  exact ⟨h, Instant.add?_mono h hwarn hwarn', Instant.add?_mono h hcritical hcritical'⟩

/-- An expiry that is no later is in no window further away, at the same cutoffs or at later ones. -/
theorem distance_window_le (hc : c.Precedes c') {first second : Instant} (h : first ≤ second) :
    (c'.window first).distance ≤ (c.window second).distance := by
  have hreached {cutoff cutoff' : Instant} (hmoved : cutoff ≤ cutoff') (hsecond : second < cutoff) : first < cutoff' :=
    Nat.lt_of_le_of_lt h (Nat.lt_of_lt_of_le hsecond hmoved)
  -- By the window of the second expiry: whichever cutoffs it is ahead of, the first is ahead of them, too.
  unfold window
  by_cases hurgent : second < c.now ∨ second < c.critical
  · rw [if_pos (hurgent.imp (hreached hc.now) (hreached hc.critical))]
    exact Nat.zero_le _
  · rw [if_neg hurgent]
    by_cases hnear : second < c.warn
    · rw [if_pos hnear, if_pos (hreached hc.warn hnear)]
      split <;> decide
    · rw [if_neg hnear]
      exact Window.distance_le_far _

end Cutoffs

namespace Finding

variable {f : Finding}

theorem not_isWebhook_both (h : f.isWebhook failPolicyNotes = true) : ¬ f.isWebhook ignorePolicyNotes = true := by
  simp only [isWebhook, Bool.and_eq_true, beq_iff_eq] at h ⊢
  intro hignored
  exact absurd (h.2.symm.trans hignored.2) (by decide)

def severityIn (f : Finding) : Window → Severity
  | .urgent => if f.isWebhook ignorePolicyNotes then .warn else .critical
  | .near => if f.isWebhook failPolicyNotes then .critical else .warn
  | .far => f.raised (f.capped f.severity)

theorem urgency_eq_severityIn (c : Cutoffs) (hprobe : f.probeOk = true) {notAfter : Instant}
    (hafter : f.notAfter = some notAfter) : f.urgency c = f.severityIn (c.window notAfter) := by
  simp only [urgency, hprobe, hafter, if_true, expirySeverity, Cutoffs.window]
  split
  · simp only [severityIn, capped, raised, and_true]
    split <;> simp
  · split
    · simp only [severityIn]
      split
      next hfail => simp [capped, raised, not_isWebhook_both hfail]
      next => simp [capped, raised]
    · rfl

/-- An expiry within the window of warning makes a finding urgent, and so does trouble with the chain or the endpoint. -/
theorem severityIn_ne_info {w : Window} (h : w ≠ .far ∨ f.chainErrors ≠ [] ∨ f.postureIssues ≠ []) :
    f.severityIn w ≠ .info := by
  cases w with
  | urgent =>
    simp only [severityIn]
    split <;> exact Severity.noConfusion
  | near =>
    simp only [severityIn]
    split <;> exact Severity.noConfusion
  | far =>
    have hissues := h.resolve_left fun hfar => hfar rfl
    rw [severityIn, raised]
    by_cases hinfo : f.capped f.severity = .info
    · rw [if_pos ⟨hissues, hinfo⟩]
      exact Severity.noConfusion
    · rw [if_neg fun hboth => hinfo hboth.2]
      exact hinfo

/-- A finding that its source takes for critical, and that is no webhook with one of the two policies. -/
def IsStanding (f : Finding) : Prop :=
  f.severity = .critical ∧ ¬ f.isWebhook failPolicyNotes = true ∧ ¬ f.isWebhook ignorePolicyNotes = true

theorem capped_ne_critical (h : f.isWebhook ignorePolicyNotes = true) (severity : Severity) :
    f.capped severity ≠ .critical := by
  unfold capped
  by_cases hcritical : severity = .critical
  · rw [if_pos ⟨h, hcritical⟩]
    exact Severity.noConfusion
  · rw [if_neg fun hboth => hcritical hboth.2]
    exact hcritical

theorem raised_eq_critical_iff {severity : Severity} : f.raised severity = .critical ↔ severity = .critical := by
  unfold raised
  split
  next hraised => simp [hraised.2]
  next => rfl

theorem severityIn_far_eq_critical_iff :
    f.severityIn .far = .critical ↔ f.severity = .critical ∧ ¬ f.isWebhook ignorePolicyNotes = true := by
  rw [severityIn, raised_eq_critical_iff]
  by_cases hignored : f.isWebhook ignorePolicyNotes = true
  · simp [hignored, capped_ne_critical hignored]
  · simp [capped, hignored]

theorem severityIn_ne_critical (h : f.isWebhook ignorePolicyNotes = true) (w : Window) :
    f.severityIn w ≠ .critical := by
  cases w with
  | urgent => simp only [severityIn, h, if_true, ne_eq, reduceCtorEq, not_false_eq_true]
  | near =>
    have hfail : ¬ f.isWebhook failPolicyNotes = true := fun hfail => not_isWebhook_both hfail h
    simp only [severityIn, hfail, Bool.false_eq_true, if_false, ne_eq, reduceCtorEq, not_false_eq_true]
  | far => exact fun hcritical => (severityIn_far_eq_critical_iff.mp hcritical).2 h

/-- Nothing is more urgent than an expiry to be acted on at once. -/
theorem rank_severityIn_le_urgent (w : Window) : (f.severityIn w).rank ≤ (f.severityIn .urgent).rank := by
  by_cases hignored : f.isWebhook ignorePolicyNotes = true
  · have hcapped := severityIn_ne_critical hignored w
    have hurgent : f.severityIn .urgent = .warn := by simp only [severityIn, hignored, if_true]
    rw [hurgent]
    cases hw : f.severityIn w with
    | info => decide
    | warn => decide
    | critical => exact absurd hw hcapped
  · have hurgent : f.severityIn .urgent = .critical := by simp only [severityIn, hignored, Bool.false_eq_true, if_false]
    rw [hurgent]
    cases f.severityIn w <;> decide

theorem rank_severityIn_near_lt_far_iff :
    (f.severityIn .near).rank < (f.severityIn .far).rank ↔ f.IsStanding := by
  have hwarn (severity : Severity) : Severity.warn.rank < severity.rank ↔ severity = .critical := by
    cases severity <;> decide
  have hcritical (severity : Severity) : ¬ Severity.critical.rank < severity.rank := by
    cases severity <;> decide
  by_cases hfail : f.isWebhook failPolicyNotes = true
  · have hnear : f.severityIn .near = .critical := by simp only [severityIn, hfail, if_true]
    rw [hnear]
    exact iff_of_false (hcritical _) fun hstanding => hstanding.2.1 hfail
  · have hnear : f.severityIn .near = .warn := by simp only [severityIn, hfail, Bool.false_eq_true, if_false]
    rw [hnear, hwarn, severityIn_far_eq_critical_iff, IsStanding]
    simp only [hfail, Bool.false_eq_true, not_false_eq_true, true_and]

/-- Of two windows the nearer one gives the lower severity only to a standing finding that comes from afar into the
window of warning. -/
theorem rank_severityIn_lt_iff {v w : Window} (hvw : v.distance ≤ w.distance) :
    (f.severityIn v).rank < (f.severityIn w).rank ↔ f.IsStanding ∧ v = .near ∧ w = .far := by
  cases v with
  | urgent => exact iff_of_false (Nat.not_lt.mpr (rank_severityIn_le_urgent w)) fun h => Window.noConfusion h.2.1
  | near =>
    cases w with
    | urgent => exact absurd hvw (by decide)
    | near => exact iff_of_false (Nat.lt_irrefl _) fun h => Window.noConfusion h.2.2
    | far => rw [rank_severityIn_near_lt_far_iff, and_iff_left ⟨rfl, rfl⟩]
  | far =>
    cases w with
    | urgent => exact absurd hvw (by decide)
    | near => exact absurd hvw (by decide)
    | far => exact iff_of_false (Nat.lt_irrefl _) fun h => Window.noConfusion h.2.1

theorem severity_classified_at (c : Cutoffs) (hprobe : f.probeOk = true) (notAfter : Instant) :
    ({ f with notAfter := some notAfter }.classified c).severity = f.severityIn (c.window notAfter) :=
  urgency_eq_severityIn (f := { f with notAfter := some notAfter }) c hprobe rfl

/-- Of two probed findings that differ in their expiry alone, the one that expires no later is at least as urgent,
except for a standing finding whose earlier expiry is to be warned about and whose later one is not: the warning takes
the place of what its source says, which the later one keeps. -/
theorem rank_classified_le_iff (c : Cutoffs) (hprobe : f.probeOk = true) {first second : Instant}
    (h : first ≤ second) :
    let earlier := { f with notAfter := some first }.classified c
    let later := { f with notAfter := some second }.classified c
    let isLowered := f.IsStanding ∧ (c.now ≤ first ∧ c.critical ≤ first ∧ first < c.warn) ∧ c.warn ≤ second
    (later.severity.rank ≤ earlier.severity.rank ↔ ¬ isLowered) ∧
      (isLowered → earlier.severity = .warn ∧ later.severity = .critical) := by
  intro earlier later isLowered
  have hearlier : earlier.severity = f.severityIn (c.window first) := severity_classified_at c hprobe first
  have hlater : later.severity = f.severityIn (c.window second) := severity_classified_at c hprobe second
  have hlowered : isLowered ↔ f.IsStanding ∧ c.window first = .near ∧ c.window second = .far := by
    rw [Cutoffs.window_eq_near_iff, Cutoffs.window_eq_far_iff]
    constructor
    · rintro ⟨hstanding, hnear, hfar⟩
      exact ⟨hstanding, hnear, Nat.le_trans hnear.1 h, Nat.le_trans hnear.2.1 h, hfar⟩
    · rintro ⟨hstanding, hnear, _, _, hfar⟩
      exact ⟨hstanding, hnear, hfar⟩
  rw [hearlier, hlater, ← Nat.not_lt, hlowered,
    rank_severityIn_lt_iff (Cutoffs.distance_window_le (.refl c) h)]
  refine ⟨Iff.rfl, ?_⟩
  rintro ⟨⟨hcritical, hfail, hignored⟩, hnear, hfar⟩
  rw [hnear, hfar]
  constructor
  · simp only [severityIn, hfail, Bool.false_eq_true, if_false]
  · exact severityIn_far_eq_critical_iff.mpr ⟨hcritical, hignored⟩

def sampleStanding : Finding := { sampleFinding externalSource "edge" (sampleTime 8) with severity := .critical }

/-- The cutoffs at one of the first instants, with three ticks of warning, one of them critical. -/
def sampleCutoffs (tick : Nat) : Cutoffs := ⟨sampleTime tick, sampleTime (tick + 3), sampleTime (tick + 1)⟩

theorem at?_sampleCutoffs : ∀ tick < 7, Cutoffs.at? (sampleTime tick) ⟨3⟩ ⟨1⟩ = some (sampleCutoffs tick) := by
  have hwarn : ∀ tick < 7, (sampleTime tick).add? ⟨3⟩ = some (sampleTime (tick + 3)) := by decide
  have hcritical : ∀ tick < 7, (sampleTime tick).add? ⟨1⟩ = some (sampleTime (tick + 1)) := by decide
  exact fun tick htick => Cutoffs.at?_eq_some (hwarn tick htick) (hcritical tick htick)

/-- An expired finding is at least as urgent as one that its source takes for critical. -/
theorem rank_classified_le_expired :
    sampleStanding.probeOk = true ∧ sampleTime 4 ≤ sampleTime 9 ∧
      ({ sampleStanding with notAfter := some (sampleTime 9) }.classified (sampleCutoffs 5)).severity.rank ≤
        ({ sampleStanding with notAfter := some (sampleTime 4) }.classified (sampleCutoffs 5)).severity.rank := by
  have hle : sampleTime 4 ≤ sampleTime 9 := by decide
  refine ⟨rfl, hle, (rank_classified_le_iff (sampleCutoffs 5) rfl hle).1.mpr ?_⟩
  rintro ⟨_, ⟨hexpired, _⟩, _⟩
  exact absurd hexpired (by decide)

/-- A source's severity may outweigh the warning about an earlier expiry. -/
theorem exists_later_more_urgent :
    ¬ ∀ (now : Instant) (warnBefore critBefore : Duration) (c : Cutoffs) (f : Finding) (first second : Instant),
      0 < critBefore.micros → critBefore.micros < warnBefore.micros →
      Cutoffs.at? now warnBefore critBefore = some c → f.probeOk = true → first ≤ second →
      ({ f with notAfter := some second }.classified c).severity.rank ≤
        ({ f with notAfter := some first }.classified c).severity.rank := by
  intro h
  have hranks := h (sampleTime 5) ⟨3⟩ ⟨1⟩ _ sampleStanding (sampleTime 7) (sampleTime 9) (by decide) (by decide)
    (at?_sampleCutoffs 5 (by decide)) rfl (by decide)
  revert hranks
  decide

theorem raised_raised (severity : Severity) : f.raised (f.raised severity) = f.raised severity := by
  unfold raised
  by_cases h : (f.chainErrors ≠ [] ∨ f.postureIssues ≠ []) ∧ severity = .info
  · rw [if_pos h, if_neg fun hwarn => Severity.noConfusion hwarn.2]
  · rw [if_neg h, if_neg h]

/-- What is raised was information, so the cap for webhooks, put on first, holds still. -/
theorem capped_raised_capped (severity : Severity) :
    f.capped (f.raised (f.capped severity)) = f.raised (f.capped severity) := by
  refine if_neg ?_
  rintro ⟨hignored, hcritical⟩
  exact capped_ne_critical hignored severity (raised_eq_critical_iff.mp hcritical)

/-- A judgement by a window that is no further away takes nothing from the judgement before it. -/
theorem severityIn_severityIn {v w : Window} (hvw : v.distance ≤ w.distance) :
    { f with severity := f.severityIn w }.severityIn v = f.severityIn v := by
  -- Only the last window reads the severity, and then the judgement before it was by that window, too.
  cases v with
  | urgent => rfl
  | near => rfl
  | far =>
    cases w with
    | urgent => exact absurd hvw (by decide)
    | near => exact absurd hvw (by decide)
    | far => exact (congrArg f.raised (capped_raised_capped f.severity)).trans (raised_raised _)

/-- What is judged again at later cutoffs is judged as if for the first time. -/
theorem classified_classified {c c' : Cutoffs} (hc : c.Precedes c') (f : Finding) :
    (f.classified c).classified c' = f.classified c' := by
  cases hprobe : f.probeOk with
  | false => simp only [classified, urgency, hprobe, Bool.false_eq_true, if_false]
  | true =>
    cases hafter : f.notAfter with
    | none => simp only [classified, urgency, hprobe, hafter, if_true]
    | some notAfter =>
      have hfirst : f.classified c = { f with severity := f.severityIn (c.window notAfter) } := by
        rw [classified, urgency_eq_severityIn c hprobe hafter]
      have hsecond : (f.classified c).urgency c' = f.urgency c' :=
        calc (f.classified c).urgency c' = (f.classified c).severityIn (c'.window notAfter) :=
              urgency_eq_severityIn (f := f.classified c) c' hprobe hafter
          _ = f.severityIn (c'.window notAfter) := by
              rw [hfirst, severityIn_severityIn (Cutoffs.distance_window_le hc (Nat.le_refl _))]
          _ = f.urgency c' := (urgency_eq_severityIn c' hprobe hafter).symm
      show { f with severity := (f.classified c).urgency c' } = f.classified c'
      rw [hsecond]
      rfl

/-- Judging is memoryless. Findings that are judged again at a later instant come out as if they had not been judged
before, so judging twice at one instant is judging once; and nothing but severities ever changes. -/
theorem map_classified_classified {now later : Instant} (h : now ≤ later) {warnBefore critBefore : Duration}
    {c c' : Cutoffs} (hc : Cutoffs.at? now warnBefore critBefore = some c)
    (hc' : Cutoffs.at? later warnBefore critBefore = some c') (fs : List Finding) :
    (fs.map (classified c)).map (classified c') = fs.map (classified c') ∧
    ∀ d : Cutoffs, (fs.map (classified d)).map (classified d) = fs.map (classified d) ∧
      List.Forall₂ (fun f g => ∃ severity, g = { f with severity := severity }) fs (fs.map (classified d)) := by
  have htwice {d d' : Cutoffs} (hd : d.Precedes d') :
      (fs.map (classified d)).map (classified d') = fs.map (classified d') := by
    rw [List.map_map]
    exact List.map_congr_left fun f _ => classified_classified hd f
  refine ⟨htwice (Cutoffs.precedes_of_le h hc hc'), fun d => ⟨htwice (.refl d), ?_⟩⟩
  rw [List.forall₂_map_right_iff]
  exact List.forall₂_same.mpr fun f _ => ⟨_, rfl⟩

/-- A standing finding is critical until the warning about its expiry takes over, judged before or not. -/
theorem map_classified_classified_sample :
    sampleTime 5 ≤ sampleTime 6 ∧ Cutoffs.at? (sampleTime 5) ⟨3⟩ ⟨1⟩ = some (sampleCutoffs 5) ∧
    Cutoffs.at? (sampleTime 6) ⟨3⟩ ⟨1⟩ = some (sampleCutoffs 6) ∧
      ([sampleStanding].map (classified (sampleCutoffs 5))).map Finding.severity = [.critical] ∧
      (([sampleStanding].map (classified (sampleCutoffs 5))).map (classified (sampleCutoffs 6))).map Finding.severity =
        [.warn] := by
  have hle : sampleTime 5 ≤ sampleTime 6 := by decide
  have hfirst := at?_sampleCutoffs 5 (by decide)
  have hsecond := at?_sampleCutoffs 6 (by decide)
  have htwice := (map_classified_classified hle hfirst hsecond [sampleStanding]).1
  exact ⟨hle, hfirst, hsecond, by decide, (congrArg (List.map Finding.severity) htwice).trans (by decide)⟩

end Finding

end CertInventory
