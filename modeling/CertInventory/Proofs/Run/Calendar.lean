import CertInventory.Proofs.Config.Reading
import CertInventory.Proofs.Run.Passes
import CertInventory.Proofs.Sample
import CertInventory.Proofs.Time.Calendar

/-!
Runs and the end of the calendar. A run by an accepted configuration comes to a snapshot, whatever its sources, its
timer and its checks come to, exactly as long as the warning period does not lead beyond the calendar.
-/

namespace CertInventory

open Time

theorem Time.Instant.add?_eq_some {t : Instant} {d : Duration} (hd : 0 ≤ d.micros)
    (hlast : t.micros + d.micros < endOfCalendar) : ∃ u, t.add? d = some u := by
  have hcalendar : 0 ≤ t.micros + d.micros ∧ t.micros + d.micros < (endOfCalendar : Int) := ⟨by omega, hlast⟩
  rw [Instant.add?, Instant.ofMicros?, dif_pos hcalendar]
  exact ⟨_, rfl⟩

theorem Time.Instant.add?_eq_none {t : Instant} {d : Duration} (hlast : (endOfCalendar : Int) ≤ t.micros + d.micros) :
    t.add? d = none := by
  rw [Instant.add?, Instant.ofMicros?, dif_neg]
  omega

namespace Run

variable {ω : Type} {c : Config} {now : Instant}

theorem snapshot_of_inCalendar {σ : Type} {r : Run σ} (hpos : 0 < r.critBefore.micros)
    (hless : r.critBefore.micros < r.warnBefore.micros) (hlast : now.micros + r.warnBefore.micros < endOfCalendar)
    (sources : List Source) (s : σ) : ∃ snap s', (r.snapshot now sources).run s = (.ok snap, s') := by
  obtain ⟨warn, hwarn⟩ := Instant.add?_eq_some (by omega) hlast
  obtain ⟨critical, hcritical⟩ := Instant.add?_eq_some (t := now) (d := r.critBefore) (by omega) (by omega)
  exact ⟨_, _, snapshot_run (Cutoffs.at?_eq_some hwarn hcritical) sources s⟩

theorem snapshot_of_beyond {σ : Type} {r : Run σ} (hlast : (endOfCalendar : Int) ≤ now.micros + r.warnBefore.micros)
    (sources : List Source) (s : σ) : (r.snapshot now sources).run s = (.error .outOfRange, s) := by
  apply snapshot_run_of_no_cutoffs
  rw [Cutoffs.at?, Instant.add?_eq_none hlast]

def startOfYear (year : Nat) : Nat := daysBeforeYear year * dayMicros

/-- A run by an accepted configuration comes to a snapshot if the warning period ends within the calendar, and breaks
off without any change otherwise, whatever the sources, the timer and the web come to. So it comes to a snapshot at
every reading of the clock before year 3000 exactly for the periods that end within the calendar even from the last of
these readings. -/
theorem snapshot_iff_inCalendar {d : Datum} (hc : Config.ofDatum d = .ok c) (web : Web ω) (timer : Option Timer)
    (sources : List Source) (session : Revocation.Session ω) :
    let run (now seen : Instant) := ({ ofConfig c web seen with timer := timer }.snapshot now sources).run session
    (∀ now seen : Instant,
      (now.micros + c.warnBefore.micros < endOfCalendar → ∃ snap session', run now seen = (.ok snap, session')) ∧
      (endOfCalendar ≤ now.micros + c.warnBefore.micros → run now seen = (.error .outOfRange, session))) ∧
    ((∀ now seen : Instant, now.micros < startOfYear 3000 → ∃ snap session', run now seen = (.ok snap, session')) ↔
      c.warnBefore.micros ≤ (endOfCalendar : Int) - startOfYear 3000) := by
  intro run
  have hsound := Config.isSound_of_ofDatum hc
  have hwithin (now seen : Instant) (hlast : now.micros + c.warnBefore.micros < endOfCalendar) :
      ∃ snap session', run now seen = (.ok snap, session') :=
    snapshot_of_inCalendar hsound.crit_pos hsound.crit_lt_warn hlast sources session
  have hbeyond (now seen : Instant) (hlast : endOfCalendar ≤ now.micros + c.warnBefore.micros) :
      run now seen = (.error .outOfRange, session) :=
    snapshot_of_beyond hlast sources session
  have hyear : startOfYear 3000 = 94639276800000000 := by decide
  have hend : endOfCalendar = 315537897600000000 := by decide
  refine ⟨fun now seen => ⟨hwithin now seen, hbeyond now seen⟩, ?_, ?_⟩
  · intro hall
    by_contra hlong
    have hlast : startOfYear 3000 - 1 < endOfCalendar := by omega
    obtain ⟨snap, session', hrun⟩ := hall ⟨startOfYear 3000 - 1, hlast⟩ ⟨startOfYear 3000 - 1, hlast⟩ (by
      show startOfYear 3000 - 1 < startOfYear 3000
      omega)
    rw [hbeyond _ _ (by
      show (endOfCalendar : Int) ≤ ((startOfYear 3000 - 1 : Nat) : Int) + c.warnBefore.micros
      omega)] at hrun
    cases hrun
  · intro hshort now seen hnow
    exact hwithin now seen (by omega)

def sampleNoon : Instant := ⟨CivilDate.dayNumber ⟨2026, 3, 1⟩ * dayMicros + 43200000000, by decide⟩

theorem snapshot_iff_inCalendar_sample :
    let failing : Timer := fun _ => .error (.saying .url "no clock")
    Config.ofDatum (.object [("warnBefore", .int 2592000)]) = .ok Config.defaults ∧
    ∃ snap session', ({ ofConfig Config.defaults (sampleWeb []) sampleNoon with timer := some failing }.snapshot sampleNoon
      [⟨.ok "externals", "ExternalDiscoverer", .error .outOfRange⟩]).run (Revocation.Session.start ()) =
        (.ok snap, session') := by
  intro failing
  have haccepted : Config.ofDatum (.object [("warnBefore", .int 2592000)]) = .ok Config.defaults := rfl
  have hruns := snapshot_iff_inCalendar haccepted (sampleWeb []) (some failing)
    [⟨.ok "externals", "ExternalDiscoverer", .error .outOfRange⟩] (Revocation.Session.start ())
  exact ⟨haccepted, (hruns.1 sampleNoon sampleNoon).1 (by decide)⟩

/-- A configuration that warns more than twelve thousand years ahead is accepted, but no run by it comes to anything. -/
theorem exists_accepted_breaks_off :
    ∃ c : Config, Config.ofDatum (.object [("warnBefore", .int 400000000000)]) = .ok c ∧
      sampleNoon.micros < startOfYear 3000 ∧
      ((ofConfig c (sampleWeb []) sampleNoon).snapshot sampleNoon []).run (Revocation.Session.start ()) =
        (.error .outOfRange, Revocation.Session.start ()) := by
  refine ⟨{ Config.defaults with warnBefore := .ofSeconds 400000000000 }, rfl, by decide, ?_⟩
  exact snapshot_of_beyond (by decide) [] _

end Run

end CertInventory
