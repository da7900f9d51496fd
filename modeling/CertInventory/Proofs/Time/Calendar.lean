import CertInventory.Time.Calendar
import Mathlib.Algebra.BigOperators.Group.List.Basic
import Mathlib.Algebra.GroupWithZero.Nat
import Mathlib.Algebra.Order.Group.Nat

/-!
The calendar and its day numbers. A day falls into the year that `yearOfDay` estimates and into the month that
`locateDay` finds, so the date of a day number exists and has that number again (`dayNumber_ofDayNumber`).
-/

namespace CertInventory.Time

theorem sum_monthLengths (year : Nat) : (monthLengths year).sum = if isLeapYear year then 366 else 365 := by
  unfold monthLengths
  split <;> rfl

theorem isLeapYear_iff {year : Nat} :
    isLeapYear year = true ↔ year % 4 = 0 ∧ (year % 100 ≠ 0 ∨ year % 400 = 0) := by
  simp [isLeapYear]

theorem daysBeforeYear_succ {year : Nat} (h : 0 < year) :
    daysBeforeYear (year + 1) = daysBeforeYear year + (monthLengths year).sum := by
  obtain ⟨y, rfl⟩ : ∃ y, year = y + 1 := ⟨year - 1, by omega⟩
  -- Each quotient grows by one where its divisor divides the year; the leap years are these years.
  have hdiv (k : Nat) : (y + 1) / k = y / k + if k ∣ y + 1 then 1 else 0 := Nat.succ_div
  have hleap : isLeapYear (y + 1) = true ↔ 4 ∣ y + 1 ∧ (¬ 100 ∣ y + 1 ∨ 400 ∣ y + 1) := by
    simp only [isLeapYear_iff, Nat.dvd_iff_mod_eq_zero, ne_eq]
  have hcentury : 100 ∣ y + 1 → 4 ∣ y + 1 := Nat.dvd_trans (by decide)
  have hfourth : 400 ∣ y + 1 → 100 ∣ y + 1 := Nat.dvd_trans (by decide)
  have hless : y / 100 ≤ y := Nat.div_le_self y 100
  simp only [sum_monthLengths, daysBeforeYear, Nat.add_sub_cancel, hdiv, hleap]
  generalize y / 4 = fours, y / 100 = centuries, y / 400 = cycles at hless
  by_cases h4 : 4 ∣ y + 1
  · by_cases h100 : 100 ∣ y + 1
    · by_cases h400 : 400 ∣ y + 1
      · simp only [h4, h100, h400, if_true, not_true, or_true, and_true]
        omega
      · simp only [h4, h100, h400, if_true, if_false, not_true, or_false, and_false]
        omega
    · simp only [h4, h100, mt hfourth h100, if_true, if_false, not_false_iff, or_false, and_true]
      omega
  · simp only [h4, mt hcentury h4, mt hfourth (mt hcentury h4), if_false, false_and]
    omega

/-- A day lies in its year. The estimate is at most one year off, since 400 years have 146097 days. -/
theorem yearOfDay_spec (n : Nat) :
    0 < yearOfDay n ∧ daysBeforeYear (yearOfDay n) ≤ n ∧ n < daysBeforeYear (yearOfDay n + 1) := by
  have hguess : n * 400 / 146097 * 146097 ≤ n * 400 ∧ n * 400 < (n * 400 / 146097 + 1) * 146097 := by omega
  unfold yearOfDay
  generalize n * 400 / 146097 = k at hguess
  dsimp only
  split
  · rename_i hlate
    refine ⟨by omega, hlate, ?_⟩
    unfold daysBeforeYear
    omega
  · rename_i hlate
    split
    · rename_i hearly
      unfold daysBeforeYear at *
      omega
    · rename_i hearly
      exact ⟨by omega, by omega, by omega⟩

theorem locateDay_spec (lengths : List Nat) (day : Nat) (h : day < lengths.sum) :
    (locateDay lengths day).1 < lengths.length ∧
    (locateDay lengths day).2 < lengths.getD (locateDay lengths day).1 0 ∧
    (lengths.take (locateDay lengths day).1).sum + (locateDay lengths day).2 = day := by
  induction lengths generalizing day with
  | nil => simp at h
  | cons length rest ih =>
    rw [List.sum_cons] at h
    rw [locateDay]
    split
    · rename_i hday
      simpa using hday
    · rename_i hday
      obtain ⟨hmonth, hin, hsum⟩ := ih (day - length) (by omega)
      simp only [List.length_cons, List.getD_cons_succ, List.take_succ_cons, List.sum_cons]
      exact ⟨by omega, hin, by omega⟩

/-- Year 10000 starts behind the last day of the calendar. -/
theorem le_daysBeforeYear {year : Nat} (h : 10000 ≤ year) : 3652059 ≤ daysBeforeYear year := by
  unfold daysBeforeYear
  omega

namespace CivilDate

theorem isWritable_iff {d : CivilDate} :
    d.isWritable = true ↔ d.year ≤ 9999 ∧ 1 ≤ d.month ∧ d.month ≤ 12 ∧ 1 ≤ d.day ∧
      d.day ≤ (monthLengths d.year).getD (d.month - 1) 0 := by
  simp only [isWritable, Bool.and_eq_true, decide_eq_true_eq, and_assoc]

/-- The date of a day of years 1 to 9999 exists and has the day's number. -/
theorem dayNumber_ofDayNumber {n : Nat} (h : n < 3652059) :
    (ofDayNumber n).isWritable = true ∧ (ofDayNumber n).isValid = true ∧ (ofDayNumber n).dayNumber = n := by
  obtain ⟨hyear, hfrom, hto⟩ := yearOfDay_spec n
  rw [daysBeforeYear_succ hyear] at hto
  obtain ⟨hmonth, hday, hsum⟩ := locateDay_spec (monthLengths (yearOfDay n)) (n - daysBeforeYear (yearOfDay n))
    (by omega)
  have hlast : yearOfDay n ≤ 9999 := by
    by_contra hlarge
    have : 3652059 ≤ daysBeforeYear (yearOfDay n) := le_daysBeforeYear (by omega)
    omega
  have hwritable : (ofDayNumber n).isWritable = true :=
    isWritable_iff.mpr ⟨hlast, Nat.le_add_left _ _, hmonth, Nat.le_add_left _ _, hday⟩
  refine ⟨hwritable, ?_, ?_⟩
  · rw [isValid, hwritable, Bool.and_true]
    exact decide_eq_true hyear
  · simp only [ofDayNumber, dayNumber, Nat.add_sub_cancel, ← List.sum_eq_foldl]
    omega

end CivilDate

end CertInventory.Time
