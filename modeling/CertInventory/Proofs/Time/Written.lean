import CertInventory.Datum.Checked
import CertInventory.Proofs.Text.Digits
import CertInventory.Proofs.Time.Calendar

/-!
A written instant is read as itself: its date, its clock and its six places or none are told apart by their fixed
widths and by the signs between them (`readTime_chars`).
-/

namespace CertInventory

namespace Time.WrittenTime

open Text

theorem twoDigits?_hexChar {n : Nat} (h : n < 100) : twoDigits? (hexChar (n / 10)) (hexChar (n % 10)) = some n := by
  rw [twoDigits?, asciiDigit?_hexChar (by omega), asciiDigit?_hexChar (by omega)]
  simp only [Option.bind_eq_bind, Option.bind_some, Option.pure_def, Option.some.injEq]
  omega

theorem date?_dateText {d : CivilDate} (h : d.isWritable = true) (rest : List Char) :
    date? (Instant.dateText d ++ rest) = some (d, rest) := by
  obtain ⟨hyear, -, hmonth, -, hday⟩ := CivilDate.isWritable_iff.mp h
  have hmonths : ∀ m < 12, (monthLengths d.year).getD m 0 ≤ 31 := by
    unfold monthLengths
    split <;> decide
  have hlength := hmonths (d.month - 1) (by omega)
  have hyears : 100 * (d.year / 100) + d.year % 100 = d.year := Nat.div_add_mod _ _
  rw [Instant.dateText, padded_four (by omega), padded_two (by omega), padded_two (by omega)]
  simp only [List.cons_append, List.nil_append, date?]
  rw [twoDigits?_hexChar (by omega), twoDigits?_hexChar (by omega), twoDigits?_hexChar (by omega),
    twoDigits?_hexChar (by omega)]
  simp only [Option.bind_eq_bind, Option.bind_some, hyears, h, if_true]

theorem fractionMicros_six {ds : List Nat} (h : ds.length = 6) : fractionMicros ds = ofDigits 10 ds := by
  rw [fractionMicros, List.take_of_length_le (by omega), h]
  exact Nat.mul_one _

theorem fraction?_padded {n : Nat} (h : n < 1000000) {rest : List Char}
    (hrest : ∀ c, rest.head? = some c → asciiDigit? c = none) :
    fraction? ('.' :: (padded 6 n ++ rest)) = some (n, rest) := by
  obtain ⟨ds, hlength, hdigits, hvalue, htext⟩ := exists_padded 6 (by omega) h
  obtain ⟨htake, hdrop⟩ := digits_append hdigits hrest
  have hne : ds.isEmpty = false := by
    rw [List.isEmpty_eq_false_iff]
    rintro rfl
    simp at hlength
  simp only [fraction?, true_or, if_true, htext, htake, hdrop, filterMap_digits hdigits, hne, Bool.false_eq_true,
    if_false, fractionMicros_six hlength, hvalue]

theorem clock?_clockText {seconds : Nat} (h : seconds < 86400) {micros : Nat} {fraction rest : List Char}
    (hfraction : fraction? fraction = some (micros, rest)) :
    clock? (Instant.clockText seconds ++ fraction) = some (seconds * 1000000 + micros, rest) := by
  have hparts : seconds / 3600 * 3600 + seconds / 60 % 60 * 60 + seconds % 60 = seconds := by omega
  have hclock : ¬ (23 < seconds / 3600 ∨ 59 < seconds / 60 % 60) := by omega
  have hsecond : ¬ 59 < seconds % 60 := by omega
  rw [Instant.clockText, padded_two (by omega), padded_two (by omega), padded_two (by omega)]
  simp only [List.cons_append, List.nil_append, clock?]
  rw [twoDigits?_hexChar (by omega), twoDigits?_hexChar (by omega), twoDigits?_hexChar (by omega)]
  simp only [Option.bind_eq_bind, Option.bind_some, hclock, hsecond, if_false, hfraction, Option.pure_def, hparts]

end Time.WrittenTime

namespace Time.Instant

open Text WrittenTime

theorem dayNumber_date (t : Instant) :
    t.date.isWritable = true ∧ t.date.isValid = true ∧ t.date.dayNumber = t.micros / dayMicros := by
  have hlast := t.inCalendar
  rw [endOfCalendar] at hlast
  exact CivilDate.dayNumber_ofDayNumber (Nat.div_lt_of_lt_mul (by rw [dayMicros]; omega))

theorem ofMicros?_micros (t : Instant) : ofMicros? t.micros = some t := by
  have hlast := t.inCalendar
  rw [ofMicros?, dif_pos ⟨by omega, by omega⟩]
  simp only [Int.toNat_natCast]

theorem ofCivil?_date (t : Instant) : ofCivil? t.date (t.micros % dayMicros) = some t := by
  obtain ⟨-, hvalid, hnumber⟩ := t.dayNumber_date
  have hmicros : t.micros / dayMicros * dayMicros + t.micros % dayMicros = t.micros := Nat.div_add_mod' _ _
  rw [ofCivil?, if_pos hvalid, hnumber, ← Int.natCast_mul, ← Int.natCast_add, hmicros, ofMicros?_micros]

theorem dateTime?_chars (t : Instant) : dateTime? t.chars = some (t.date, t.micros % dayMicros, some 0) := by
  have hdate := fun rest => date?_dateText t.dayNumber_date.1 rest
  have hseconds : t.micros % dayMicros / 1000000 < 86400 := by
    have := Nat.mod_lt t.micros (by decide : 0 < dayMicros)
    rw [dayMicros] at this ⊢
    omega
  have hmicros : t.micros % dayMicros / 1000000 * 1000000 + t.micros % 1000000 = t.micros % dayMicros := by
    rw [dayMicros]
    omega
  have hclock : clock? (clockText (t.micros % dayMicros / 1000000) ++
      ((if t.micros % 1000000 = 0 then [] else '.' :: padded 6 (t.micros % 1000000)) ++ ['Z'])) =
      some (t.micros % dayMicros, ['Z']) := by
    have hzone : ∀ c, (['Z'] : List Char).head? = some c → asciiDigit? c = none := by
      rintro c ⟨⟩
      rfl
    conv_rhs => rw [← hmicros]
    refine clock?_clockText hseconds ?_
    split
    · rename_i hzero
      rw [hzero]
      rfl
    · exact fraction?_padded (Nat.mod_lt _ (by decide)) hzone
  simp only [dateTime?, chars, secondChars, List.append_assoc, List.cons_append, hdate, Option.bind_eq_bind,
    Option.bind_some, true_or, if_true, hclock, offset?, Option.pure_def]

end Time.Instant

/-- A written instant is read as itself, in universal time. -/
theorem Time.readTime_chars (t : Time.Instant) : Time.readTime t.chars = .ok ⟨t, some 0⟩ := by
  rw [Time.readTime, t.dateTime?_chars]
  simp only [Time.WrittenTime.ofParts?, t.ofCivil?_date, Option.map_some]

theorem Time.WrittenTime.toInstant?_utc (t : Time.Instant) : (⟨t, some 0⟩ : Time.WrittenTime).toInstant? = some t := by
  rw [toInstant?, Option.getD_some, Int.zero_mul, Int.sub_zero]
  exact t.ofMicros?_micros

namespace Datum

theorem timeOfText_text (t : Time.Instant) : timeOfText t.text = .good t := by
  rw [timeOfText, Time.Instant.text, String.toList_ofList, Time.readTime_chars]
  dsimp only
  rw [timeOfWritten, Time.WrittenTime.toInstant?_utc]

theorem toTime_text (t : Time.Instant) : (Datum.text t.text).toTime = .good t := timeOfText_text t

end Datum

end CertInventory
