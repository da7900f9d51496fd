import CertInventory.Datum.Checked
import CertInventory.Proofs.Text.Digits

/-!
Whole numbers read back from their decimal form. The form is a strict numeral of the number, as long as it has not too
many characters, a minus sign among them (`toInteger_showInt`).
-/

namespace CertInventory.Datum

open Text

theorem hexChar_ne_minus : ∀ {d : Nat}, d < 10 → hexChar d ≠ '-' := by decide

theorem filterMap_takeWhile_digits {ds : List Nat} (hds : ∀ d ∈ ds, d < 10) :
    ((ds.map hexChar).takeWhile fun c => (asciiDigit? c).isSome).filterMap asciiDigit? = ds := by
  have hends : ∀ c, ([] : List Char).head? = some c → asciiDigit? c = none := nofun
  have htake := (digits_append hds hends).1
  rw [List.append_nil] at htake
  rw [htake, filterMap_digits hds]

/-- Digits of which the first is no zero, behind a minus sign or not. -/
theorem strictNumeral_digits (negative : Bool) {ds : List Nat} {n : Nat} (hspells : Spells ds n) (hn : n ≠ 0) :
    strictNumeral ((if negative then ['-'] else []) ++ ds.map hexChar) =
      if digitLimit < ds.length + (if negative then 1 else 0) then .tooLong
      else .value (if negative then -(n : Int) else n) := by
  have hzero : ds.head? ≠ some 0 := hspells.leading.resolve_left fun h => hn (by rw [← hspells.value, h]; rfl)
  have hread := filterMap_takeWhile_digits hspells.digit
  have hvalue := hspells.value
  obtain ⟨d, r, rfl⟩ := List.exists_cons_of_ne_nil hspells.ne_nil
  obtain ⟨d, rfl⟩ : ∃ e, d = e + 1 := Nat.exists_eq_succ_of_ne_zero fun h => hzero (congrArg some h)
  have hminus : hexChar (d + 1) ≠ '-' := hexChar_ne_minus (hspells.digit _ List.mem_cons_self)
  have hlength : (((d + 1) :: r).map hexChar).length = ((d + 1) :: r).length := List.length_map _
  cases negative with
  | true =>
    have hsign : ('-' :: ((d + 1) :: r).map hexChar).length - (((d + 1) :: r).map hexChar).length = 1 :=
      Nat.add_sub_cancel_left _ _
    rw [if_pos rfl, if_pos rfl, if_pos rfl, List.singleton_append, strictNumeral, hread, hsign, if_pos hlength.symm,
      hvalue, if_pos rfl]
    rfl
  | false =>
    rw [if_neg Bool.false_ne_true, if_neg Bool.false_ne_true, if_neg Bool.false_ne_true, List.nil_append, strictNumeral]
    · rw [hread, Nat.sub_self, if_pos hlength.symm, hvalue, if_neg Bool.false_ne_true]
      rfl
    · exact fun r h => hminus (List.cons.inj h).1

theorem length_showInt (n : Int) :
    (showInt n).length = (decimal n.natAbs).length + (if n < 0 then 1 else 0) := by
  rw [showInt, String.length_ofList, signedDecimal]
  split
  · rw [List.length_cons]
  · rfl

theorem strictNumeral_showInt (n : Int) :
    strictNumeral (showInt n).toList = if digitLimit < (showInt n).length then .tooLong else .value n := by
  by_cases hn : n = 0
  · have hzero : showInt 0 = "0" := by decide +kernel
    rw [hn, hzero]
    rfl
  · obtain ⟨ds, hspells, htext⟩ := exists_spells_decimal n.natAbs
    have hdigits := strictNumeral_digits (decide (n < 0)) hspells (Int.natAbs_ne_zero.mpr hn)
    rw [length_showInt, htext, List.length_map, showInt, String.toList_ofList, signedDecimal, htext]
    by_cases hneg : n < 0
    · have hself : -(n.natAbs : Int) = n := by omega
      simpa only [hneg, decide_true, if_true, List.singleton_append, hself] using hdigits
    · have hself : (n.natAbs : Int) = n := by omega
      simpa only [hneg, decide_false, Bool.false_eq_true, if_false, List.nil_append, hself] using hdigits

theorem toInteger_showInt (n : Int) :
    (Datum.text (showInt n)).toInteger =
      if digitLimit < (showInt n).length then .problem .oversizedInteger else .good n := by
  have hread : (Datum.text (showInt n)).toInteger = integerOfText (showInt n) := rfl
  rw [hread, integerOfText, strictNumeral_showInt]
  by_cases hlong : digitLimit < (showInt n).length
  · rw [if_pos hlong, if_pos hlong]
  · rw [if_neg hlong, if_neg hlong]

end CertInventory.Datum
