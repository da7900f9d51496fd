import CertInventory.Proofs.Decimal.Sign
import CertInventory.Proofs.Text.Blank
import CertInventory.Proofs.Text.Digits
import CertInventory.Text.Numeral

/-!
Numbers read back from their digits. The decimal digits of a number are a whole number literal of its value
(`integer?_decimal`), as long as there are not more of them than a literal may have. A real number literal of however
many digits stands for a double with a sign, and only the literal that says so is no number.
-/

namespace CertInventory.Text

theorem digitIn?_hexChar : ∀ {d : Nat}, d < 10 → digitIn? 10 (hexChar d) = some d := by decide

theorem hexChar_ne_underscore : ∀ {d : Nat}, d < 10 → hexChar d ≠ '_' := by decide

theorem isWhiteSpace_hexChar : ∀ {d : Nat}, d < 10 → isWhiteSpace (hexChar d) = false := by decide

theorem moreDigits_map_hexChar {ds : List Nat} (hds : ∀ d ∈ ds, d < 10) :
    moreDigits 10 (ds.map hexChar) = (ds, []) := by
  induction ds with
  | nil => rfl
  | cons d ds ih =>
    obtain ⟨hd, hrest⟩ := List.forall_mem_cons.mp hds
    rw [List.map_cons, moreDigits, digitIn?_hexChar hd, ih hrest]
    exact fun c r h => absurd h (hexChar_ne_underscore hd)

theorem digits?_map_hexChar {ds : List Nat} (hds : ∀ d ∈ ds, d < 10) (hne : ds ≠ []) :
    digits? 10 (ds.map hexChar) = some (ds, []) := by
  obtain ⟨d, r, rfl⟩ := List.exists_cons_of_ne_nil hne
  obtain ⟨hd, hrest⟩ := List.forall_mem_cons.mp hds
  rw [List.map_cons, digits?, digitIn?_hexChar hd, moreDigits_map_hexChar hrest]
  rfl

theorem signOf_of_head {cs : List Char} (h : ∀ c ∈ cs.head?, c ≠ '-' ∧ c ≠ '+') : signOf cs = (false, cs) := by
  unfold signOf
  split
  · exact absurd rfl (h '-' rfl).1
  · exact absurd rfl (h '+' rfl).2
  · rfl

/-- What `signOf` passes over is a sign or nothing. -/
theorem exists_sign (cs : List Char) : ∃ sign ∈ [[], ['+'], ['-']], cs = sign ++ (signOf cs).2 := by
  unfold signOf
  split
  · exact ⟨['-'], by decide, rfl⟩
  · exact ⟨['+'], by decide, rfl⟩
  · exact ⟨[], by decide, rfl⟩

theorem head_map_hexChar {ds : List Nat} (hds : ∀ d ∈ ds, d < 10) :
    ∀ c ∈ (ds.map hexChar).head?, c ≠ '-' ∧ c ≠ '+' := by
  have hsigns : ∀ d, d < 10 → hexChar d ≠ '-' ∧ hexChar d ≠ '+' := by decide
  intro c hc
  obtain ⟨d, hd, rfl⟩ := List.mem_map.mp (List.mem_of_mem_head? hc)
  exact hsigns d (hds d hd)

theorem behindBaseMark_ten (cs : List Char) : behindBaseMark 10 cs = cs := by
  unfold behindBaseMark
  split
  · rename_i hletter
    cases hletter
  · rfl

/-- The digits of a number are a literal of it. -/
theorem integer?_decimal {n : Nat} (h : (decimal n).length ≤ digitLimit) : integer? (decimal n) = some (n : Int) := by
  obtain ⟨ds, hspells, htext⟩ := exists_spells_decimal n
  have hpadding : ∀ c ∈ ds.map hexChar, isWhiteSpace c = false := by
    intro c hc
    obtain ⟨d, hd, rfl⟩ := List.mem_map.mp hc
    exact isWhiteSpace_hexChar (hspells.digit d hd)
  rw [htext, List.length_map] at h
  have hlimit : ¬ ((baseLetter? 10).isNone && decide (digitLimit < ds.length)) = true := by
    simp only [Bool.and_eq_true, decide_eq_true_eq]
    omega
  rw [integer?, integerIn, htext, unpadded, dropEndWhile_dropWhile_eq_self hpadding,
    signOf_of_head (head_map_hexChar hspells.digit)]
  dsimp only
  rw [behindBaseMark_ten, digits?_map_hexChar hspells.digit hspells.ne_nil]
  dsimp only
  rw [if_neg hlimit, hspells.value]
  rfl

/-- A character of a whole number literal within its padding. -/
def IsNumeralChar (c : Char) : Prop := (digitIn? 10 c).isSome = true ∨ c = '_' ∨ c = '+' ∨ c = '-'

instance (c : Char) : Decidable (IsNumeralChar c) := inferInstanceAs (Decidable (_ ∨ _))

/-- What `moreDigits` takes are digits and underscores. -/
theorem exists_of_moreDigits (cs : List Char) :
    ∃ front, cs = front ++ (moreDigits 10 cs).2 ∧ ∀ c ∈ front, IsNumeralChar c := by
  fun_induction moreDigits 10 cs with
  | case1 c r d hd ds rest hmore ih =>
    rw [hmore] at ih
    obtain ⟨front, rfl, hfront⟩ := ih
    have hdigits : ∀ d ∈ c :: front, IsNumeralChar d :=
      List.forall_mem_cons.mpr ⟨.inl (Option.isSome_of_eq_some hd), hfront⟩
    exact ⟨'_' :: c :: front, rfl, List.forall_mem_cons.mpr ⟨.inr (.inl rfl), hdigits⟩⟩
  | case2 => exact ⟨[], rfl, nofun⟩
  | case3 c r _ d hd ds rest hmore ih =>
    rw [hmore] at ih
    obtain ⟨front, rfl, hfront⟩ := ih
    exact ⟨c :: front, rfl, List.forall_mem_cons.mpr ⟨.inl (Option.isSome_of_eq_some hd), hfront⟩⟩
  | case4 => exact ⟨[], rfl, nofun⟩
  | case5 => exact ⟨[], rfl, nofun⟩

theorem isNumeralChar_of_digits? {cs : List Char} {ds : List Nat} (h : digits? 10 cs = some (ds, [])) :
    ∀ c ∈ cs, IsNumeralChar c := by
  cases cs with
  | nil => nofun
  | cons c r =>
    rw [digits?, Option.map_eq_some_iff] at h
    obtain ⟨d, hd, hread⟩ := h
    obtain ⟨front, hr, hfront⟩ := exists_of_moreDigits r
    have hrest : (moreDigits 10 r).2 = [] := congrArg Prod.snd hread
    rw [hrest, List.append_nil] at hr
    exact List.forall_mem_cons.mpr ⟨.inl (Option.isSome_of_eq_some hd), hr ▸ hfront⟩

/-- A whole number literal consists of its digits, underscores and sign, and of padding. -/
theorem isNumeralChar_of_integer? {cs : List Char} {n : Int} (h : integer? cs = some n) :
    ∀ c ∈ cs, isWhiteSpace c = true ∨ IsNumeralChar c := by
  obtain ⟨front, hcs, hfront, -⟩ := dropWhile_eq_iff.mp (rfl : cs.dropWhile isWhiteSpace = _)
  obtain ⟨behind, hmid, hbehind, -⟩ :=
    dropEndWhile_eq_iff.mp (rfl : dropEndWhile isWhiteSpace (cs.dropWhile isWhiteSpace) = _)
  obtain ⟨sign, hsign, hbody⟩ := exists_sign (unpadded cs)
  have hdigits : ∀ c ∈ (signOf (unpadded cs)).2, IsNumeralChar c := by
    rw [integer?, integerIn] at h
    dsimp only at h
    rw [behindBaseMark_ten] at h
    cases hread : digits? 10 (signOf (unpadded cs)).2 with
    | none =>
      rw [hread] at h
      cases h
    | some read =>
      obtain ⟨ds, rest⟩ := read
      cases rest with
      | nil => exact isNumeralChar_of_digits? hread
      | cons c rest =>
        rw [hread] at h
        cases h
  have hsigns : ∀ c ∈ sign, IsNumeralChar c := by
    simp only [List.mem_cons, List.not_mem_nil, or_false] at hsign
    rcases hsign with rfl | rfl | rfl
    · nofun
    · exact List.forall_mem_singleton.mpr (.inr (.inr (.inl rfl)))
    · exact List.forall_mem_singleton.mpr (.inr (.inr (.inr rfl)))
  have hliteral : ∀ c ∈ unpadded cs, IsNumeralChar c := by
    rw [hbody]
    exact List.forall_mem_append.mpr ⟨hsigns, hdigits⟩
  rw [hcs, hmid]
  intro c hc
  rcases List.mem_append.mp hc with hc | hc
  · exact .inl (hfront c hc)
  · rcases List.mem_append.mp hc with hc | hc
    · exact .inr (hliteral c hc)
    · exact .inl (hbehind c hc)

theorem sign?_nearestFloat (ds : List Nat) (scale : Int) : Decimal.sign? (nearestFloat ds scale) = some .positive := by
  unfold nearestFloat
  dsimp only
  split_ifs
  · rfl
  · rfl
  · rfl
  · exact Decimal.sign?_ofScientific _ _ _
  · exact Decimal.sign?_ofScientific _ _ _

/-- Digits and infinities stand for doubles with a sign, whatever the number of digits and the exponent. -/
theorem RealLiteral.isNaN_toFloat_iff (literal : RealLiteral) :
    literal.toFloat.isNaN = true ↔ literal = .notANumber := by
  rw [Decimal.isNaN_eq_isNone_sign?]
  cases literal with
  | finite negative ds scale =>
    refine iff_of_false ?_ nofun
    cases negative with
    | true =>
      rw [toFloat, if_pos rfl, Decimal.sign?_neg, sign?_nearestFloat]
      nofun
    | false =>
      rw [toFloat, if_neg Bool.false_ne_true, sign?_nearestFloat]
      nofun
  | infinite negative =>
    refine iff_of_false ?_ nofun
    cases negative <;> decide +kernel
  | notANumber => exact iff_of_true rfl rfl

end CertInventory.Text
