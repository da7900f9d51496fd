import CertInventory.Text.Digit
import Mathlib.Data.List.Basic

/-!
Decimal digits read back. The digits of a number spell it (`exists_spells_decimal`), a padded field of fixed width
spells it too (`exists_padded`), and a run of digits ends where the text behind it starts with none.
-/

namespace CertInventory.Text

theorem asciiDigit?_hexChar : ∀ {d : Nat}, d < 10 → asciiDigit? (hexChar d) = some d := by decide

theorem ofDigits_concat (base : Nat) (ds : List Nat) (d : Nat) :
    ofDigits base (ds ++ [d]) = base * ofDigits base ds + d := by
  simp only [ofDigits, List.foldl_append, List.foldl_cons, List.foldl_nil]

theorem decimal_of_lt {n : Nat} (h : n < 10) : decimal n = [hexChar n] := by
  rw [decimal, digitsIn, dif_neg (by omega)]

theorem decimal_of_le {n : Nat} (h : 10 ≤ n) : decimal n = decimal (n / 10) ++ [hexChar (n % 10)] := by
  rw [decimal, digitsIn, dif_pos (by omega)]
  rfl

/-- Digits of a number, of which only the number zero starts with a zero. -/
structure Spells (ds : List Nat) (n : Nat) : Prop where
  digit : ∀ d ∈ ds, d < 10
  value : ofDigits 10 ds = n
  ne_nil : ds ≠ []
  leading : ds = [0] ∨ ds.head? ≠ some 0

theorem Spells.of_lt {n : Nat} (h : n < 10) : Spells [n] n where
  digit := by simpa using h
  value := by simp [ofDigits]
  ne_nil := List.cons_ne_nil _ _
  leading := by
    rcases Nat.eq_zero_or_pos n with rfl | hn
    · exact .inl rfl
    · exact .inr (by simpa using Nat.ne_of_gt hn)

theorem Spells.concat {n d : Nat} {ds : List Nat} (h : Spells ds n) (hn : 0 < n) (hd : d < 10) :
    Spells (ds ++ [d]) (10 * n + d) where
  digit := by
    intro e he
    rcases List.mem_append.mp he with he | he
    · exact h.digit e he
    · exact List.mem_singleton.mp he ▸ hd
  value := by rw [ofDigits_concat, h.value]
  ne_nil := by simp
  leading := by
    right
    rcases h.leading with rfl | hlead
    · have hzero := h.value
      simp [ofDigits] at hzero
      omega
    · rwa [List.head?_append_of_ne_nil _ h.ne_nil]

theorem exists_spells_decimal (n : Nat) : ∃ ds, Spells ds n ∧ decimal n = ds.map hexChar := by
  induction n using Nat.strongRecOn with
  | ind n ih =>
    by_cases hn : n < 10
    · exact ⟨[n], .of_lt hn, decimal_of_lt hn⟩
    · obtain ⟨ds, hds, htext⟩ := ih (n / 10) (by omega)
      have hspells := hds.concat (d := n % 10) (by omega) (Nat.mod_lt _ (by omega))
      rw [Nat.div_add_mod] at hspells
      refine ⟨_, hspells, ?_⟩
      rw [decimal_of_le (by omega), htext, List.map_append, List.map_singleton]

theorem length_decimal_le {width n : Nat} (hwidth : 0 < width) (h : n < Nat.pow 10 width) :
    (decimal n).length ≤ width := by
  induction width generalizing n with
  | zero => omega
  | succ width ih =>
    by_cases hn : n < 10
    · rw [decimal_of_lt hn, List.length_singleton]
      omega
    · have hrest : n / 10 < Nat.pow 10 width := Nat.div_lt_of_lt_mul (Nat.mul_comm .. ▸ h)
      have hpos : 0 < width := by
        by_contra hzero
        obtain rfl : width = 0 := by omega
        have hone : Nat.pow 10 0 = 1 := rfl
        omega
      have := ih hpos hrest
      rw [decimal_of_le (by omega), List.length_append, List.length_singleton]
      omega

/-- Digits of text are told from the text behind them. -/
theorem digits_append {ds : List Nat} {rest : List Char} (hds : ∀ d ∈ ds, d < 10)
    (hrest : ∀ c, rest.head? = some c → asciiDigit? c = none) :
    ((ds.map hexChar ++ rest).takeWhile fun c => (asciiDigit? c).isSome) = ds.map hexChar ∧
    ((ds.map hexChar ++ rest).dropWhile fun c => (asciiDigit? c).isSome) = rest := by
  have hall : ∀ c ∈ ds.map hexChar, (asciiDigit? c).isSome = true := by
    intro c hc
    obtain ⟨d, hd, rfl⟩ := List.mem_map.mp hc
    rw [asciiDigit?_hexChar (hds d hd)]
    rfl
  rw [List.takeWhile_append_of_pos hall, List.dropWhile_append_of_pos hall]
  cases rest with
  | nil => simp
  | cons c rest =>
    have hc : asciiDigit? c = none := hrest c rfl
    simp [hc]

theorem filterMap_digits {ds : List Nat} (hds : ∀ d ∈ ds, d < 10) : (ds.map hexChar).filterMap asciiDigit? = ds := by
  induction ds with
  | nil => rfl
  | cons d ds ih =>
    obtain ⟨hd, hrest⟩ := List.forall_mem_cons.mp hds
    rw [List.map_cons, List.filterMap_cons_some (asciiDigit?_hexChar hd), ih hrest]

theorem padded_succ {width : Nat} (hwidth : 0 < width) (n : Nat) :
    padded (width + 1) n = padded width (n / 10) ++ [hexChar (n % 10)] := by
  by_cases hn : n < 10
  · have hzero : n / 10 = 0 := by omega
    have hdigit : n % 10 = n := by omega
    obtain ⟨width, rfl⟩ : ∃ w, width = w + 1 := ⟨width - 1, by omega⟩
    simp only [padded, hzero, hdigit, decimal_of_lt hn, decimal_of_lt (n := 0) (by omega), List.length_singleton,
      Nat.add_sub_cancel, List.replicate_succ', List.append_assoc]
    rfl
  · simp only [padded, decimal_of_le (n := n) (by omega), List.length_append, List.length_singleton,
      Nat.add_sub_add_right, List.append_assoc]

theorem padded_one {n : Nat} (h : n < 10) : padded 1 n = [hexChar n] := by
  simp [padded, decimal_of_lt h]

theorem padded_two {n : Nat} (h : n < 100) : padded 2 n = [hexChar (n / 10), hexChar (n % 10)] := by
  rw [padded_succ (by omega), padded_one (by omega)]
  rfl

theorem padded_four {n : Nat} (h : n < 10000) :
    padded 4 n = [hexChar (n / 100 / 10), hexChar (n / 100 % 10), hexChar (n % 100 / 10), hexChar (n % 100 % 10)] := by
  have htens : n / 10 % 10 = n % 100 / 10 := by omega
  have hunits : n % 10 = n % 100 % 10 := by omega
  rw [padded_succ (by omega), padded_succ (by omega), Nat.div_div_eq_div_mul, padded_two (by omega), htens, hunits]
  rfl

theorem exists_padded (width : Nat) {n : Nat} (hwidth : 0 < width) (h : n < Nat.pow 10 width) :
    ∃ ds, ds.length = width ∧ (∀ d ∈ ds, d < 10) ∧ ofDigits 10 ds = n ∧ padded width n = ds.map hexChar := by
  induction width generalizing n with
  | zero => omega
  | succ width ih =>
    rcases Nat.eq_zero_or_pos width with rfl | hpos
    · have hn : n < 10 := by simpa using h
      exact ⟨[n], rfl, by simpa using hn, by simp [ofDigits], padded_one hn⟩
    · have hrest : n / 10 < Nat.pow 10 width := Nat.div_lt_of_lt_mul (Nat.mul_comm .. ▸ h)
      obtain ⟨ds, hlength, hdigits, hvalue, htext⟩ := ih hpos hrest
      refine ⟨ds ++ [n % 10], by simp [hlength], ?_, ?_, ?_⟩
      · intro d hd
        rcases List.mem_append.mp hd with hd | hd
        · exact hdigits d hd
        · rw [List.mem_singleton.mp hd]
          exact Nat.mod_lt _ (by omega)
      · rw [ofDigits_concat, hvalue]
        omega
      · rw [padded_succ hpos, htext, List.map_append, List.map_singleton]

end CertInventory.Text
