import CertInventory.Text.Utf8
import Mathlib.Data.List.Basic

/-!
UTF-8 written and read back. The machine reports the character that its bytes were made of and is back at its start
(`decodeUnits_utf8EncodeChar`), so reading gives back every text that was written, with no damage. From any bytes it
reads the ASCII characters that are among them and no others (`decodeLossy_concat`, `countP_decodeLossy_le`).
-/

namespace CertInventory.Text.Utf8

theorem decodeUnits_cons (s : State) (b : UInt8) (r : List UInt8) :
    decodeUnits s (b :: r) = (step s b.toNat).1 ++ decodeUnits (step s b.toNat).2 r := by
  cases s <;> rfl

theorem decodeUnits_start_cons (b : UInt8) (r : List UInt8) :
    decodeUnits .start (b :: r) = (first b.toNat).1 ++ decodeUnits (first b.toNat).2 r :=
  decodeUnits_cons .start b r

section Tail

variable {bits owed low high : Nat} {b : UInt8} {r : List UInt8}

theorem decodeUnits_last (hb : low ≤ b.toNat ∧ b.toNat ≤ high) :
    decodeUnits (.inside bits 1 low high) (b :: r) =
      .char (Char.ofNat (bits * 64 + (b.toNat - 0x80))) :: decodeUnits .start r := by
  rw [decodeUnits, step, if_pos hb, if_pos (Nat.le_refl 1)]
  rfl

theorem decodeUnits_more (hb : low ≤ b.toNat ∧ b.toNat ≤ high) :
    decodeUnits (.inside bits (owed + 2) low high) (b :: r) =
      decodeUnits (.inside (bits * 64 + (b.toNat - 0x80)) (owed + 1) 0x80 0xBF) r := by
  rw [decodeUnits, step, if_pos hb, if_neg (by omega)]
  rfl

end Tail

/-- The first of three bytes: the second may be any for which they spell no shorter character and no surrogate. -/
theorem first_of_three {v : Nat} (hlow : 0x800 ≤ v) (hhigh : v ≤ 0xFFFF) (hvalid : v < 0xD800 ∨ 0xE000 ≤ v) :
    ∃ low high, first (v / 4096 + 0xE0) = ([], .inside (v / 4096) 2 low high) ∧
      low ≤ v / 64 % 64 + 0x80 ∧ v / 64 % 64 + 0x80 ≤ high := by
  unfold first
  rw [if_neg (by omega), if_neg (by omega), if_neg (by omega)]
  split_ifs with hE0 hED
  · have hzero : v / 4096 = 0 := by omega
    exact ⟨0xA0, 0xBF, by rw [hzero], by omega, by omega⟩
  · have hsurrogates : v / 4096 = 0xD := by omega
    exact ⟨0x80, 0x9F, by rw [hsurrogates], by omega, by omega⟩
  · exact ⟨0x80, 0xBF, by rw [Nat.add_sub_cancel], by omega, by omega⟩
  all_goals omega

/-- The first of four bytes: the second may be any for which they spell no shorter character and none beyond the
last. -/
theorem first_of_four {v : Nat} (hlow : 0x10000 ≤ v) (hhigh : v < 0x110000) :
    ∃ low high, first (v / 262144 + 0xF0) = ([], .inside (v / 262144) 3 low high) ∧
      low ≤ v / 4096 % 64 + 0x80 ∧ v / 4096 % 64 + 0x80 ≤ high := by
  unfold first
  rw [if_neg (by omega), if_neg (by omega), if_neg (by omega), if_neg (by omega), if_neg (by omega),
    if_neg (by omega)]
  split_ifs with hF0 hF4 hlast
  · have hzero : v / 262144 = 0 := by omega
    exact ⟨0x90, 0xBF, by rw [hzero], by omega, by omega⟩
  · exact ⟨0x80, 0xBF, by rw [Nat.add_sub_cancel], by omega, by omega⟩
  · have hfour : v / 262144 = 4 := by omega
    exact ⟨0x80, 0x8F, by rw [hfour], by omega, by omega⟩
  · omega

theorem toNat_ofNat {n : Nat} (h : n < 256) : (UInt8.ofNat n).toNat = n := by
  rw [UInt8.toNat_ofNat', Nat.mod_eq_of_lt h]

theorem decodeUnits_utf8EncodeChar (c : Char) (rest : List UInt8) :
    decodeUnits .start (String.utf8EncodeChar c ++ rest) = .char c :: decodeUnits .start rest := by
  have hvalid : c.toNat < 0xD800 ∨ 0xDFFF < c.toNat ∧ c.toNat < 0x110000 := c.valid
  have hself {n : Nat} (hn : n = c.toNat) : Char.ofNat n = c := hn ▸ Char.ofNat_toNat c
  simp only [String.utf8EncodeChar, Char.toNat_val]
  split_ifs with hone htwo hthree
  · rw [List.singleton_append, decodeUnits_start_cons, toNat_ofNat (by omega), first, if_pos (by omega), hself rfl]
    rfl
  · have hfirst : first (c.toNat / 64 % 0x20 + 0xC0) = ([], .inside (c.toNat / 64) 1 0x80 0xBF) := by
      have hbits : c.toNat / 64 % 0x20 + 0xC0 - 0xC0 = c.toNat / 64 := by omega
      rw [first, if_neg (by omega), if_neg (by omega), if_pos (by omega), hbits]
    rw [List.cons_append, decodeUnits_start_cons, toNat_ofNat (by omega), hfirst, List.cons_append,
      decodeUnits_last (by rw [toNat_ofNat (by omega)]; omega), toNat_ofNat (by omega), hself (by omega)]
    rfl
  · obtain ⟨low, high, hfirst, hlow, hhigh⟩ := @first_of_three c.toNat (by omega) hthree (by omega)
    have hhead : c.toNat / 4096 % 0x10 + 0xE0 = c.toNat / 4096 + 0xE0 := by omega
    rw [List.cons_append, decodeUnits_start_cons, toNat_ofNat (by omega), hhead, hfirst, List.cons_append,
      decodeUnits_more (by rw [toNat_ofNat (by omega)]; exact ⟨hlow, hhigh⟩), List.cons_append,
      decodeUnits_last (by rw [toNat_ofNat (by omega)]; omega), toNat_ofNat (by omega), toNat_ofNat (by omega),
      hself (by omega)]
    rfl
  · obtain ⟨low, high, hfirst, hlow, hhigh⟩ := @first_of_four c.toNat (by omega) (by omega)
    have hhead : c.toNat / 262144 % 0x08 + 0xF0 = c.toNat / 262144 + 0xF0 := by omega
    rw [List.cons_append, decodeUnits_start_cons, toNat_ofNat (by omega), hhead, hfirst, List.cons_append,
      decodeUnits_more (by rw [toNat_ofNat (by omega)]; exact ⟨hlow, hhigh⟩), List.cons_append,
      decodeUnits_more (by rw [toNat_ofNat (by omega)]; omega), List.cons_append,
      decodeUnits_last (by rw [toNat_ofNat (by omega)]; omega), toNat_ofNat (by omega), toNat_ofNat (by omega),
      toNat_ofNat (by omega), hself (by omega)]
    rfl

theorem decodeUnits_encode (cs : List Char) : decodeUnits .start (encode cs) = cs.map .char := by
  induction cs with
  | nil => rfl
  | cons c cs ih => rw [encode, List.flatMap_cons, decodeUnits_utf8EncodeChar, ← encode, ih, List.map_cons]

theorem decodeLossy_encode (cs : List Char) : decodeLossy (encode cs) = cs := by
  rw [decodeLossy, decodeUnits_encode, List.map_map]
  exact List.map_id cs

/-- The state of a machine that began between characters: inside a character, its next byte is none of ASCII, and the
character will be none either. -/
def State.IsReached : State → Prop
  | .start => True
  | .inside bits owed low _ =>
    0x80 ≤ low ∧ (owed ≤ 1 → 2 ≤ bits) ∧ (1 < owed → 2 ≤ bits * 64 + (low - 0x80))

theorem isReached_first (b : Nat) : (first b).2.IsReached := by
  unfold first
  split_ifs
  all_goals first
    | trivial
    | exact ⟨by omega, by omega, by omega⟩

theorem isReached_step {s : State} (h : s.IsReached) (b : Nat) : (step s b).2.IsReached := by
  cases s with
  | start => exact isReached_first b
  | inside bits owed low high =>
    obtain ⟨hlow, -, hbits⟩ := h
    rw [step]
    split_ifs with hb howed
    · trivial
    · have hmore := hbits (Nat.lt_of_not_le howed)
      exact ⟨Nat.le_refl _, by omega, by omega⟩
    · exact isReached_first b

/-- Behind any bytes, also of a character that breaks off, an ASCII character is read as such. -/
theorem decodeUnits_concat {b : UInt8} (hb : b.toNat < 0x80) (bytes : List UInt8) {s : State} (h : s.IsReached) :
    decodeUnits s (bytes ++ [b]) = decodeUnits s bytes ++ [.char (Char.ofNat b.toNat)] := by
  have hfirst : first b.toNat = ([.char (Char.ofNat b.toNat)], .start) := if_pos hb
  induction bytes generalizing s with
  | nil =>
    cases s with
    | start =>
      rw [List.nil_append, decodeUnits_start_cons, hfirst]
      rfl
    | inside bits owed low high =>
      have hout : ¬ (low ≤ b.toNat ∧ b.toNat ≤ high) := by
        have hlow := h.1
        omega
      rw [List.nil_append, decodeUnits_cons, step, if_neg hout, hfirst]
      rfl
  | cons d bytes ih =>
    rw [List.cons_append, decodeUnits_cons, decodeUnits_cons, ih (isReached_step h d.toNat), List.append_assoc]

theorem decodeLossy_concat {b : UInt8} (hb : b.toNat < 0x80) (bytes : List UInt8) :
    decodeLossy (bytes ++ [b]) = decodeLossy bytes ++ [Char.ofNat b.toNat] := by
  rw [decodeLossy, decodeUnits_concat hb bytes (s := .start) trivial, List.map_append]
  rfl

def Report.shown : Report → Char
  | .char c => c
  | .damage => Char.ofNat 0xFFFD

theorem decodeLossy_eq (bytes : List UInt8) : decodeLossy bytes = (decodeUnits .start bytes).map Report.shown := by
  rw [decodeLossy]
  refine List.map_congr_left fun r _ => ?_
  cases r <;> rfl

section Count

variable {p : Char → Bool}

theorem eq_false_of_beyond (hp : ∀ c, p c = true → 0 < c.toNat ∧ c.toNat < 0x80) {n : Nat} (hn : 0x80 ≤ n) :
    p (Char.ofNat n) = false := by
  have hvalue : (Char.ofNat n).toNat = n ∨ (Char.ofNat n).toNat = 0 := by
    by_cases hvalid : n.isValidChar
    · exact .inl (by rw [Char.ofNat, dif_pos hvalid]; rfl)
    · exact .inr (by rw [Char.ofNat, dif_neg hvalid]; rfl)
  rw [Bool.eq_false_iff]
  intro h
  have hbounds := hp _ h
  omega

theorem countP_first_le (hp : ∀ c, p c = true → 0 < c.toNat ∧ c.toNat < 0x80) (b : Nat) :
    ((first b).1.map Report.shown).countP p ≤ if p (Char.ofNat b) then 1 else 0 := by
  have hdamage : p (Char.ofNat 0xFFFD) = false := eq_false_of_beyond hp (by decide)
  unfold first
  split_ifs <;> simp [Report.shown, *]

theorem countP_step_le (hp : ∀ c, p c = true → 0 < c.toNat ∧ c.toNat < 0x80) {s : State} (h : s.IsReached) (b : Nat) :
    ((step s b).1.map Report.shown).countP p ≤ if p (Char.ofNat b) then 1 else 0 := by
  have hdamage : p (Char.ofNat 0xFFFD) = false := eq_false_of_beyond hp (by decide)
  cases s with
  | start => exact countP_first_le hp b
  | inside bits owed low high =>
    obtain ⟨hlow, hbits, -⟩ := h
    rw [step]
    by_cases hb : low ≤ b ∧ b ≤ high
    · rw [if_pos hb]
      dsimp only
      by_cases howed : owed ≤ 1
      · have hmany := hbits howed
        have hfar : p (Char.ofNat (bits * 64 + (b - 0x80))) = false := eq_false_of_beyond hp (by omega)
        rw [if_pos howed, List.map_singleton, List.countP_singleton, Report.shown, hfar]
        exact Nat.zero_le _
      · rw [if_neg howed]
        exact Nat.zero_le _
    · rw [if_neg hb]
      dsimp only
      rw [List.map_cons, List.countP_cons_of_neg]
      · exact countP_first_le hp b
      · exact Bool.eq_false_iff.mp hdamage

/-- An ASCII character that is read was a byte of its own. -/
theorem countP_decodeLossy_le (hp : ∀ c, p c = true → 0 < c.toNat ∧ c.toNat < 0x80) (bytes : List UInt8) :
    (decodeLossy bytes).countP p ≤ bytes.countP fun b => p (Char.ofNat b.toNat) := by
  have hfrom {s : State} (h : s.IsReached) : ((decodeUnits s bytes).map Report.shown).countP p ≤
      bytes.countP fun b => p (Char.ofNat b.toNat) := by
    induction bytes generalizing s with
    | nil =>
      cases s with
      | start => exact Nat.zero_le _
      | inside bits owed low high =>
        have hdamage : p (Char.ofNat 0xFFFD) = false := eq_false_of_beyond hp (by decide)
        rw [decodeUnits, List.map_singleton, List.countP_singleton, Report.shown, hdamage]
        exact Nat.zero_le _
    | cons b bytes ih =>
      have hone := countP_step_le hp h b.toNat
      have hrest := ih (isReached_step h b.toNat)
      rw [decodeUnits_cons, List.map_append, List.countP_append, List.countP_cons, Nat.add_comm (List.countP _ bytes)]
      exact Nat.add_le_add hone hrest
  rw [decodeLossy_eq]
  exact hfrom trivial

end Count

end CertInventory.Text.Utf8
