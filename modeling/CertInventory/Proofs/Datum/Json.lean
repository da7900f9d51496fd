import CertInventory.Datum.Json.Reader
import CertInventory.Datum.Json.Writer
import CertInventory.Datum.Shown
import CertInventory.Proofs.Text.Digits
import Mathlib.Tactic.IntervalCases

/-!
JSON text read back. A document of texts, truth values, nothing and whole numbers, in lists and in maps whose keys are
different texts, is written as text that is read as this document again (`read_render`), as long as its numbers have
no more digits than are read.
-/

namespace CertInventory.Json

/-- What the text behind a value in a document starts with: the end of the text, or a sign that ends the value. -/
def Ends (rest : List Char) : Prop := ∀ c, rest.head? = some c → c = ',' ∨ c = ']' ∨ c = Char.ofNat 0x7D

theorem ends_nil : Ends [] := by simp [Ends]

theorem ends_cons {c : Char} (rest : List Char) (h : c = ',' ∨ c = ']' ∨ c = Char.ofNat 0x7D) : Ends (c :: rest) := by
  intro d hd
  obtain rfl : c = d := Option.some.inj hd
  exact h

theorem skipGap_cons {c : Char} (h : isGap c = false) (rest : List Char) : skipGap (c :: rest) = c :: rest := by
  rw [skipGap, List.dropWhile_cons_of_neg (by simp [h])]

theorem skipGap_blank (cs : List Char) : skipGap (' ' :: cs) = skipGap cs := List.dropWhile_cons_of_pos rfl

/-! ### Strings -/

theorem hexDigit?_hexChar : ∀ {d : Nat}, d < 16 → Text.hexDigit? (Text.hexChar d) = some d := by decide

theorem fourHex?_hexField {n : Nat} (h : n < 0x10000) (rest : List Char) :
    fourHex? (Text.hexField 4 n ++ rest) = some (n, rest) := by
  have hdigit (m : Nat) : Text.hexDigit? (Text.hexChar (m % 16)) = some (m % 16) :=
    hexDigit?_hexChar (Nat.mod_lt m (by decide))
  have hnumber : ((n / 16 / 16 / 16 % 16 * 16 + n / 16 / 16 % 16) * 16 + n / 16 % 16) * 16 + n % 16 = n := by omega
  simp only [Text.hexField, List.nil_append, List.cons_append, fourHex?, hdigit, Option.bind_eq_bind, Option.bind_some,
    hnumber, Option.pure_def]

/-- The number of a code that is no first half is read alone, whatever stands behind it. -/
theorem unicodeEscape?_hexField {n : Nat} (h : n < 0x10000) (hhalf : ¬ (0xD800 ≤ n ∧ n < 0xDC00)) (rest : List Char) :
    unicodeEscape? (Text.hexField 4 n ++ rest) = some (n, rest) := by
  simp only [unicodeEscape?, fourHex?_hexField h, Option.bind_eq_bind, Option.bind_some, if_neg hhalf]
  split <;> rfl

/-- Two halves are put together. -/
theorem unicodeEscape?_halves (high low : Nat) (hhigh : 0xD800 ≤ high ∧ high < 0xDC00)
    (hlow : 0xDC00 ≤ low ∧ low < 0xE000) (rest : List Char) :
    unicodeEscape? (Text.hexField 4 high ++ (numberEscape low ++ rest)) =
      some (0x10000 + (high - 0xD800) * 0x400 + (low - 0xDC00), rest) := by
  have hfirst := fourHex?_hexField (show high < 0x10000 by omega) (numberEscape low ++ rest)
  have hsecond := fourHex?_hexField (show low < 0x10000 by omega) rest
  rw [unicodeEscape?, hfirst]
  simp only [numberEscape, List.cons_append, Option.bind_eq_bind, Option.bind_some, if_pos hhigh, hsecond, if_pos hlow,
    Option.pure_def]

theorem plainEscape?_of_shortEscape? {n : Nat} {c : Char} (h : shortEscape? n = some c) :
    c ≠ 'u' ∧ ∃ x : Char, plainEscape? c = some x ∧ x.toNat = n := by
  unfold shortEscape? at h
  split_ifs at h with hquote hslash hback hfeed hline hreturn htab
  all_goals subst_vars
  all_goals obtain rfl := Option.some.inj h
  all_goals exact ⟨by decide, _, rfl, rfl⟩

def withCode (n : Nat) (read : Option (List Nat × List Char)) : Option (List Nat × List Char) :=
  read.map fun (codes, rest) => (n :: codes, rest)

theorem bind_eq_withCode (n : Nat) (read : Option (List Nat × List Char)) :
    (read.bind fun (codes, rest) => some (n :: codes, rest)) = withCode n read := by
  cases read <;> rfl

theorem stringBody_numbered {n : Nat} {cs rest : List Char} (h : unicodeEscape? cs = some (n, rest)) (fuel : Nat) :
    stringBody (fuel + 1) ('\\' :: 'u' :: cs) = withCode n (stringBody fuel rest) := by
  rw [← bind_eq_withCode]
  simp only [stringBody, h, Option.bind_eq_bind, Option.bind_some]
  rfl

theorem stringBody_escapeCode {n : Nat} (h : n.isValidChar) (fuel : Nat) (rest : List Char) :
    stringBody (fuel + 1) (escapeCode n ++ rest) = withCode n (stringBody fuel rest) := by
  have hrange : n < 0xD800 ∨ 0xDFFF < n ∧ n < 0x110000 := h
  unfold escapeCode
  split
  · rename_i c hshort
    obtain ⟨hu, x, hx, rfl⟩ := plainEscape?_of_shortEscape? hshort
    rw [← bind_eq_withCode]
    simp only [List.cons_append, List.nil_append, stringBody, if_neg hu, hx, Option.bind_eq_bind, Option.bind_some]
    rfl
  · rename_i hshort
    split_ifs with hplain hsmall
    · have hcode : (Char.ofNat n).toNat = n := by rw [Char.ofNat, dif_pos h]; rfl
      have hquote : Char.ofNat n ≠ '"' := by
        intro hc
        rw [← hcode, hc] at hshort
        cases hshort
      have hslash : Char.ofNat n ≠ '\\' := by
        intro hc
        rw [← hcode, hc] at hshort
        cases hshort
      rw [← bind_eq_withCode]
      simp only [List.cons_append, List.nil_append, stringBody, if_neg hquote, if_neg hslash, hcode,
        if_neg (show ¬ n < 0x20 by omega)]
      rfl
    · exact stringBody_numbered (unicodeEscape?_hexField hsmall (by omega) rest) fuel
    · have hjoined : 0x10000 + (0xD800 + (n - 0x10000) / 0x400 - 0xD800) * 0x400 +
          (0xDC00 + (n - 0x10000) % 0x400 - 0xDC00) = n := by omega
      have hhalves := unicodeEscape?_halves (0xD800 + (n - 0x10000) / 0x400) (0xDC00 + (n - 0x10000) % 0x400)
        (by omega) (by omega) rest
      rw [hjoined] at hhalves
      rw [List.append_assoc]
      exact stringBody_numbered hhalves fuel

theorem stringBody_flatMap {codes : List Nat} (hvalid : ∀ n ∈ codes, n.isValidChar) {fuel : Nat}
    (h : codes.length < fuel) (rest : List Char) :
    stringBody fuel (codes.flatMap escapeCode ++ '"' :: rest) = some (codes, rest) := by
  induction codes generalizing fuel with
  | nil =>
    obtain ⟨fuel, rfl⟩ : ∃ k, fuel = k + 1 := ⟨fuel - 1, by omega⟩
    rfl
  | cons n codes ih =>
    obtain ⟨hn, hcodes⟩ := List.forall_mem_cons.mp hvalid
    rw [List.length_cons] at h
    obtain ⟨fuel, rfl⟩ : ∃ k, fuel = k + 1 := ⟨fuel - 1, by omega⟩
    rw [List.flatMap_cons, List.append_assoc, stringBody_escapeCode hn, ih hcodes (by omega)]
    rfl

theorem escapeCode_ne_nil (n : Nat) : escapeCode n ≠ [] := by
  unfold escapeCode
  split
  · exact List.cons_ne_nil _ _
  · split_ifs <;> exact List.cons_ne_nil _ _

theorem length_le_flatMap_escapeCode (codes : List Nat) : codes.length ≤ (codes.flatMap escapeCode).length := by
  induction codes with
  | nil => simp
  | cons n codes ih =>
    have hcode := List.length_pos_iff.mpr (escapeCode_ne_nil n)
    rw [List.flatMap_cons, List.length_append, List.length_cons]
    omega

theorem isValidChar_of_mem_toNat {s : String} {n : Nat} (h : n ∈ s.toList.map Char.toNat) : n.isValidChar := by
  obtain ⟨c, -, rfl⟩ := List.mem_map.mp h
  exact c.valid

theorem ofCodes_toNat (s : String) : Scalar.ofCodes (s.toList.map Char.toNat) = .text s := by
  have hvalid : (s.toList.map Char.toNat).all fun n => n.isValidChar :=
    List.all_eq_true.mpr fun _ hn => decide_eq_true (isValidChar_of_mem_toNat hn)
  have hchars : (s.toList.map Char.toNat).map Char.ofNat = s.toList := by
    simp [List.map_map, Function.comp_def]
  rw [Scalar.ofCodes, if_pos hvalid, hchars, String.ofList_toList]

theorem string?_writeText (s : String) (rest : List Char) :
    string? ((s.toList.map Char.toNat).flatMap escapeCode ++ '"' :: rest) = some (.text s, rest) := by
  generalize hcodes : s.toList.map Char.toNat = codes
  have hfuel : codes.length < (codes.flatMap escapeCode ++ '"' :: rest).length + 1 := by
    have := length_le_flatMap_escapeCode codes
    rw [List.length_append]
    omega
  have hvalid : ∀ n ∈ codes, n.isValidChar := fun n hn => isValidChar_of_mem_toNat (hcodes ▸ hn)
  rw [string?, stringBody_flatMap hvalid hfuel rest, Option.map_some, ← hcodes]
  dsimp only
  rw [ofCodes_toNat]

/-! ### Numbers -/

theorem asciiDigit?_of_ends {rest : List Char} (h : Ends rest) (c : Char) (hc : rest.head? = some c) :
    Text.asciiDigit? c = none := by
  rcases h c hc with rfl | rfl | rfl <;> rfl

theorem places_of_ends {rest : List Char} (h : Ends rest) : places rest = (none, rest) := by
  cases rest with
  | nil => rfl
  | cons c rest => rcases h c rfl with rfl | rfl | rfl <;> rfl

theorem power_of_ends {rest : List Char} (h : Ends rest) : power rest = (none, rest) := by
  cases rest with
  | nil => rfl
  | cons c rest => rcases h c rfl with rfl | rfl | rfl <;> rfl

theorem wholeDigits?_of_spells {ds : List Nat} {n : Nat} (h : Text.Spells ds n) {rest : List Char} (hrest : Ends rest) :
    wholeDigits? (ds.map Text.hexChar ++ rest) = some (ds, rest) := by
  obtain ⟨htake, hdrop⟩ := Text.digits_append h.digit (asciiDigit?_of_ends hrest)
  have hdigits : asciiDigits (ds.map Text.hexChar ++ rest) = (ds, rest) := by
    rw [asciiDigits, htake, hdrop, Text.filterMap_digits h.digit]
  rw [wholeDigits?, hdigits]
  rcases h.leading with rfl | hleading
  · rfl
  · obtain ⟨d, tail, rfl⟩ := List.exists_cons_of_ne_nil h.ne_nil
    have hd : d ≠ 0 := by
      rintro rfl
      exact hleading rfl
    obtain ⟨d, rfl⟩ := Nat.exists_eq_succ_of_ne_zero hd
    rfl

theorem number_decimal (negative : Bool) {n : Nat} (h : n < Nat.pow 10 Text.digitLimit) {rest : List Char}
    (hrest : Ends rest) :
    number negative (Text.decimal n ++ rest) = .ok (.int (if negative then -(n : Int) else n), rest) := by
  obtain ⟨ds, hspells, htext⟩ := Text.exists_spells_decimal n
  have hlength : ds.length ≤ Text.digitLimit := by
    have hdigits : (Text.decimal n).length ≤ Text.digitLimit := Text.length_decimal_le (by decide) h
    rwa [htext, List.length_map] at hdigits
  have hshort : ¬ Text.digitLimit < ds.length := by omega
  simp only [number, htext, wholeDigits?_of_spells hspells hrest, found, bind, Except.bind]
  simp only [places_of_ends hrest, power_of_ends hrest, if_neg hshort, hspells.value, pure, Except.pure]

theorem plain_digit : ∀ {d : Nat}, d < 10 → ∀ rest : List Char,
    plain (Text.hexChar d :: rest) = number false (Text.hexChar d :: rest) ∧
    plain ('-' :: Text.hexChar d :: rest) = number true (Text.hexChar d :: rest) := by
  intro d hd rest
  interval_cases d <;> exact ⟨rfl, rfl⟩

theorem exists_decimal_cons (n : Nat) : ∃ d < 10, ∃ rest, Text.decimal n = Text.hexChar d :: rest := by
  obtain ⟨ds, hspells, htext⟩ := Text.exists_spells_decimal n
  obtain ⟨d, tail, rfl⟩ := List.exists_cons_of_ne_nil hspells.ne_nil
  exact ⟨d, hspells.digit d List.mem_cons_self, tail.map Text.hexChar, htext⟩

theorem plain_signedDecimal {n : Int} (h : n.natAbs < Nat.pow 10 Text.digitLimit) {rest : List Char}
    (hrest : Ends rest) : plain (Text.signedDecimal n ++ rest) = .ok (.int n, rest) := by
  obtain ⟨d, hd, tail, htext⟩ := exists_decimal_cons n.natAbs
  have hfront : Text.decimal n.natAbs ++ rest = Text.hexChar d :: (tail ++ rest) := by rw [htext, List.cons_append]
  unfold Text.signedDecimal
  split
  · have hn : -(n.natAbs : Int) = n := by omega
    rw [List.cons_append, hfront, (plain_digit hd _).2, ← hfront, number_decimal true h hrest, if_pos rfl, hn]
  · have hn : (n.natAbs : Int) = n := by omega
    rw [hfront, (plain_digit hd _).1, ← hfront, number_decimal false h hrest]
    simp only [Bool.false_eq_true, if_false, hn]

theorem exists_signedDecimal_cons (n : Int) :
    ∃ c rest, Text.signedDecimal n = c :: rest ∧ (c = '-' ∨ ∃ d < 10, c = Text.hexChar d) := by
  obtain ⟨d, hd, tail, htext⟩ := exists_decimal_cons n.natAbs
  unfold Text.signedDecimal
  split
  · exact ⟨_, _, rfl, .inl rfl⟩
  · exact ⟨_, _, htext, .inr ⟨d, hd, rfl⟩⟩

/-! ### Documents -/

/-- Documents that JSON text tells in full: nothing, truth values, whole numbers of not too many digits, texts, lists,
and maps under different texts. -/
inductive HasForm : Datum → Prop
  | null : HasForm .null
  | bool (b : Bool) : HasForm (.bool b)
  | int {n : Int} (h : n.natAbs < Nat.pow 10 Text.digitLimit) : HasForm (.int n)
  | text (s : String) : HasForm (.text s)
  | list {items : List Datum} (h : ∀ v ∈ items, HasForm v) : HasForm (.list items)
  | map {entries : List (Scalar × Datum)} (hkeys : ∀ e ∈ entries, ∃ name, e.1 = .text name)
      (hdistinct : entries.Pairwise fun a b => a.1.sameKey b.1 = false) (h : ∀ e ∈ entries, HasForm e.2) :
      HasForm (.map entries)

/-- What starts a value is no blank and does not end a list. -/
def Starts (c : Char) : Prop := isGap c = false ∧ c ≠ ']'

theorem starts_of_number {c : Char} (h : c = '-' ∨ ∃ d < 10, c = Text.hexChar d) :
    Starts c ∧ c ≠ '"' ∧ c ≠ '[' ∧ c.toNat ≠ 0x7B := by
  have hdigit : ∀ d < 10, (isGap (Text.hexChar d) = false ∧ Text.hexChar d ≠ ']') ∧ Text.hexChar d ≠ '"' ∧
      Text.hexChar d ≠ '[' ∧ (Text.hexChar d).toNat ≠ 0x7B := by decide
  rcases h with rfl | ⟨d, hd, rfl⟩
  · exact ⟨⟨rfl, by decide⟩, by decide, by decide, by decide⟩
  · exact hdigit d hd

theorem exists_write_cons {d : Datum} (h : HasForm d) : ∃ c rest, write d = c :: rest ∧ Starts c := by
  cases h with
  | null => exact ⟨'n', _, rfl, rfl, by decide⟩
  | bool b =>
    cases b with
    | false => exact ⟨'f', _, rfl, rfl, by decide⟩
    | true => exact ⟨'t', _, rfl, rfl, by decide⟩
  | @int n _ =>
    obtain ⟨c, rest, htext, hc⟩ := exists_signedDecimal_cons n
    exact ⟨c, rest, by rw [write, writeScalar, htext], (starts_of_number hc).1⟩
  | text s => exact ⟨'"', _, rfl, rfl, by decide⟩
  | @list items _ => cases items <;> exact ⟨'[', _, rfl, rfl, by decide⟩
  | @map entries _ _ _ => cases entries <;> exact ⟨Char.ofNat 0x7B, _, rfl, rfl, by decide⟩

/-- With enough steps to go, the value is read off the front of the text that starts with it. Two steps for each sign
of the text are enough: one for the value, one for its place in a list or a map. -/
def ReadsBack (d : Datum) : Prop :=
  ∀ fuel rest, 2 * (write d).length ≤ fuel → Ends rest → value fuel (write d ++ rest) = .ok (d, rest)

theorem value_plain {c : Char} (hgap : isGap c = false) (hc : c ≠ '"' ∧ c ≠ '[' ∧ c.toNat ≠ 0x7B) (fuel : Nat)
    (rest : List Char) : value (fuel + 1) (c :: rest) = plain (c :: rest) := by
  obtain ⟨hquote, hbracket, hbrace⟩ := hc
  rw [value, skipGap_cons hgap]
  simp only [if_neg hquote, if_neg hbracket, if_neg hbrace]

theorem readsBack_of_plain {d : Datum} {c : Char} {tail : List Char} (htext : write d = c :: tail)
    (hgap : isGap c = false) (hc : c ≠ '"' ∧ c ≠ '[' ∧ c.toNat ≠ 0x7B)
    (h : ∀ rest, Ends rest → plain (write d ++ rest) = .ok (d, rest)) : ReadsBack d := by
  intro fuel rest hfuel hrest
  have hread := h rest hrest
  rw [htext, List.cons_append] at hread ⊢
  rw [htext, List.length_cons] at hfuel
  obtain ⟨fuel, rfl⟩ : ∃ k, fuel = k + 1 := ⟨fuel - 1, by omega⟩
  rw [value_plain hgap hc, hread]

theorem readsBack_int {n : Int} (h : n.natAbs < Nat.pow 10 Text.digitLimit) : ReadsBack (.int n) := by
  obtain ⟨c, tail, htext, hc⟩ := exists_signedDecimal_cons n
  obtain ⟨⟨hgap, -⟩, hplain⟩ := starts_of_number hc
  exact readsBack_of_plain htext hgap hplain fun rest hrest => plain_signedDecimal h hrest

theorem readsBack_text (s : String) : ReadsBack (.text s) := by
  intro fuel rest hfuel _
  have htext : write (.text s) = '"' :: ((s.toList.map Char.toNat).flatMap escapeCode ++ ['"']) := by
    simp [write, writeScalar, writeText, writeCodes]
  rw [htext, List.length_cons] at hfuel
  obtain ⟨fuel, rfl⟩ : ∃ k, fuel = k + 1 := ⟨fuel - 1, by omega⟩
  rw [htext, List.cons_append, List.append_assoc, List.singleton_append, value, skipGap_cons rfl]
  simp only [if_true, string?_writeText, Option.map_some, found]

/-- A blank in front of a value is skipped, also where it is an item of a list or the text goes on with a member. -/
theorem value_blank (fuel : Nat) (cs : List Char) : value fuel (' ' :: cs) = value fuel cs := by
  cases fuel with
  | zero => rfl
  | succ fuel => rw [value, value, skipGap_blank]

theorem items_blank (fuel : Nat) (cs : List Char) : items fuel (' ' :: cs) = items fuel cs := by
  cases fuel with
  | zero => rfl
  | succ fuel => rw [items, items, value_blank]

theorem members_blank (fuel : Nat) (seen : List (Scalar × Datum)) (cs : List Char) :
    members fuel seen (' ' :: cs) = members fuel seen cs := by
  cases fuel with
  | zero => rfl
  | succ fuel => rw [members, members, skipGap_blank]

/-- The items of a list, one after the other: each is read back, and the sign behind it tells whether it is the last. -/
theorem items_writeItems {r : List Datum} (v : Datum) (h : ∀ w ∈ v :: r, ReadsBack w) (fuel : Nat) (rest : List Char)
    (hfuel : 2 * (write v ++ writeItems r).length < fuel) :
    items fuel (write v ++ writeItems r ++ rest) = .ok (v :: r, rest) := by
  induction r generalizing v fuel with
  | nil =>
    rw [List.length_append] at hfuel
    obtain ⟨fuel, rfl⟩ : ∃ k, fuel = k + 1 := ⟨fuel - 1, by omega⟩
    have hfirst := h v List.mem_cons_self fuel (']' :: rest) (by omega) (ends_cons _ (.inr (.inl rfl)))
    rw [List.append_assoc, writeItems, List.singleton_append, items, hfirst]
    rfl
  | cons w r ih =>
    rw [List.length_append, writeItems, List.cons_append, List.cons_append, List.length_cons, List.length_cons] at hfuel
    obtain ⟨fuel, rfl⟩ : ∃ k, fuel = k + 1 := ⟨fuel - 1, by omega⟩
    have hfirst := h v List.mem_cons_self fuel (',' :: ' ' :: (write w ++ writeItems r ++ rest)) (by omega)
      (ends_cons _ (.inl rfl))
    have hothers := ih w (fun u hu => h u (List.mem_cons_of_mem v hu)) fuel (by omega)
    rw [List.append_assoc, writeItems, List.cons_append, List.cons_append, List.cons_append, List.cons_append, items,
      hfirst]
    simp only [bind, Except.bind, skipGap_cons (show isGap ',' = false from rfl), items_blank, hothers]
    rfl

theorem readsBack_list {items : List Datum} (hform : ∀ v ∈ items, HasForm v) (h : ∀ v ∈ items, ReadsBack v) :
    ReadsBack (.list items) := by
  intro fuel rest hfuel _
  cases items with
  | nil =>
    obtain ⟨fuel, rfl⟩ : ∃ k, fuel = k + 1 := ⟨fuel - 1, by simp [write] at hfuel; omega⟩
    rfl
  | cons v r =>
    rw [write, List.cons_append, List.length_cons] at hfuel
    obtain ⟨fuel, rfl⟩ : ∃ k, fuel = k + 1 := ⟨fuel - 1, by omega⟩
    have hitems := items_writeItems v h fuel rest (by omega)
    obtain ⟨c, tail, htext, hgap, hend⟩ := exists_write_cons (hform v List.mem_cons_self)
    rw [write, List.cons_append, List.cons_append, value, skipGap_cons rfl]
    simp only [if_true, htext, List.cons_append, skipGap_cons hgap] at hitems ⊢
    rw [if_neg (by decide)]
    split
    · rename_i hcut
      exact absurd (List.cons.inj hcut).1 hend
    · rw [hitems]
      rfl

theorem put_of_new {name : Scalar} {v : Datum} {seen : List (Scalar × Datum)}
    (h : ∀ e ∈ seen, e.1.sameKey name = false) : Datum.put name v seen = seen ++ [(name, v)] := by
  induction seen with
  | nil => rfl
  | cons e rest ih =>
    obtain ⟨hfirst, hrest⟩ := List.forall_mem_cons.mp h
    rw [Datum.put, hfirst, ih hrest]
    rfl

/-- One entry of a map: it goes to the end of those read before, and the sign behind it tells what follows. -/
theorem members_entry {name : String} {v : Datum} {seen : List (Scalar × Datum)}
    (hnew : ∀ e ∈ seen, e.1.sameKey (.text name) = false) (hv : ReadsBack v) {fuel : Nat}
    (hfuel : 2 * (write v).length ≤ fuel) {next : List Char} (hnext : Ends next) :
    members (fuel + 1) seen (writeKey (.text name) ++ ':' :: ' ' :: write v ++ next) =
      match skipGap next with
      | c :: r =>
        if c = ',' then members fuel (seen ++ [(.text name, v)]) r
        else if c.toNat = 0x7D then .ok (seen ++ [(.text name, v)], r)
        else .error .malformed
      | [] => .error .malformed := by
  have htext : writeKey (.text name) ++ ':' :: ' ' :: write v ++ next =
      '"' :: ((name.toList.map Char.toNat).flatMap escapeCode ++ '"' :: ':' :: ' ' :: (write v ++ next)) := by
    simp [writeKey, writeText, writeCodes]
  rw [htext, members, skipGap_cons rfl]
  simp only [bind, Except.bind, found, string?_writeText, skipGap_cons (show isGap ':' = false from rfl), value_blank,
    hv fuel next hfuel hnext, put_of_new hnew]
  rfl

theorem members_writeEntries {r : List (Scalar × Datum)} (name : String) (v : Datum) (seen : List (Scalar × Datum))
    (hkeys : ∀ e ∈ r, ∃ other, e.1 = .text other)
    (hdistinct : (seen ++ (.text name, v) :: r).Pairwise fun a b => a.1.sameKey b.1 = false)
    (hv : ReadsBack v) (h : ∀ e ∈ r, ReadsBack e.2) (fuel : Nat) (rest : List Char)
    (hfuel : 2 * (writeKey (.text name) ++ ':' :: ' ' :: write v ++ writeEntries r).length < fuel) :
    members fuel seen (writeKey (.text name) ++ ':' :: ' ' :: write v ++ writeEntries r ++ rest) =
      .ok (seen ++ (.text name, v) :: r, rest) := by
  have hnew : ∀ e ∈ seen, e.1.sameKey (.text name) = false := fun e he =>
    (List.pairwise_append.mp hdistinct).2.2 e he _ List.mem_cons_self
  induction r generalizing name v seen fuel with
  | nil =>
    simp only [List.length_append, List.length_cons] at hfuel
    obtain ⟨fuel, rfl⟩ : ∃ k, fuel = k + 1 := ⟨fuel - 1, by omega⟩
    rw [writeEntries, List.append_assoc, List.singleton_append,
      members_entry hnew hv (by omega) (ends_cons _ (.inr (.inr rfl)))]
    rfl
  | cons e r ih =>
    obtain ⟨k, v'⟩ := e
    obtain ⟨⟨other, rfl⟩, hothers⟩ := List.forall_mem_cons.mp hkeys
    obtain ⟨hv', hrest⟩ := List.forall_mem_cons.mp h
    have hall : seen ++ (.text name, v) :: (.text other, v') :: r =
        seen ++ [(.text name, v)] ++ (.text other, v') :: r := by simp
    simp only [List.length_append, List.length_cons, writeEntries, List.cons_append] at hfuel
    obtain ⟨fuel, rfl⟩ : ∃ k, fuel = k + 1 := ⟨fuel - 1, by omega⟩
    rw [hall] at hdistinct
    have hrun := ih other v' (seen ++ [(.text name, v)]) hothers hdistinct hv' hrest fuel
      (by simp only [List.length_append, List.length_cons]; omega)
      (fun e he => (List.pairwise_append.mp hdistinct).2.2 e he _ List.mem_cons_self)
    have htext : writeEntries ((.text other, v') :: r) ++ rest =
        ',' :: ' ' :: (writeKey (.text other) ++ ':' :: ' ' :: write v' ++ writeEntries r ++ rest) := by
      simp [writeEntries]
    rw [List.append_assoc, htext, members_entry hnew hv (by omega) (ends_cons _ (.inl rfl)), skipGap_cons rfl]
    dsimp only
    rw [if_pos rfl, members_blank, hrun, hall]

theorem readsBack_map {entries : List (Scalar × Datum)} (hkeys : ∀ e ∈ entries, ∃ name, e.1 = .text name)
    (hdistinct : entries.Pairwise fun a b => a.1.sameKey b.1 = false) (h : ∀ e ∈ entries, ReadsBack e.2) :
    ReadsBack (.map entries) := by
  intro fuel rest hfuel _
  cases entries with
  | nil =>
    obtain ⟨fuel, rfl⟩ : ∃ k, fuel = k + 1 := ⟨fuel - 1, by simp [write] at hfuel; omega⟩
    rfl
  | cons e r =>
    obtain ⟨k, v⟩ := e
    obtain ⟨⟨name, rfl⟩, hothers⟩ := List.forall_mem_cons.mp hkeys
    obtain ⟨hv, hrest⟩ := List.forall_mem_cons.mp h
    rw [write, List.cons_append, List.cons_append, List.length_cons] at hfuel
    obtain ⟨fuel, rfl⟩ : ∃ k, fuel = k + 1 := ⟨fuel - 1, by omega⟩
    have hmembers := members_writeEntries name v [] hothers hdistinct hv hrest fuel rest (by
      simp only [List.length_append, List.length_cons] at hfuel ⊢
      omega)
    have htext : write (.map ((.text name, v) :: r)) ++ rest =
        Char.ofNat 0x7B :: (writeKey (.text name) ++ ':' :: ' ' :: write v ++ writeEntries r ++ rest) := by
      simp [write]
    obtain ⟨tail, htail⟩ : ∃ tail,
        writeKey (.text name) ++ ':' :: ' ' :: write v ++ writeEntries r ++ rest = '"' :: tail :=
      ⟨_, by rw [writeKey, writeText, writeCodes]; rfl⟩
    rw [htail] at hmembers htext
    rw [htext, value, skipGap_cons rfl]
    dsimp only
    rw [if_neg (by decide), if_neg (by decide), if_pos (by decide), skipGap_cons rfl]
    dsimp only
    rw [if_neg (by decide), hmembers]
    rfl

theorem readsBack {d : Datum} (h : HasForm d) : ReadsBack d := by
  induction h with
  | null => exact readsBack_of_plain (c := 'n') rfl rfl (by decide) fun _ _ => rfl
  | bool b =>
    cases b with
    | false => exact readsBack_of_plain (c := 'f') rfl rfl (by decide) fun _ _ => rfl
    | true => exact readsBack_of_plain (c := 't') rfl rfl (by decide) fun _ _ => rfl
  | int h => exact readsBack_int h
  | text s => exact readsBack_text s
  | list h ih => exact readsBack_list h ih
  | map hkeys hdistinct _ ih => exact readsBack_map hkeys hdistinct ih

/-- A document of this form is read back from its own text. -/
theorem read_render {d : Datum} (h : HasForm d) : read (render d) = .ok d := by
  have hvalue := readsBack h (2 * (write d).length + 2) [] (by omega) ends_nil
  rw [List.append_nil] at hvalue
  simp only [read, render, String.toList_ofList, readChars, hvalue]
  rfl

example : render (.list [.text "ü", .text "😀"]) = "[\"\\u00fc\", \"\\ud83d\\ude00\"]" := by decide +kernel

end CertInventory.Json
