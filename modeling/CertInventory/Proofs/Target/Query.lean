import CertInventory.Proofs.Text.Blank
import CertInventory.Proofs.Text.Cut
import CertInventory.Proofs.Text.Utf8
import CertInventory.Target.Query

/-!
Query parameters written and read back. A written value consists of plain characters, plus signs and percent signs, so
it holds no separator, and its bytes are read back one by one (`unescape_escape`); so a parameter that is written with
any name and any value that is not blank is found again (`first?_written`). Characters behind a query that take no part
in an escape go to the value of its last parameter as they are (`first?_append_of_namedLast`), and no value has more
slashes than could be written there (`countP_first?_le`).
-/

namespace CertInventory.Query

theorem hexDigit?_hexCharUpper : ∀ {n : Nat}, n < 16 → Text.hexDigit? (Text.hexCharUpper n) = some n := by decide

theorem isPlain_hexCharUpper : ∀ {n : Nat}, n < 16 → isPlain (Text.hexCharUpper n).toNat = true := by decide

/-- A character of a written value. -/
def IsWritten (c : Char) : Prop := isPlain c.toNat = true ∨ c = '+' ∨ c = '%'

theorem toNat_byteChar (b : UInt8) : (Char.ofNat b.toNat).toNat = b.toNat := by
  have hlt := b.toNat_lt
  have hvalid : b.toNat.isValidChar := .inl (by omega)
  rw [Char.ofNat, dif_pos hvalid]
  rfl

theorem isPlain_bounds {n : Nat} (h : isPlain n = true) : 0x2D ≤ n ∧ n ≤ 0x7E := by
  simp only [isPlain, Bool.or_eq_true, Bool.and_eq_true, decide_eq_true_eq, beq_iff_eq] at h
  omega

theorem IsWritten.bounds {c : Char} (h : IsWritten c) : 0x25 ≤ c.toNat ∧ c.toNat ≤ 0x7E := by
  rcases h with h | rfl | rfl
  · have := isPlain_bounds h
    omega
  · decide
  · decide

/-- A character that is no plain one and neither a plus sign nor a percent sign is in no written value. -/
theorem IsWritten.ne {c d : Char} (h : IsWritten c) (hd : isPlain d.toNat = false ∧ d ≠ '+' ∧ d ≠ '%') : c ≠ d := by
  rintro rfl
  rcases h with h | h | h
  · exact Bool.noConfusion (h.symm.trans hd.1)
  · exact hd.2.1 h
  · exact hd.2.2 h

theorem isWritten_of_mem_escapeByte {b : UInt8} {c : Char} (h : c ∈ escapeByte b) : IsWritten c := by
  have hlt := b.toNat_lt
  unfold escapeByte at h
  split_ifs at h with hplain hspace
  · obtain rfl := List.mem_singleton.mp h
    exact .inl (by rwa [toNat_byteChar])
  · obtain rfl := List.mem_singleton.mp h
    exact .inr (.inl rfl)
  · simp only [List.mem_cons, List.not_mem_nil, or_false] at h
    rcases h with rfl | rfl | rfl
    · exact .inr (.inr rfl)
    · exact .inl (isPlain_hexCharUpper (by omega))
    · exact .inl (isPlain_hexCharUpper (by omega))

theorem isWritten_of_mem_escape {cs : List Char} {c : Char} (h : c ∈ escape cs) : IsWritten c := by
  obtain ⟨b, _, hb⟩ := List.mem_flatMap.mp h
  exact isWritten_of_mem_escapeByte hb

theorem not_mem_escape {cs : List Char} {d : Char} (hd : isPlain d.toNat = false ∧ d ≠ '+' ∧ d ≠ '%') :
    d ∉ escape cs :=
  fun h => (isWritten_of_mem_escape h).ne hd rfl

theorem escape_ne_nil {cs : List Char} (h : cs ≠ []) : escape cs ≠ [] := by
  have hbyte (b : UInt8) : escapeByte b ≠ [] := by
    unfold escapeByte
    split_ifs <;> exact List.cons_ne_nil _ _
  obtain ⟨c, r, rfl⟩ := List.exists_cons_of_ne_nil h
  obtain ⟨b, bs, hbs⟩ := List.exists_cons_of_ne_nil (String.utf8EncodeChar_ne_nil (c := c))
  rw [escape, Text.Utf8.encode, List.flatMap_cons, hbs, List.cons_append, List.flatMap_cons]
  exact fun hnil => hbyte b (List.append_eq_nil_iff.mp hnil).1

def spaced (c : Char) : Char := if c = '+' then ' ' else c

theorem percentBytes_cons {c : Char} (hc : c ≠ '%') (r : List Char) :
    percentBytes (c :: r) = UInt8.ofNat c.toNat :: percentBytes r := by
  rw [percentBytes]
  exact fun a b r' h => absurd h hc

/-- A written byte is read back, whatever follows it. -/
theorem percentBytes_escapeByte (b : UInt8) (r : List Char) :
    percentBytes ((escapeByte b).map spaced ++ r) = b :: percentBytes r := by
  have hlt := b.toNat_lt
  unfold escapeByte
  split_ifs with hplain hspace
  · have hne (d : Char) (hd : isPlain d.toNat = false) : Char.ofNat b.toNat ≠ d := by
      rintro rfl
      rw [toNat_byteChar] at hd
      exact Bool.noConfusion (hplain.symm.trans hd)
    rw [List.map_singleton, spaced, if_neg (hne '+' (by decide)), List.singleton_append,
      percentBytes_cons (hne '%' (by decide)), toNat_byteChar, UInt8.ofNat_toNat]
  · rw [List.map_singleton, spaced, if_pos rfl, List.singleton_append, percentBytes_cons (by decide)]
    rw [← UInt8.ofNat_toNat (x := b), hspace]
    rfl
  · have hdigit {n : Nat} (hn : n < 16) : spaced (Text.hexCharUpper n) = Text.hexCharUpper n := by
      revert n
      decide
    rw [List.map_cons, List.map_cons, List.map_singleton, hdigit (by omega), hdigit (by omega)]
    show percentBytes ('%' :: _ :: _ :: r) = _
    rw [percentBytes, hexDigit?_hexCharUpper (by omega), hexDigit?_hexCharUpper (by omega)]
    have hbyte : b.toNat / 16 * 16 + b.toNat % 16 = b.toNat := by omega
    simp only [hbyte, UInt8.ofNat_toNat]

theorem percentBytes_flatMap (bs : List UInt8) : percentBytes ((bs.flatMap escapeByte).map spaced) = bs := by
  induction bs with
  | nil => rfl
  | cons b bs ih => rw [List.flatMap_cons, List.map_append, percentBytes_escapeByte, ih]

/-- Text of ASCII characters is one run. -/
theorem unescapeRuns_of_ascii {cs : List Char} (h : ∀ c ∈ cs, isAscii c = true) (pending : List Char) :
    unescapeRuns pending cs = Text.Utf8.decodeLossy (percentBytes (pending.reverse ++ cs)) := by
  induction cs generalizing pending with
  | nil => rw [unescapeRuns, List.append_nil]
  | cons c cs ih =>
    obtain ⟨hc, hrest⟩ := List.forall_mem_cons.mp h
    rw [unescapeRuns, if_pos hc, ih hrest, List.reverse_cons, List.append_assoc, List.singleton_append]

theorem unescape_escape (cs : List Char) : unescape (escape cs) = cs := by
  have hascii : ∀ c ∈ (escape cs).map spaced, isAscii c = true := by
    intro c hc
    obtain ⟨d, hd, rfl⟩ := List.mem_map.mp hc
    have hbounds := (isWritten_of_mem_escape hd).bounds
    unfold spaced
    split_ifs
    · rfl
    · exact decide_eq_true (by omega)
  show unescapeRuns [] ((escape cs).map spaced) = cs
  rw [unescapeRuns_of_ascii hascii, List.reverse_nil, List.nil_append, escape, percentBytes_flatMap,
    Text.Utf8.decodeLossy_encode]

/-- A parameter that is written alone is found by its name. -/
theorem first?_written (name : String) {value : List Char} (h : value ≠ []) :
    first? name (String.ofList (escape name.toList ++ '=' :: escape value)) = some (String.ofList value) := by
  have hname : '=' ∉ escape name.toList := not_mem_escape (by decide)
  have hpiece : '&' ∉ escape name.toList ++ '=' :: escape value := by
    rw [List.mem_append, List.mem_cons, not_or, not_or]
    exact ⟨not_mem_escape (by decide), by decide, not_mem_escape (by decide)⟩
  obtain ⟨c, v, hvalue⟩ := List.exists_cons_of_ne_nil (escape_ne_nil h)
  have hparameters : parameters (escape name.toList ++ '=' :: escape value) = [(name.toList, value)] := by
    rw [parameters, Text.splitAll_of_not_mem hpiece, List.filterMap_cons, Text.cutFirst_append_cons hname, hvalue]
    dsimp only
    rw [← hvalue, unescape_escape, unescape_escape]
    rfl
  rw [first?, String.toList_ofList, hparameters]
  simp only [List.find?_cons, beq_self_eq_true, Option.map_some]

/-- A character that takes no part in an escape. -/
def IsInert (c : Char) : Prop := c ≠ '%' ∧ c ≠ '+' ∧ Text.hexDigit? c = none

theorem isInert_of_isBlank {c : Char} (h : Text.isBlank c = true) : IsInert c := by
  have hbounds := Text.toNat_of_isBlank h
  refine ⟨?_, ?_, ?_⟩
  · rintro rfl
    cases h
  · rintro rfl
    cases h
  · unfold Text.hexDigit?
    rw [if_neg (by omega), if_neg (by omega), if_neg (by omega)]

theorem percentBytes_concat {c : Char} (h : IsInert c) (cs : List Char) :
    percentBytes (cs ++ [c]) = percentBytes cs ++ [UInt8.ofNat c.toNat] := by
  fun_induction percentBytes cs with
  | case1 a b r hi lo ha hb ih =>
    rw [List.cons_append, List.cons_append, List.cons_append, percentBytes, ha, hb]
    dsimp only
    rw [ih, List.cons_append]
  | case2 a b r hno ih =>
    rw [List.cons_append, List.cons_append, List.cons_append, percentBytes]
    rw [List.cons_append, List.cons_append] at ih
    split
    · rename_i hi lo ha hb
      exact absurd hb (hno hi lo ha)
    · rw [ih, List.cons_append]
  | case3 d r hd ih =>
    by_cases hpercent : d = '%'
    · -- A percent sign with fewer than two characters behind it stays one, as no digit follows them.
      subst hpercent
      cases r with
      | nil =>
        rw [List.nil_append] at ih
        rw [List.singleton_append, percentBytes, ih]
        · rfl
        · rintro a b r' - hr
          cases hr
      | cons a r =>
        cases r with
        | nil =>
          rw [List.singleton_append] at ih
          rw [List.cons_append, List.singleton_append, percentBytes, h.2.2]
          split
          · rename_i hnone
            cases hnone
          · rw [ih]
            rfl
        | cons b r => exact absurd rfl (hd a b r rfl)
    · rw [List.cons_append, percentBytes_cons hpercent, ih, List.cons_append]
  | case4 =>
    rw [List.nil_append, percentBytes_cons h.1]
    rfl

theorem unescapeRuns_concat {c : Char} (h : IsInert c) (pending cs : List Char) :
    unescapeRuns pending (cs ++ [c]) = unescapeRuns pending cs ++ [c] := by
  induction cs generalizing pending with
  | nil =>
    rw [List.nil_append, unescapeRuns, unescapeRuns]
    by_cases hc : isAscii c = true
    · have hsmall : c.toNat < 0x80 := of_decide_eq_true hc
      have hbyte : (UInt8.ofNat c.toNat).toNat = c.toNat := Text.Utf8.toNat_ofNat (by omega)
      rw [if_pos hc, unescapeRuns, List.reverse_cons, percentBytes_concat h,
        Text.Utf8.decodeLossy_concat (by omega), hbyte, Char.ofNat_toNat]
    · rw [if_neg hc, unescapeRuns]
      rfl
  | cons d cs ih =>
    rw [List.cons_append, unescapeRuns, unescapeRuns]
    split
    · exact ih _
    · rw [ih, List.append_assoc, List.cons_append]

/-- Characters that take no part in an escape stay behind a value as they are. -/
theorem unescape_append {behind : List Char} (h : ∀ c ∈ behind, IsInert c) (cs : List Char) :
    unescape (cs ++ behind) = unescape cs ++ behind := by
  induction behind generalizing cs with
  | nil => rw [List.append_nil, List.append_nil]
  | cons c behind ih =>
    obtain ⟨hc, hrest⟩ := List.forall_mem_cons.mp h
    have hone : unescape (cs ++ [c]) = unescape cs ++ [c] := by
      rw [unescape, unescape, List.map_append, List.map_singleton, if_neg hc.2.1, unescapeRuns_concat hc]
    rw [← List.singleton_append, ← List.append_assoc, ih hrest, hone, List.append_assoc]

def spellsSlash (c : Char) : Bool := c == '/' || c == '%'

theorem bounds_of_spellsSlash {c : Char} (h : spellsSlash c = true) : 0x20 < c.toNat ∧ c.toNat < 0x80 := by
  rcases Bool.or_eq_true_iff.mp h with h | h <;> rw [beq_iff_eq.mp h] <;> decide

theorem spellsSlash_of_isBlank {c : Char} (h : Text.isBlank c = true) : spellsSlash c = false := by
  rw [Bool.eq_false_iff]
  intro hslash
  have hvisible := bounds_of_spellsSlash hslash
  have hbounds := Text.toNat_of_isBlank h
  omega

theorem countP_percentBytes_le {cs : List Char} (h : ∀ c ∈ cs, isAscii c = true) :
    ((percentBytes cs).countP fun b => spellsSlash (Char.ofNat b.toNat)) ≤ cs.countP spellsSlash := by
  fun_induction percentBytes cs with
  | case1 a b r hi lo ha hb ih =>
    obtain ⟨-, -, hr⟩ : isAscii '%' = true ∧ isAscii a = true ∧ ∀ c ∈ b :: r, isAscii c = true := by
      simpa using h
    have hrest := ih (List.forall_mem_cons.mp hr).2
    rw [List.countP_cons, List.countP_cons_of_pos (by rfl), List.countP_cons, List.countP_cons]
    split <;> omega
  | case2 a b r hno ih =>
    have hrest := ih (List.forall_mem_cons.mp h).2
    rw [List.countP_cons_of_pos (by rfl), List.countP_cons_of_pos (by rfl)]
    omega
  | case3 d r hd ih =>
    obtain ⟨hascii, hr⟩ := List.forall_mem_cons.mp h
    have hsmall : d.toNat < 0x80 := of_decide_eq_true hascii
    have hself : Char.ofNat (UInt8.ofNat d.toNat).toNat = d := by
      rw [Text.Utf8.toNat_ofNat (by omega), Char.ofNat_toNat]
    have hrest := ih hr
    rw [List.countP_cons, List.countP_cons, hself]
    omega
  | case4 => exact Nat.le_refl _

theorem countP_run_le {pending : List Char} (h : ∀ c ∈ pending, isAscii c = true) :
    (Text.Utf8.decodeLossy (percentBytes pending.reverse)).countP spellsSlash ≤ pending.countP spellsSlash := by
  have hplain : ∀ c, spellsSlash c = true → 0 < c.toNat ∧ c.toNat < 0x80 := by
    intro c hc
    have hbounds := bounds_of_spellsSlash hc
    omega
  have hbytes := countP_percentBytes_le fun c hc => h c (List.mem_reverse.mp hc)
  rw [List.countP_reverse] at hbytes
  exact (Text.Utf8.countP_decodeLossy_le hplain _).trans hbytes

theorem countP_unescapeRuns_le (pending : List Char) (h : ∀ c ∈ pending, isAscii c = true) (cs : List Char) :
    (unescapeRuns pending cs).countP spellsSlash ≤ pending.countP spellsSlash + cs.countP spellsSlash := by
  induction cs generalizing pending with
  | nil => exact countP_run_le h
  | cons c cs ih =>
    rw [unescapeRuns]
    by_cases hc : isAscii c = true
    · have hrest := ih (c :: pending) (List.forall_mem_cons.mpr ⟨hc, h⟩)
      rw [if_pos hc, List.countP_cons]
      rw [List.countP_cons] at hrest
      omega
    · have hrun := countP_run_le h
      have hrest := ih [] nofun
      rw [if_neg hc, List.countP_append, List.countP_cons, List.countP_cons]
      rw [List.countP_nil] at hrest
      omega

/-- A value has no more slashes than there are slashes and percent signs in its written form. -/
theorem countP_unescape_le (cs : List Char) : (unescape cs).countP spellsSlash ≤ cs.countP spellsSlash := by
  have hspaced : (cs.map spaced).countP spellsSlash = cs.countP spellsSlash := by
    rw [List.countP_map]
    refine List.countP_congr fun c _ => ?_
    by_cases hc : c = '+'
    · rw [hc]
      decide
    · rw [Function.comp_apply, spaced, if_neg hc]
  have hruns := countP_unescapeRuns_le [] nofun (cs.map spaced)
  rwa [List.countP_nil, Nat.zero_add, hspaced] at hruns

/-- The value that a piece of a query has for a name, if anything is written there. -/
def given? (name : String) (piece : List Char) : Option (List Char) :=
  match Text.cutFirst '=' piece with
  | (key, some (c :: v)) => if unescape key = name.toList then some (unescape (c :: v)) else none
  | _ => none

theorem first?_eq (name query : String) :
    first? name query = ((Text.splitAll '&' query.toList).findSome? (given? name)).map String.ofList := by
  rw [first?, parameters]
  induction Text.splitAll '&' query.toList with
  | nil => rfl
  | cons p pieces ih =>
    rw [List.findSome?_cons, given?, List.filterMap_cons]
    cases hcut : Text.cutFirst '=' p with
    | mk key value =>
      rcases value with _ | _ | ⟨c, v⟩
      · exact ih
      · exact ih
      · dsimp only
        by_cases hkey : unescape key = name.toList
        · simp only [if_pos hkey, List.find?_cons, beq_iff_eq.mpr hkey]
          rfl
        · simp only [if_neg hkey, List.find?_cons, beq_eq_false_iff_ne.mpr hkey]
          exact ih

theorem countP_given?_le {name : String} {piece value : List Char} (h : given? name piece = some value) :
    value.countP spellsSlash ≤ piece.countP spellsSlash := by
  unfold given? at h
  split at h
  · rename_i key c v hcut
    split at h
    · cases h
      obtain ⟨rfl, -⟩ := Text.cutFirst_eq_some_iff.mp hcut
      have hpart : (c :: v).Sublist (key ++ '=' :: c :: v) :=
        ((List.Sublist.refl _).cons '=').trans (List.sublist_append_right _ _)
      exact (countP_unescape_le (c :: v)).trans hpart.countP_le
    · cases h
  · cases h

theorem countP_first?_le {name query value : String} (h : first? name query = some value) :
    value.toList.countP spellsSlash ≤ query.toList.countP spellsSlash := by
  rw [first?_eq, Option.map_eq_some_iff] at h
  obtain ⟨v, hv, rfl⟩ := h
  obtain ⟨piece, hpiece, hgiven⟩ := List.exists_of_findSome?_eq_some hv
  rw [String.toList_ofList]
  exact (countP_given?_le hgiven).trans (Text.sublist_of_mem_splitAll hpiece).countP_le

section Last

variable {name : String} {behind : List Char}

theorem given?_append_cons {key : List Char} (h : '=' ∉ key) (value : List Char) :
    given? name (key ++ '=' :: value) =
      if unescape key = name.toList ∧ value ≠ [] then some (unescape value) else none := by
  rw [given?, Text.cutFirst_append_cons h]
  cases value with
  | nil => simp
  | cons c v => simp

theorem given?_of_not_mem {piece : List Char} (h : '=' ∉ piece) : given? name piece = none := by
  rw [given?, Text.cutFirst_of_not_mem h]

/-- The last piece of a query has the name, and no piece before it gives a value for it. -/
def NamedLast (name : String) (query : List Char) : Prop :=
  ∃ earlier key value, Text.splitAll '&' query = earlier ++ [key ++ '=' :: value] ∧ '=' ∉ key ∧
    unescape key = name.toList ∧ ∀ piece ∈ earlier, given? name piece = none

theorem first?_append_of_not_namedLast {query : List Char} (hpiece : '&' ∉ behind) (hvalue : '=' ∉ behind)
    (hlast : ¬ NamedLast name (query ++ behind)) :
    first? name (String.ofList (query ++ behind)) = first? name (String.ofList query) := by
  obtain ⟨earlier, p, hquery, hbehind⟩ := Text.exists_splitAll_append query hpiece
  rw [first?_eq, first?_eq, String.toList_ofList, String.toList_ofList, hquery, hbehind, List.findSome?_append,
    List.findSome?_append]
  cases hearlier : earlier.findSome? (given? name) with
  | some value => rw [Option.some_or, Option.some_or]
  | none =>
    have hnone : given? name (p ++ behind) = none ∧ given? name p = none := by
      by_cases hp : '=' ∈ p
      · obtain ⟨key, value, rfl, hkey⟩ := List.eq_append_cons_of_mem hp
        have hother : unescape key ≠ name.toList := by
          intro hname
          refine hlast ⟨earlier, key, value ++ behind, ?_, hkey, hname, List.findSome?_eq_none_iff.mp hearlier⟩
          rw [hbehind, List.append_assoc, List.cons_append]
        rw [List.append_assoc, List.cons_append, given?_append_cons hkey, given?_append_cons hkey,
          if_neg fun h => hother h.1, if_neg fun h => hother h.1]
        exact ⟨rfl, rfl⟩
      · have hmem : '=' ∉ p ++ behind := fun h => (List.mem_append.mp h).elim hp hvalue
        exact ⟨given?_of_not_mem hmem, given?_of_not_mem hp⟩
    rw [List.findSome?_singleton, List.findSome?_singleton, hnone.1, hnone.2]

theorem first?_append_of_namedLast {query : List Char} (hinert : ∀ c ∈ behind, IsInert c) (hne : behind ≠ [])
    (hpiece : '&' ∉ behind) (hvalue : '=' ∉ behind) (hlast : NamedLast name (query ++ behind)) :
    ∃ value, first? name (String.ofList (query ++ behind)) = some (String.ofList (value ++ behind)) ∧
      (first? name (String.ofList query)).getD "" = String.ofList value := by
  obtain ⟨earlier, p, hquery, hbehind⟩ := Text.exists_splitAll_append query hpiece
  obtain ⟨earlier', key, value, hpieces, hkey, hname, hnone⟩ := hlast
  obtain ⟨rfl, hp⟩ : earlier = earlier' ∧ p ++ behind = key ++ '=' :: value := by
    have h := List.append_inj' (hbehind.symm.trans hpieces) rfl
    exact ⟨h.1, (List.cons.inj h.2).1⟩
  obtain ⟨v, rfl, rfl⟩ : ∃ v, p = key ++ '=' :: v ∧ value = v ++ behind := by
    rcases List.append_eq_append_iff.mp hp with ⟨m, -, rfl⟩ | ⟨m, rfl, hm⟩
    · exact absurd (List.mem_append_right m List.mem_cons_self) hvalue
    · rcases List.cons_eq_append_iff.mp hm with ⟨rfl, rfl⟩ | ⟨v, rfl, hv⟩
      · exact absurd List.mem_cons_self hvalue
      · exact ⟨v, rfl, hv⟩
  refine ⟨unescape v, ?_, ?_⟩
  · rw [first?_eq, String.toList_ofList, hpieces, List.findSome?_append, List.findSome?_eq_none_iff.mpr hnone,
      Option.none_or, List.findSome?_singleton, given?_append_cons hkey,
      if_pos ⟨hname, List.append_ne_nil_of_right_ne_nil v hne⟩, unescape_append hinert]
    rfl
  · rw [first?_eq, String.toList_ofList, hquery, List.findSome?_append, List.findSome?_eq_none_iff.mpr hnone,
      Option.none_or, List.findSome?_singleton, given?_append_cons hkey]
    by_cases hv : v = []
    · rw [hv, if_neg fun h => h.2 rfl]
      rfl
    · rw [if_pos ⟨hname, hv⟩]
      rfl

end Last

end CertInventory.Query
