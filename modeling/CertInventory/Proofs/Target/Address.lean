import CertInventory.Proofs.Text.Cut
import CertInventory.Target.Address
import Mathlib.Data.List.GetD
import Mathlib.Tactic.SplitIfs

/-!
The texts of addresses. An IPv6 address is made of hexadecimal digits, colons and full stops
(`isAddressChar_of_v6Bits?`); any other character can stand in its zone alone (`exists_of_read?`).
-/

namespace CertInventory

namespace Address

/-- A character of an address without a zone. -/
def IsAddressChar (c : Char) : Prop := (Text.hexDigit? c).isSome = true ∨ c = ':' ∨ c = '.'

theorem isSome_hexDigit? {c : Char} (h : (Text.asciiDigit? c).isSome = true) : (Text.hexDigit? c).isSome = true := by
  unfold Text.asciiDigit? at h
  unfold Text.hexDigit?
  split at h
  · rename_i hrange
    rw [if_pos hrange]
    rfl
  · cases h

theorem isSome_of_octet? {cs : List Char} {n : Nat} (h : octet? cs = some n) :
    ∀ c ∈ cs, (Text.asciiDigit? c).isSome = true := by
  unfold octet? at h
  dsimp only at h
  split_ifs at h with hdigits
  exact List.filterMap_length_eq_length.mp (not_not.mp fun hne => hdigits (.inr (.inl hne)))

theorem isSome_of_hextet? {cs : List Char} {n : Nat} (h : hextet? cs = some n) :
    ∀ c ∈ cs, (Text.hexDigit? c).isSome = true := by
  unfold hextet? at h
  dsimp only at h
  split_ifs at h with hdigits
  exact List.filterMap_length_eq_length.mp (not_not.mp fun hne => hdigits (.inr (.inl hne)))

/-- An IPv4 address consists of digits and full stops. -/
theorem isSome_of_v4Bits? {cs : List Char} {bits : Nat} (h : v4Bits? cs = some bits) :
    ∀ c ∈ cs, (Text.asciiDigit? c).isSome = true ∨ c = '.' := by
  unfold v4Bits? at h
  split at h
  · rename_i a b c d hpieces
    simp only [bind, Option.bind_eq_some_iff] at h
    obtain ⟨_, ha, _, hb, _, hc, _, hd, _⟩ := h
    intro e he
    rcases Text.mem_splitAll '.' he with rfl | ⟨p, hp, hep⟩
    · exact .inr rfl
    · rw [hpieces] at hp
      simp only [List.mem_cons, List.not_mem_nil, or_false] at hp
      rcases hp with rfl | rfl | rfl | rfl
      · exact .inl (isSome_of_octet? ha e hep)
      · exact .inl (isSome_of_octet? hb e hep)
      · exact .inl (isSome_of_octet? hc e hep)
      · exact .inl (isSome_of_octet? hd e hep)
  · cases h

theorem exists_of_mapM {parts : List (List Char)} {hs : List Nat} (h : parts.mapM hextet? = some hs) :
    ∀ part ∈ parts, ∃ n, hextet? part = some n := by
  induction parts generalizing hs with
  | nil => nofun
  | cons part parts ih =>
    rw [List.mapM_cons] at h
    simp only [bind, Option.bind_eq_some_iff] at h
    obtain ⟨n, hn, rest, hrest, _⟩ := h
    exact List.forall_mem_cons.mpr ⟨⟨n, hn⟩, ih hrest⟩

/-- Groups of which each is empty or hexadecimal come from a text of address characters. -/
theorem isAddressChar_of_groups? {cs : List Char} {parts : List (List Char)} (h : groups? cs = some parts)
    (hparts : ∀ part ∈ parts, part = [] ∨ ∃ n, hextet? part = some n) : ∀ c ∈ cs, IsAddressChar c := by
  have hgroup {part : List Char} (hpart : part ∈ parts) : ∀ c ∈ part, IsAddressChar c := by
    rcases hparts part hpart with rfl | ⟨n, hn⟩
    · nofun
    · exact fun c hc => .inl (isSome_of_hextet? hn c hc)
  have hpieces : ∀ part ∈ Text.splitAll ':' cs, ∀ c ∈ part, IsAddressChar c := by
    unfold groups? at h
    dsimp only at h
    split at h
    · cases h
    · rename_i last hlast
      split_ifs at h with hshort hdot
      · simp only [bind, Option.bind_eq_some_iff] at h
        obtain ⟨bits, hbits, hgroups⟩ := h
        obtain ⟨front, hfront⟩ := List.getLast?_eq_some_iff.mp hlast
        rw [hfront, List.dropLast_concat] at hgroups
        rw [hfront]
        intro part hpart
        rcases List.mem_append.mp hpart with hpart | hpart
        · cases hgroups
          exact hgroup (List.mem_append_left _ hpart)
        · rw [List.mem_singleton.mp hpart]
          intro c hc
          exact (isSome_of_v4Bits? hbits c hc).imp isSome_hexDigit? .inr
      · cases h
        exact fun part hpart => hgroup hpart
  intro c hc
  rcases Text.mem_splitAll ':' hc with rfl | ⟨p, hp, hcp⟩
  · exact .inr (.inl rfl)
  · exact hpieces p hp c hcp

/-- The groups around the gap are those of the address, empty ones at its ends aside. -/
theorem mem_of_aroundGap? {parts : List (List Char)} {gap : Nat} {before behind : List (List Char)}
    (h : aroundGap? parts gap = some (before, behind)) :
    (∀ part ∈ parts.take gap, part = [] ∨ part ∈ before) ∧
    ∀ part ∈ parts.drop (gap + 1), part = [] ∨ part ∈ behind := by
  have halone {part : List Char} {r : List (List Char)} (hr : r.isEmpty = true) (hpart : part ∈ [] :: r) :
      part = [] := by
    rw [List.isEmpty_iff.mp hr] at hpart
    exact List.mem_singleton.mp hpart
  unfold aroundGap? at h
  dsimp only at h
  split at h
  · rename_i b e hbefore hbehind
    split_ifs at h with hshort
    cases h
    constructor
    · intro part hpart
      split at hbefore
      · rename_i r hfirst
        split_ifs at hbefore with hr
        exact .inl (halone hr (hfirst ▸ hpart))
      · cases hbefore
        exact .inr hpart
    · intro part hpart
      split at hbehind
      · rename_i r hlast
        split_ifs at hbehind with hr
        exact .inl (halone hr (hlast ▸ List.mem_reverse.mpr hpart))
      · cases hbehind
        exact .inr hpart
  · cases h

/-- An IPv6 address consists of hexadecimal digits, colons and full stops. -/
theorem isAddressChar_of_v6Bits? {cs : List Char} {bits : Nat} (h : v6Bits? cs = some bits) :
    ∀ c ∈ cs, IsAddressChar c := by
  simp only [v6Bits?, bind, Option.bind_eq_some_iff] at h
  obtain ⟨parts, hgroups, h⟩ := h
  apply isAddressChar_of_groups? hgroups
  by_cases hmany : 9 < parts.length
  · rw [if_pos hmany] at h
    cases h
  · rw [if_neg hmany] at h
    split at h
    · split_ifs at h with hcount
      simp only [Option.bind_eq_some_iff] at h
      obtain ⟨hs, hhextets, -⟩ := h
      exact fun part hpart => .inr (exists_of_mapM hhextets part hpart)
    · rename_i gap hgap
      simp only [Option.bind_eq_some_iff] at h
      obtain ⟨⟨before, behind⟩, haround, hi, hhi, lo, hlo, -⟩ := h
      obtain ⟨htake, hdrop⟩ := mem_of_aroundGap? haround
      have hinner : gap ∈ innerGaps parts := hgap ▸ List.mem_singleton_self gap
      obtain ⟨hrange, hempty⟩ := List.mem_filter.mp hinner
      have hlength : gap < parts.length := List.mem_range.mp hrange
      have hgroup : parts[gap] = [] := by
        rw [Bool.and_eq_true, List.getD_eq_getElem _ _ hlength] at hempty
        exact List.isEmpty_iff.mp hempty.2
      have hwhole : parts = parts.take gap ++ parts[gap] :: parts.drop (gap + 1) := by
        rw [List.getElem_cons_drop hlength, List.take_append_drop]
      intro part hpart
      rw [hwhole] at hpart
      rcases List.mem_append.mp hpart with hpart | hpart
      · exact (htake part hpart).imp_right (exists_of_mapM hhi part)
      · rcases List.mem_cons.mp hpart with rfl | hpart
        · exact .inl hgroup
        · exact (hdrop part hpart).imp_right (exists_of_mapM hlo part)
    · cases h

theorem v4Bits?_of_colon {cs : List Char} (h : ':' ∈ cs) : v4Bits? cs = none := by
  cases hbits : v4Bits? cs with
  | none => rfl
  | some bits =>
    rcases isSome_of_v4Bits? hbits ':' h with hdigit | hstop
    · cases hdigit
    · cases hstop

/-- The text of an IPv6 address: its groups, and a zone behind a percent sign or none. -/
theorem exists_of_read? {cs : List Char} {bits : Nat} {zone : Option String} (h : read? cs = some (.v6 bits zone)) :
    '/' ∉ cs ∧ (v6Bits? cs = some bits ∨
      ∃ body z, cs = body ++ '%' :: z ∧ '%' ∉ body ∧ '%' ∉ z ∧ z ≠ [] ∧ v6Bits? body = some bits) := by
  unfold read? at h
  split at h
  · cases h
  · split_ifs at h with hslash
    refine ⟨fun hmem => hslash (List.contains_iff_mem.mpr hmem), ?_⟩
    split at h
    · rename_i body hcut
      obtain ⟨rfl, -⟩ := Text.cutFirst_eq_none_iff.mp hcut
      obtain ⟨_, hbits, haddress⟩ := Option.map_eq_some_iff.mp h
      cases haddress
      exact .inl hbits
    · rename_i body z hcut
      obtain ⟨rfl, hbody⟩ := Text.cutFirst_eq_some_iff.mp hcut
      split_ifs at h with hzone
      obtain ⟨_, hbits, haddress⟩ := Option.map_eq_some_iff.mp h
      cases haddress
      rw [not_or, List.isEmpty_iff, List.contains_iff_mem] at hzone
      exact .inr ⟨body, z, rfl, hbody, hzone.2, hzone.1, hbits⟩

theorem read?_of_zone {body z : List Char} {bits : Nat} (hslash : '/' ∉ body ++ '%' :: z)
    (hcolon : ':' ∈ body ++ '%' :: z) (hbody : '%' ∉ body) (hz : '%' ∉ z) (hne : z ≠ [])
    (hbits : v6Bits? body = some bits) :
    read? (body ++ '%' :: z) = some (.v6 bits (some (String.ofList z))) := by
  have hzone : ¬ (z.isEmpty = true ∨ z.contains '%' = true) := by
    rw [List.isEmpty_iff, List.contains_iff_mem]
    exact not_or.mpr ⟨hne, hz⟩
  rw [read?, v4Bits?_of_colon hcolon]
  dsimp only
  rw [if_neg (mt List.contains_iff_mem.mp hslash), Text.cutFirst_append_cons hbody]
  dsimp only
  rw [if_neg hzone, hbits]
  rfl

end Address

end CertInventory
