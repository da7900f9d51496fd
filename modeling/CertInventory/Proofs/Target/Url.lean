import CertInventory.Proofs.Target.Authority
import Mathlib.Data.List.Basic

/-!
URLs cut into their parts. The text of a URL with an authority shows its scheme, its authority and the rest
(`exists_isCut`), and a text that is put together from them is cut there (`IsCut.split_eq`). Blanks around a text stay
behind the last part of its URL, tabs and line ends among them aside (`exists_cleaned_eq`).
-/

namespace CertInventory.Url

/-- A letter and characters that may stand behind it in a scheme. -/
def IsScheme (cs : List Char) : Prop :=
  ∃ c name, cs = c :: name ∧ isSchemeStart c = true ∧ name.all isSchemeChar = true

theorem bounds_of_isSchemeStart {c : Char} (h : isSchemeStart c = true) : 0x41 ≤ c.toNat ∧ c.toNat ≤ 0x7A := by
  simp only [isSchemeStart, Bool.or_eq_true, Bool.and_eq_true, decide_eq_true_eq] at h
  omega

theorem IsScheme.not_mem {scheme : List Char} (h : IsScheme scheme) {d : Char}
    (hd : isSchemeStart d = false ∧ isSchemeChar d = false) : d ∉ scheme := by
  obtain ⟨c, name, rfl, hc, hname⟩ := h
  intro hmem
  rcases List.mem_cons.mp hmem with rfl | hmem
  · exact Bool.noConfusion (hc.symm.trans hd.1)
  · exact Bool.noConfusion ((List.all_eq_true.mp hname d hmem).symm.trans hd.2)

def queryIn (rest : List Char) : List Char := ((Text.cutFirst '?' (Text.cutFirst '#' rest).1).2).getD []

/-- A text consists of a scheme, an authority that is in order, and the rest behind it. -/
structure IsCut (cs scheme authority rest : List Char) : Prop where
  eq : cs = scheme ++ ':' :: '/' :: '/' :: (authority ++ rest)
  isScheme : IsScheme scheme
  goesOn : ∀ c ∈ authority, endsAuthority c = false
  ends : ∀ c ∈ rest.head?, endsAuthority c = true
  checked : checkAuthority authority = .ok ()

def ofCut (scheme authority rest : List Char) : Url :=
  ⟨String.ofList (Text.lower scheme), String.ofList authority, String.ofList (queryIn rest)⟩

variable {cs scheme authority rest : List Char}

theorem IsCut.suffix (h : IsCut cs scheme authority rest) : rest <:+ cs :=
  ⟨scheme ++ ':' :: '/' :: '/' :: authority, by simp [h.eq]⟩

/-- A fragment starts behind the authority. -/
theorem IsCut.hash_mem_iff (h : IsCut cs scheme authority rest) : '#' ∈ cs ↔ '#' ∈ rest := by
  refine ⟨fun hmem => ?_, fun hmem => h.suffix.subset hmem⟩
  have hscheme : '#' ∉ scheme := h.isScheme.not_mem (by decide)
  have hauthority : '#' ∉ authority := fun hmem => Bool.noConfusion ((h.goesOn '#' hmem).symm.trans rfl)
  rw [h.eq] at hmem
  simpa [hscheme, hauthority] using hmem

theorem schemeAndRest_append (h : IsScheme scheme) (r : List Char) :
    schemeAndRest (scheme ++ ':' :: r) = (Text.lower scheme, r) := by
  have hcolon : ':' ∉ scheme := h.not_mem (by decide)
  obtain ⟨c, name, rfl, hc, hname⟩ := h
  rw [schemeAndRest, Text.cutFirst_append_cons hcolon]
  dsimp only
  rw [hc, hname, Bool.and_true, if_pos rfl]

theorem schemeAndRest_cases (cs : List Char) :
    (∃ scheme r, cs = scheme ++ ':' :: r ∧ IsScheme scheme ∧ schemeAndRest cs = (Text.lower scheme, r)) ∨
      schemeAndRest cs = ([], cs) := by
  unfold schemeAndRest
  split
  · rename_i c name r hcut
    obtain ⟨rfl, -⟩ := Text.cutFirst_eq_some_iff.mp hcut
    by_cases hscheme : (isSchemeStart c && name.all isSchemeChar) = true
    · rw [if_pos hscheme]
      obtain ⟨hc, hname⟩ := Bool.and_eq_true_iff.mp hscheme
      exact .inl ⟨c :: name, r, rfl, ⟨c, name, rfl, hc, hname⟩, rfl⟩
    · rw [if_neg hscheme]
      exact .inr rfl
  · exact .inr rfl

theorem authorityAndRest_append (hgoesOn : ∀ c ∈ authority, endsAuthority c = false)
    (hends : ∀ c ∈ rest.head?, endsAuthority c = true) :
    authorityAndRest ('/' :: '/' :: (authority ++ rest)) = (authority, rest) := by
  have hpasses : ∀ c ∈ authority, (!endsAuthority c) = true := fun c hc => by rw [hgoesOn c hc]; rfl
  rw [authorityAndRest, List.takeWhile_append_of_pos hpasses, List.dropWhile_append_of_pos hpasses]
  cases rest with
  | nil => rw [List.takeWhile_nil, List.dropWhile_nil, List.append_nil]
  | cons c rest =>
    have hstop : (!endsAuthority c) = false := by
      rw [hends c rfl]
      rfl
    simp only [List.takeWhile_cons, List.dropWhile_cons, hstop, if_neg Bool.false_ne_true, List.append_nil]

theorem authorityAndRest_cases (r : List Char) :
    (∃ authority rest, r = '/' :: '/' :: (authority ++ rest) ∧ (∀ c ∈ authority, endsAuthority c = false) ∧
      (∀ c ∈ rest.head?, endsAuthority c = true) ∧ authorityAndRest r = (authority, rest)) ∨
      authorityAndRest r = ([], r) := by
  unfold authorityAndRest
  split
  · rename_i r
    refine .inl ⟨_, _, by rw [List.takeWhile_append_dropWhile], ?_, ?_, rfl⟩
    · intro c hc
      simpa using List.mem_takeWhile_imp hc
    · intro c hc
      have hstop := List.head?_dropWhile_not (fun c => !endsAuthority c) r
      rw [Option.mem_def.mp hc] at hstop
      simpa using hstop
  · exact .inr rfl

theorem IsCut.split_eq {s : String} (h : IsCut (cleaned s.toList) scheme authority rest) :
    split s = .ok (ofCut scheme authority rest) := by
  rw [split, h.eq, schemeAndRest_append h.isScheme]
  dsimp only
  rw [authorityAndRest_append h.goesOn h.ends]
  dsimp only
  rw [h.checked]
  rfl

/-- A URL with a scheme and an authority shows where it was cut. -/
theorem exists_isCut {s : String} {u : Url} (h : split s = .ok u) (hscheme : u.scheme ≠ "")
    (hauthority : u.authority ≠ "") :
    ∃ scheme authority rest, IsCut (cleaned s.toList) scheme authority rest ∧ u = ofCut scheme authority rest := by
  unfold split at h
  rcases schemeAndRest_cases (cleaned s.toList) with ⟨scheme, r, hcs, hisScheme, hparts⟩ | hparts
  · rw [hparts] at h
    dsimp only at h
    rcases authorityAndRest_cases r with ⟨authority, rest, rfl, hgoesOn, hends, hcut⟩ | hcut
    · rw [hcut] at h
      dsimp only at h
      cases hchecked : checkAuthority authority with
      | error e =>
        rw [hchecked] at h
        cases h
      | ok _ =>
        rw [hchecked] at h
        cases h
        exact ⟨scheme, authority, rest, ⟨hcs, hisScheme, hgoesOn, hends, hchecked⟩, rfl⟩
    · rw [hcut] at h
      dsimp only at h
      split at h
      · cases h
      · cases h
        exact absurd rfl hauthority
  · rw [hparts] at h
    dsimp only at h
    split at h
    · cases h
    · cases h
      exact absurd rfl hscheme

def isKept (c : Char) : Bool := c != '\t' && c != '\r' && c != '\n'

theorem cleaned_eq (cs : List Char) : cleaned cs = (cs.dropWhile fun c => c.toNat ≤ 0x20).filter isKept := rfl

theorem isKept_of_lt {c : Char} (h : 0x20 < c.toNat) : isKept c = true := by
  simp only [isKept, Bool.and_eq_true, bne_iff_ne]
  refine ⟨⟨?_, ?_⟩, ?_⟩ <;> (rintro rfl; exact absurd h (by decide))

theorem isKept_of_not_isBlank {c : Char} (h : Text.isBlank c = false) : isKept c = true := by
  have hne {d : Char} (hd : Text.isBlank d = true) : c ≠ d := by
    rintro rfl
    exact Bool.noConfusion (h.symm.trans hd)
  simp only [isKept, Bool.and_eq_true, bne_iff_ne]
  exact ⟨⟨hne (by decide), hne (by decide)⟩, hne (by decide)⟩

theorem getLast?_cleaned {core : List Char} (hcore : Text.IsTrimmed core) :
    ∀ c ∈ (cleaned core).getLast?, Text.isBlank c = false := by
  intro c hc
  rw [cleaned_eq] at hc
  rcases List.eq_nil_or_concat (core.dropWhile fun c => c.toNat ≤ 0x20) with hempty | ⟨r, d, hr⟩
  · rw [hempty] at hc
    cases hc
  · rw [List.concat_eq_append] at hr
    have hd : Text.isBlank d = false := by
      obtain ⟨front, hfront⟩ := List.dropWhile_suffix (l := core) fun c => c.toNat ≤ 0x20
      apply hcore.2 d
      rw [← hfront, hr, ← List.append_assoc, List.getLast?_concat]
      rfl
    rw [hr, List.filter_append, List.filter_cons_of_pos (isKept_of_not_isBlank hd), List.filter_nil,
      List.getLast?_concat] at hc
    exact Option.some.inj hc ▸ hd

/-- The text of a URL with blanks around it is that of the URL, with blanks behind it. -/
theorem exists_cleaned_eq {before core behind : List Char} (hbefore : ∀ c ∈ before, Text.isBlank c = true)
    (hbehind : ∀ c ∈ behind, Text.isBlank c = true)
    (hcut : IsCut (cleaned (before ++ (core ++ behind))) scheme authority rest) :
    ∃ blanks, cleaned (before ++ (core ++ behind)) = cleaned core ++ blanks ∧
      ∀ c ∈ blanks, Text.isBlank c = true := by
  have hcolon : ':' ∈ cleaned (before ++ (core ++ behind)) := by simp [hcut.eq]
  cases hfront : before.dropWhile fun c => c.toNat ≤ 0x20 with
  | cons c front =>
    -- A blank that is not dropped starts the text, and no scheme starts with it.
    have hfar : ¬ c.toNat ≤ 0x20 := by
      have hstop := List.head?_dropWhile_not (fun c : Char => c.toNat ≤ 0x20) before
      rw [hfront] at hstop
      exact of_decide_eq_false hstop
    have hblank : Text.isBlank c = true := by
      apply hbefore
      exact (List.dropWhile_suffix _).subset (hfront ▸ List.mem_cons_self)
    have hstart : (cleaned (before ++ (core ++ behind))).head? = some c := by
      rw [cleaned_eq, List.dropWhile_append, hfront, List.isEmpty_cons, if_neg Bool.false_ne_true, List.cons_append,
        List.filter_cons_of_pos (isKept_of_lt (Nat.lt_of_not_le hfar)), List.head?_cons]
    obtain ⟨d, name, rfl, hd, -⟩ := hcut.isScheme
    rw [hcut.eq, List.cons_append, List.head?_cons] at hstart
    obtain rfl := Option.some.inj hstart
    have hletter := bounds_of_isSchemeStart hd
    have hbounds := Text.toNat_of_isBlank hblank
    omega
  | nil =>
    have hdrop : (before ++ (core ++ behind)).dropWhile (fun c => c.toNat ≤ 0x20) =
        (core ++ behind).dropWhile fun c => c.toNat ≤ 0x20 := by
      rw [List.dropWhile_append, hfront, List.isEmpty_nil, if_pos rfl]
    cases hmid : core.dropWhile fun c => c.toNat ≤ 0x20 with
    | nil =>
      -- Nothing would be left of the text but blanks.
      rw [cleaned_eq, hdrop, List.dropWhile_append, hmid, List.isEmpty_nil, if_pos rfl] at hcolon
      have hmem : ':' ∈ behind := (List.dropWhile_suffix _).subset (List.mem_filter.mp hcolon).1
      cases hbehind ':' hmem
    | cons c r =>
      refine ⟨behind.filter isKept, ?_, fun c hc => hbehind c (List.mem_filter.mp hc).1⟩
      rw [cleaned_eq, cleaned_eq, hdrop, List.dropWhile_append, hmid, List.isEmpty_cons,
        if_neg Bool.false_ne_true, List.filter_append]

theorem countP_cleaned {p : Char → Bool} (hp : ∀ c, p c = true → 0x20 < c.toNat) (cs : List Char) :
    (cleaned cs).countP p = cs.countP p := by
  have hfront : (cs.takeWhile fun c => c.toNat ≤ 0x20).countP p = 0 := by
    rw [List.countP_eq_zero]
    intro c hc hpc
    have hfar := hp c hpc
    have hlow : decide (c.toNat ≤ 0x20) = true := List.mem_takeWhile_imp (p := fun c : Char => c.toNat ≤ 0x20) hc
    have hnear := of_decide_eq_true hlow
    omega
  have hwhole := congrArg (List.countP p) (List.takeWhile_append_dropWhile (l := cs) (p := fun c => c.toNat ≤ 0x20))
  rw [List.countP_append, hfront, Nat.zero_add] at hwhole
  rw [cleaned_eq, List.countP_filter, ← hwhole]
  refine List.countP_congr fun c _ => ?_
  rw [Bool.and_eq_true]
  exact and_iff_left_of_imp fun hc => isKept_of_lt (hp c hc)

theorem mem_cleaned_iff {c : Char} (hc : 0x20 < c.toNat) {cs : List Char} : c ∈ cleaned cs ↔ c ∈ cs := by
  have hcount := countP_cleaned (p := (· == c)) (fun d hd => beq_iff_eq.mp hd ▸ hc) cs
  rw [← List.count_pos_iff, ← List.count_pos_iff]
  exact iff_of_eq (congrArg (0 < ·) hcount)

section Blanks

variable {blanks : List Char} {hp : HostPort}

theorem queryIn_isInfix (rest : List Char) : queryIn rest <:+: rest := by
  have hfront : (Text.cutFirst '#' rest).1 <+: rest := by
    cases hcut : Text.cutFirst '#' rest with
    | mk front fragment =>
      cases fragment with
      | none =>
        obtain ⟨rfl, -⟩ := Text.cutFirst_eq_none_iff.mp hcut
        exact List.prefix_refl rest
      | some r =>
        obtain ⟨rfl, -⟩ := Text.cutFirst_eq_some_iff.mp hcut
        exact List.prefix_append front ('#' :: r)
  unfold queryIn
  cases hcut : Text.cutFirst '?' (Text.cutFirst '#' rest).1 with
  | mk path query =>
    cases query with
    | none => exact List.nil_infix
    | some query =>
      have hquery : query <:+ (Text.cutFirst '#' rest).1 :=
        ⟨path ++ ['?'], by simp [(Text.cutFirst_eq_some_iff.mp hcut).1]⟩
      exact hquery.isInfix.trans hfront.isInfix

/-- Blanks behind a URL are those of its query, unless there is a fragment behind it or no query at all. -/
theorem queryIn_append (hblanks : ∀ c ∈ blanks, Text.isBlank c = true) (rest : List Char) :
    queryIn (rest ++ blanks) = queryIn rest ∧ ('#' ∉ rest → queryIn rest = []) ∨
      '#' ∉ rest ∧ queryIn (rest ++ blanks) = queryIn rest ++ blanks ∧ queryIn rest <:+ rest := by
  unfold queryIn
  by_cases hfragment : '#' ∈ rest
  · obtain ⟨before, r, rfl, hbefore⟩ := List.eq_append_cons_of_mem hfragment
    rw [List.append_assoc, List.cons_append, Text.cutFirst_append_cons hbefore, Text.cutFirst_append_cons hbefore]
    exact .inl ⟨rfl, fun hnone => absurd hfragment hnone⟩
  · have hmore : '#' ∉ rest ++ blanks := fun hmem =>
      (List.mem_append.mp hmem).elim hfragment (Text.not_mem_of_isBlank hblanks (by decide))
    rw [Text.cutFirst_of_not_mem hfragment, Text.cutFirst_of_not_mem hmore]
    dsimp only
    by_cases hquery : '?' ∈ rest
    · obtain ⟨before, r, rfl, hbefore⟩ := List.eq_append_cons_of_mem hquery
      rw [List.append_assoc, List.cons_append, Text.cutFirst_append_cons hbefore, Text.cutFirst_append_cons hbefore]
      exact .inr ⟨hfragment, rfl, before ++ ['?'], by simp⟩
    · have hmore : '?' ∉ rest ++ blanks := fun hmem =>
        (List.mem_append.mp hmem).elim hquery (Text.not_mem_of_isBlank hblanks (by decide))
      rw [Text.cutFirst_of_not_mem hquery, Text.cutFirst_of_not_mem hmore]
      exact .inl ⟨rfl, fun _ => rfl⟩

/-- Blanks behind a text that does not end in one: the query ends in them, or else it does not end in a blank, unless a
fragment is behind it. -/
theorem IsCut.queryIn_append (h : IsCut cs scheme authority rest)
    (hlast : ∀ c ∈ cs.getLast?, Text.isBlank c = false) (hblanks : ∀ c ∈ blanks, Text.isBlank c = true) :
    queryIn (rest ++ blanks) = queryIn rest ∧
        ('#' ∈ cs ++ blanks ∨ ∀ c ∈ (queryIn rest).getLast?, Text.isBlank c = false) ∨
      '#' ∉ cs ++ blanks ∧ blanks ≠ [] ∧ queryIn (rest ++ blanks) = queryIn rest ++ blanks := by
  rcases Url.queryIn_append hblanks rest with ⟨hquery, hnone⟩ | ⟨hfree, hquery, hsuffix⟩
  · refine .inl ⟨hquery, ?_⟩
    by_cases hfragment : '#' ∈ rest
    · exact .inl (List.mem_append_left blanks (h.suffix.subset hfragment))
    · rw [hnone hfragment]
      exact .inr nofun
  · by_cases hempty : blanks = []
    · rw [hempty, List.append_nil]
      refine .inl ⟨rfl, .inr fun c hc => hlast c ?_⟩
      obtain ⟨front, hfront⟩ := hsuffix.trans h.suffix
      rw [← hfront, List.getLast?_append, Option.mem_def.mp hc]
      rfl
    · refine .inr ⟨?_, hempty, hquery⟩
      rw [List.mem_append, h.hash_mem_iff]
      exact not_or.mpr ⟨hfree, Text.not_mem_of_isBlank hblanks (by decide)⟩

theorem isBlank_of_endsAuthority {c : Char} (h : endsAuthority c = true) : Text.isBlank c = false := by
  simp only [endsAuthority, Bool.or_eq_true, beq_iff_eq] at h
  rcases h with (rfl | rfl) | rfl <;> decide

/-- Blanks behind a URL are those of its last part: of the authority, if nothing stands behind that. -/
theorem IsCut.of_append (hblanks : ∀ c ∈ blanks, Text.isBlank c = true)
    (h : IsCut (cs ++ blanks) scheme authority rest) (hsplit : HostPort.split (String.ofList authority) = .ok hp) :
    (rest = [] ∧ ∃ a, authority = a ++ blanks ∧ IsCut cs scheme a []) ∨
      ∃ r, rest = r ++ blanks ∧ r ≠ [] ∧ IsCut cs scheme authority r := by
  have heq : cs ++ blanks = scheme ++ [':', '/', '/'] ++ (authority ++ rest) := by simp [h.eq]
  rcases List.append_eq_append_iff.mp heq with ⟨m, -, hm⟩ | ⟨m, rfl, hm⟩
  · obtain ⟨front, port, hauthority, -⟩ := exists_port hsplit
    have hcolon : ':' ∈ blanks := by simp [hm, hauthority]
    cases hblanks ':' hcolon
  · cases rest with
    | nil =>
      rw [List.append_nil] at hm
      have htrim : HostPort.split (String.ofList m) = .ok hp := by
        apply HostPort.split_of_trim_eq hsplit
        rw [String.toList_ofList, String.toList_ofList, hm, Text.trim_append_of_blank hblanks]
      refine .inl ⟨rfl, m, hm, by simp, h.isScheme, fun c hc => h.goesOn c (hm ▸ List.mem_append_left _ hc), nofun, ?_⟩
      exact checkAuthority_of_append_blanks htrim hblanks (hm ▸ h.checked)
    | cons c rest =>
      have hc : c ∉ blanks := Text.not_mem_of_isBlank hblanks (isBlank_of_endsAuthority (h.ends c rfl))
      rcases List.append_eq_append_iff.mp hm with ⟨r, rfl, hr⟩ | ⟨r, -, hr⟩
      · rcases List.cons_eq_append_iff.mp hr with ⟨rfl, hr⟩ | ⟨r', rfl, hr'⟩
        · rw [List.nil_append] at hr
          exact absurd (hr ▸ List.mem_cons_self) hc
        · refine .inr ⟨c :: r', hr, List.cons_ne_nil c r', by simp, h.isScheme, h.goesOn, ?_, h.checked⟩
          exact fun d hd => h.ends d hd
      · exact absurd (hr ▸ List.mem_append_right r List.mem_cons_self) hc

end Blanks

end CertInventory.Url
