import CertInventory.Text.Cut

/-!
Where a mark starts in a list. `startsIn` counts the places, those included where the mark goes on into what stands
behind the list; `cutAt?` cuts at the first of them. A cut at one separator takes what stands on its two sides, and the
pieces between all separators tell the whole list.
-/

namespace CertInventory.Text

/-- A nonempty part that shares nothing with the text behind stands in front of it. -/
theorem isInfix_append_of_disjoint_right {α : Type} {part r : List α} (hpart : part ≠ []) (hr : ∀ d ∈ r, d ∉ part)
    (l : List α) : part <:+: l ++ r ↔ part <:+: l := by
  rw [← List.reverse_infix, List.reverse_append, isInfix_append_of_disjoint, List.reverse_infix]
  · exact mt List.reverse_eq_nil_iff.mp hpart
  · exact fun d hd hmem => hr d (List.mem_reverse.mp hd) (List.mem_reverse.mp hmem)

theorem takeWhile_append_cons {α : Type} {p : α → Bool} {d : α} (hd : p d = false) (l m : List α) :
    (l ++ d :: m).takeWhile p = l.takeWhile p ∧ (l ++ d :: m).dropWhile p = l.dropWhile p ++ d :: m := by
  induction l with
  | nil =>
    rw [List.nil_append, List.takeWhile_cons_of_neg (Bool.eq_false_iff.mp hd),
      List.dropWhile_cons_of_neg (Bool.eq_false_iff.mp hd)]
    exact ⟨rfl, rfl⟩
  | cons c l ih =>
    rw [List.cons_append, List.takeWhile_cons, List.takeWhile_cons, List.dropWhile_cons, List.dropWhile_cons, ih.1,
      ih.2]
    cases p c <;> exact ⟨rfl, rfl⟩

variable {α : Type} [DecidableEq α] {mark l m before behind rest : List α}

theorem dropHead?_append (mark rest : List α) : dropHead? mark (mark ++ rest) = some rest := by
  induction mark with
  | nil => rfl
  | cons a mark ih => rw [List.cons_append, dropHead?, if_pos rfl, ih]

theorem dropHead?_eq_none_iff : dropHead? mark l = none ↔ ¬ mark <+: l := by
  constructor
  · rintro h ⟨rest, rfl⟩
    rw [dropHead?_append] at h
    cases h
  · intro h
    cases hdrop : dropHead? mark l with
    | none => rfl
    | some rest => exact absurd ⟨rest, (eq_append_of_dropHead? hdrop).symm⟩ h

def startsIn (mark : List α) : List α → List α → Nat
  | [], _ => 0
  | c :: r, behind => (if mark <+: c :: (r ++ behind) then 1 else 0) + startsIn mark r behind

def occurrences (mark l : List α) : Nat := startsIn mark l []

theorem startsIn_append (mark l m behind : List α) :
    startsIn mark (l ++ m) behind = startsIn mark l (m ++ behind) + startsIn mark m behind := by
  induction l with
  | nil => rw [List.nil_append, startsIn, Nat.zero_add]
  | cons c l ih => rw [List.cons_append, startsIn, startsIn, ih, List.append_assoc, Nat.add_assoc]

theorem startsIn_cons_eq_zero_iff {c : α} :
    startsIn mark (c :: l) behind = 0 ↔ ¬ mark <+: c :: (l ++ behind) ∧ startsIn mark l behind = 0 := by
  rw [startsIn]
  by_cases h : mark <+: c :: (l ++ behind)
  · rw [if_pos h]
    exact iff_of_false (by omega) fun hnot => hnot.1 h
  · rw [if_neg h, Nat.zero_add]
    exact (and_iff_right h).symm

/-- A mark that starts nowhere in the list in front stands behind it. -/
theorem exists_of_startsIn_eq_zero (h : startsIn mark l behind = 0)
    (hsplit : l ++ behind = before ++ (mark ++ rest)) : ∃ m, before = l ++ m ∧ behind = m ++ (mark ++ rest) := by
  induction l generalizing before with
  | nil => exact ⟨before, rfl, hsplit⟩
  | cons c l ih =>
    obtain ⟨hhead, htail⟩ := startsIn_cons_eq_zero_iff.mp h
    cases before with
    | nil => exact absurd ⟨rest, hsplit.symm⟩ hhead
    | cons d before =>
      rw [List.cons_append, List.cons_append] at hsplit
      obtain ⟨rfl, hrest⟩ := List.cons.inj hsplit
      obtain ⟨m, rfl, hbehind⟩ := ih htail hrest
      exact ⟨m, rfl, hbehind⟩

theorem ne_append_of_occurrences_eq_zero (hmark : mark ≠ []) (h : occurrences mark l = 0) :
    l ≠ before ++ (mark ++ rest) := by
  intro hsplit
  obtain ⟨m, _, hm⟩ := exists_of_startsIn_eq_zero h ((List.append_nil l).trans hsplit)
  obtain ⟨_, hempty⟩ := List.append_eq_nil_iff.mp hm.symm
  exact hmark (List.append_eq_nil_iff.mp hempty).1

/-- Whether a mark starts in a list is seen from as much behind it as the mark is long. -/
theorem startsIn_append_right (h : mark.length ≤ behind.length + 1) (l rest : List α) :
    startsIn mark l (behind ++ rest) = startsIn mark l behind := by
  induction l with
  | nil => rfl
  | cons c l ih =>
    have hprefix : mark <+: c :: (l ++ (behind ++ rest)) ↔ mark <+: c :: (l ++ behind) := by
      rw [← List.append_assoc, ← List.cons_append]
      constructor
      · intro hlong
        apply List.prefix_of_prefix_length_le hlong (List.prefix_append _ rest)
        rw [List.length_cons, List.length_append]
        omega
      · exact fun hshort => hshort.trans (List.prefix_append _ rest)
    simp only [startsIn, hprefix, ih]

theorem cutAt?_append (h : startsIn mark l m = 0) :
    cutAt? mark (l ++ m) = (cutAt? mark m).map fun cut => (l ++ cut.1, cut.2) := by
  induction l with
  | nil =>
    rw [List.nil_append]
    cases cutAt? mark m <;> rfl
  | cons c l ih =>
    obtain ⟨hhead, htail⟩ := startsIn_cons_eq_zero_iff.mp h
    rw [List.cons_append, cutAt?, dropHead?_eq_none_iff.mpr hhead, ih htail]
    cases cutAt? mark m <;> rfl

theorem cutAt?_mark_append (hmark : mark ≠ []) (rest : List α) : cutAt? mark (mark ++ rest) = some ([], rest) := by
  obtain ⟨a, r, rfl⟩ := List.exists_cons_of_ne_nil hmark
  have hdrop := dropHead?_append (a :: r) rest
  rw [List.cons_append] at hdrop ⊢
  rw [cutAt?, hdrop]

theorem cutAt?_eq_some_iff (hmark : mark ≠ []) :
    cutAt? mark l = some (before, behind) ↔
      l = before ++ (mark ++ behind) ∧ startsIn mark before (mark ++ behind) = 0 := by
  constructor
  · intro h
    induction l generalizing before with
    | nil =>
      rw [cutAt?, if_neg (by simpa using hmark)] at h
      cases h
    | cons c r ih =>
      rw [cutAt?] at h
      cases hdrop : dropHead? mark (c :: r) with
      | some rest =>
        rw [hdrop] at h
        obtain ⟨rfl, rfl⟩ := Prod.mk.inj (Option.some.inj h)
        rw [List.nil_append]
        exact ⟨eq_append_of_dropHead? hdrop, rfl⟩
      | none =>
        rw [hdrop] at h
        cases hcut : cutAt? mark r with
        | none =>
          rw [hcut] at h
          cases h
        | some cut =>
          rw [hcut] at h
          cases h
          obtain ⟨hr, hstarts⟩ := ih hcut
          refine ⟨congrArg (c :: ·) hr, startsIn_cons_eq_zero_iff.mpr ⟨?_, hstarts⟩⟩
          rw [← hr]
          exact dropHead?_eq_none_iff.mp hdrop
  · rintro ⟨rfl, h⟩
    rw [cutAt?_append h, cutAt?_mark_append hmark, Option.map_some, List.append_nil]

theorem cutAt?_eq_none_iff (hmark : mark ≠ []) : cutAt? mark l = none ↔ occurrences mark l = 0 := by
  unfold occurrences
  induction l with
  | nil =>
    rw [cutAt?, if_neg (by simpa using hmark)]
    exact iff_of_true rfl rfl
  | cons c r ih =>
    rw [startsIn_cons_eq_zero_iff, ← ih, List.append_nil, ← dropHead?_eq_none_iff, cutAt?]
    cases dropHead? mark (c :: r) with
    | some rest => simp
    | none => cases cutAt? mark r <;> simp

variable {sep : α}

theorem cutFirst_of_not_mem (h : sep ∉ l) : cutFirst sep l = (l, none) := by
  induction l with
  | nil => rfl
  | cons c l ih =>
    obtain ⟨hc, hl⟩ := List.ne_and_not_mem_of_not_mem_cons h
    rw [cutFirst, if_neg (Ne.symm hc), ih hl]

theorem cutFirst_append_cons (h : sep ∉ l) (r : List α) : cutFirst sep (l ++ sep :: r) = (l, some r) := by
  induction l with
  | nil => rw [List.nil_append, cutFirst, if_pos rfl]
  | cons c l ih =>
    obtain ⟨hc, hl⟩ := List.ne_and_not_mem_of_not_mem_cons h
    rw [List.cons_append, cutFirst, if_neg (Ne.symm hc), ih hl]

theorem cutLast?_append_cons {r : List α} (h : sep ∉ r) (l : List α) :
    cutLast? sep (l ++ sep :: r) = some (l, r) := by
  have hreverse : (l ++ sep :: r).reverse = r.reverse ++ sep :: l.reverse := by
    rw [List.reverse_append, List.reverse_cons, List.append_assoc, List.singleton_append]
  rw [cutLast?, hreverse, cutFirst_append_cons (mt List.mem_reverse.mp h)]
  simp only [List.reverse_reverse]

theorem fst_cutFirst_append_cons (sep : α) (l r : List α) :
    (cutFirst sep (l ++ sep :: r)).1 = (cutFirst sep l).1 := by
  by_cases h : sep ∈ l
  · obtain ⟨before, rest, rfl, hbefore⟩ := List.eq_append_cons_of_mem h
    rw [List.append_assoc, List.cons_append, cutFirst_append_cons hbefore, cutFirst_append_cons hbefore]
  · rw [cutFirst_append_cons h, cutFirst_of_not_mem h]

theorem cutFirst_eq_some_iff : cutFirst sep l = (before, some rest) ↔ l = before ++ sep :: rest ∧ sep ∉ before := by
  constructor
  · intro h
    by_cases hsep : sep ∈ l
    · obtain ⟨front, r, rfl, hfront⟩ := List.eq_append_cons_of_mem hsep
      rw [cutFirst_append_cons hfront] at h
      cases h
      exact ⟨rfl, hfront⟩
    · rw [cutFirst_of_not_mem hsep] at h
      cases h
  · rintro ⟨rfl, hbefore⟩
    exact cutFirst_append_cons hbefore rest

theorem cutFirst_eq_none_iff : cutFirst sep l = (before, none) ↔ l = before ∧ sep ∉ l := by
  constructor
  · intro h
    by_cases hsep : sep ∈ l
    · obtain ⟨front, r, rfl, hfront⟩ := List.eq_append_cons_of_mem hsep
      rw [cutFirst_append_cons hfront] at h
      cases h
    · rw [cutFirst_of_not_mem hsep] at h
      cases h
      exact ⟨rfl, hsep⟩
  · rintro ⟨rfl, hsep⟩
    exact cutFirst_of_not_mem hsep

theorem cutLast?_eq_some_iff : cutLast? sep l = some (before, rest) ↔ l = before ++ sep :: rest ∧ sep ∉ rest := by
  constructor
  · intro h
    unfold cutLast? at h
    split at h
    · rename_i after front hcut
      cases h
      obtain ⟨hl, hafter⟩ := cutFirst_eq_some_iff.mp hcut
      refine ⟨?_, mt List.mem_reverse.mp hafter⟩
      rw [← List.reverse_reverse l, hl]
      simp
    · cases h
  · rintro ⟨rfl, hrest⟩
    exact cutLast?_append_cons hrest before

theorem cutLast?_eq_none_iff : cutLast? sep l = none ↔ sep ∉ l := by
  constructor
  · intro h hsep
    obtain ⟨front, r, hl, hr⟩ : ∃ front r, l = front ++ sep :: r ∧ sep ∉ r := by
      obtain ⟨after, front, hreverse, hafter⟩ := List.eq_append_cons_of_mem (List.mem_reverse.mpr hsep)
      refine ⟨front.reverse, after.reverse, ?_, mt List.mem_reverse.mp hafter⟩
      rw [← List.reverse_reverse l, hreverse]
      simp
    rw [hl, cutLast?_append_cons hr] at h
    cases h
  · intro h
    rw [cutLast?, cutFirst_of_not_mem (mt List.mem_reverse.mp h)]

theorem splitAll_eq_splitOn (sep : α) (l : List α) : splitAll sep l = l.splitOn sep := by
  induction l with
  | nil => rw [List.splitOn_nil, splitAll]
  | cons c r ih =>
    rw [splitAll, List.splitOn_cons_eq_if_modifyHead, ih]
    by_cases hc : c = sep
    · rw [if_pos hc, if_pos (beq_iff_eq.mpr hc)]
    · rw [if_neg hc, if_neg (mt beq_iff_eq.mp hc)]
      cases hpieces : r.splitOn sep with
      | nil => exact absurd (ih.trans hpieces) (splitAll_ne_nil sep r)
      | cons p ps => rfl

theorem splitAll_of_not_mem (h : sep ∉ l) : splitAll sep l = [l] := by
  rw [splitAll_eq_splitOn, List.splitOn_eq_singleton h]

theorem splitAll_append_cons (h : sep ∉ l) (r : List α) : splitAll sep (l ++ sep :: r) = l :: splitAll sep r := by
  have hfree : ∀ c ∈ l, (c == sep) = false := fun c hc => beq_eq_false_iff_ne.mpr fun heq => h (heq ▸ hc)
  rw [splitAll_eq_splitOn, splitAll_eq_splitOn, List.splitOn, List.splitOn]
  exact List.splitOnP_append_cons_of_forall_mem hfree sep (beq_self_eq_true sep) r

theorem splitAll_inj : splitAll sep l = splitAll sep m ↔ l = m := by
  constructor
  · intro h
    rw [splitAll_eq_splitOn, splitAll_eq_splitOn] at h
    have hjoined := congrArg ([sep].intercalate ·) h
    rwa [List.intercalate_splitOn, List.intercalate_splitOn] at hjoined
  · rintro rfl
    rfl

/-- The first piece ends at the first separator, and the others are the pieces behind it. -/
theorem splitAll_eq_cons_iff {p : List α} {ps : List (List α)} : splitAll sep l = p :: ps ↔
    sep ∉ p ∧ (l = p ∧ ps = [] ∨ ∃ r, l = p ++ sep :: r ∧ ps = splitAll sep r) := by
  constructor
  · intro h
    by_cases hsep : sep ∈ l
    · obtain ⟨before, r, rfl, hbefore⟩ := List.eq_append_cons_of_mem hsep
      rw [splitAll_append_cons hbefore] at h
      cases h
      exact ⟨hbefore, .inr ⟨r, rfl, rfl⟩⟩
    · rw [splitAll_of_not_mem hsep] at h
      cases h
      exact ⟨hsep, .inl ⟨rfl, rfl⟩⟩
  · rintro ⟨hsep, ⟨rfl, rfl⟩ | ⟨r, rfl, rfl⟩⟩
    · exact splitAll_of_not_mem hsep
    · exact splitAll_append_cons hsep r

theorem mem_splitAll (sep : α) {c : α} (hc : c ∈ l) : c = sep ∨ ∃ p ∈ splitAll sep l, c ∈ p := by
  induction l with
  | nil => cases hc
  | cons d l ih =>
    rw [splitAll]
    by_cases hd : d = sep
    · rw [if_pos hd]
      rcases List.mem_cons.mp hc with rfl | hc
      · exact .inl hd
      · rcases ih hc with hsep | ⟨p, hp, hcp⟩
        · exact .inl hsep
        · exact .inr ⟨p, List.mem_cons_of_mem _ hp, hcp⟩
    · rw [if_neg hd]
      obtain ⟨first, rest, hpieces⟩ := List.exists_cons_of_ne_nil (splitAll_ne_nil sep l)
      rw [hpieces] at ih ⊢
      rcases List.mem_cons.mp hc with rfl | hc
      · exact .inr ⟨_, List.mem_cons_self, List.mem_cons_self⟩
      · rcases ih hc with hsep | ⟨p, hp, hcp⟩
        · exact .inl hsep
        · rcases List.mem_cons.mp hp with rfl | hp
          · exact .inr ⟨_, List.mem_cons_self, List.mem_cons_of_mem d hcp⟩
          · exact .inr ⟨p, List.mem_cons_of_mem _ hp, hcp⟩

theorem sublist_of_mem_splitAll {p : List α} (hp : p ∈ splitAll sep l) : p.Sublist l := by
  induction l generalizing p with
  | nil =>
    obtain rfl := List.mem_singleton.mp hp
    exact List.Sublist.refl []
  | cons d l ih =>
    rw [splitAll] at hp
    split at hp
    · rcases List.mem_cons.mp hp with rfl | hp
      · exact List.nil_sublist _
      · exact (ih hp).cons d
    · split at hp
      · rename_i hnil
        exact absurd hnil (splitAll_ne_nil sep l)
      · rename_i first rest hpieces
        rcases List.mem_cons.mp hp with rfl | hp
        · exact (ih (hpieces ▸ List.mem_cons_self)).cons_cons d
        · exact (ih (hpieces ▸ List.mem_cons_of_mem first hp)).cons d

/-- What stands behind a list and holds no separator goes on its last piece. -/
theorem exists_splitAll_append (l : List α) (h : sep ∉ behind) : ∃ earlier p,
    splitAll sep l = earlier ++ [p] ∧ splitAll sep (l ++ behind) = earlier ++ [p ++ behind] := by
  induction l with
  | nil => exact ⟨[], [], rfl, splitAll_of_not_mem h⟩
  | cons d l ih =>
    obtain ⟨earlier, p, hl, hbehind⟩ := ih
    rw [List.cons_append, splitAll, splitAll, hl, hbehind]
    by_cases hd : d = sep
    · rw [if_pos hd, if_pos hd]
      exact ⟨[] :: earlier, p, rfl, rfl⟩
    · rw [if_neg hd, if_neg hd]
      cases earlier with
      | nil => exact ⟨[], d :: p, rfl, rfl⟩
      | cons q earlier => exact ⟨(d :: q) :: earlier, p, rfl, rfl⟩

end CertInventory.Text
