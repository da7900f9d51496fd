/-!
Cutting lists at a separator. `splitAll` keeps empty pieces and never gives an empty answer; `cutFirst` and
`cutLast?` cut once.
-/

namespace CertInventory.Text

/-- The pieces of a list between the members equal to `sep`: always at least one. -/
def splitAll {α : Type} [DecidableEq α] (sep : α) : List α → List (List α)
  | [] => [[]]
  | c :: r =>
    if c = sep then [] :: splitAll sep r
    else match splitAll sep r with
      | [] => [[c]]
      | p :: ps => (c :: p) :: ps

theorem splitAll_ne_nil {α : Type} [DecidableEq α] (sep : α) (l : List α) : splitAll sep l ≠ [] := by
  cases l with
  | nil => simp [splitAll]
  | cons c r =>
    simp only [splitAll]
    split
    · simp
    · split <;> simp

/-- What stands before the first `sep`, and what stands behind it if there is one. -/
def cutFirst {α : Type} [DecidableEq α] (sep : α) : List α → List α × Option (List α)
  | [] => ([], none)
  | c :: r =>
    if c = sep then ([], some r)
    else
      let (before, after) := cutFirst sep r
      (c :: before, after)

/-- What stands before the last `sep` and what stands behind it, if there is one. -/
def cutLast? {α : Type} [DecidableEq α] (sep : α) (l : List α) : Option (List α × List α) :=
  match cutFirst sep l.reverse with
  | (after, some before) => some (before.reverse, after.reverse)
  | (_, none) => none

def dropHead? {α : Type} [DecidableEq α] : List α → List α → Option (List α)
  | [], l => some l
  | _ :: _, [] => none
  | a :: as, b :: bs => if a = b then dropHead? as bs else none

theorem length_of_dropHead? {α : Type} [DecidableEq α] {mark l rest : List α} (h : dropHead? mark l = some rest) :
    l.length = mark.length + rest.length := by
  induction mark generalizing l with
  | nil => simp_all [dropHead?]
  | cons a as ih =>
    cases l with
    | nil => simp [dropHead?] at h
    | cons b bs =>
      simp only [dropHead?] at h
      split at h
      · simp only [List.length_cons, ih h]
        omega
      · simp at h

theorem eq_append_of_dropHead? {α : Type} [DecidableEq α] {mark l rest : List α} (h : dropHead? mark l = some rest) :
    l = mark ++ rest := by
  induction mark generalizing l with
  | nil =>
    obtain rfl : l = rest := by simpa [dropHead?] using h
    rfl
  | cons a as ih =>
    cases l with
    | nil => simp [dropHead?] at h
    | cons b bs =>
      simp only [dropHead?] at h
      split at h
      · rename_i hab
        rw [hab, ih h, List.cons_append]
      · simp at h

/-- What stands before the first place where `mark` stands, and what stands behind it. -/
def cutAt? {α : Type} [DecidableEq α] (mark : List α) : List α → Option (List α × List α)
  | [] => if mark.isEmpty then some ([], []) else none
  | c :: r =>
    match dropHead? mark (c :: r) with
    | some behind => some ([], behind)
    | none =>
      match cutAt? mark r with
      | some (before, behind) => some (c :: before, behind)
      | none => none

theorem length_of_cutAt? {α : Type} [DecidableEq α] {mark l before behind : List α}
    (h : cutAt? mark l = some (before, behind)) : l.length = before.length + mark.length + behind.length := by
  induction l generalizing before with
  | nil =>
    simp only [cutAt?] at h
    split at h
    · simp_all
    · simp at h
  | cons c r ih =>
    simp only [cutAt?] at h
    split at h
    · rename_i rest hrest
      simp only [Option.some.injEq, Prod.mk.injEq] at h
      obtain ⟨rfl, rfl⟩ := h
      simpa using length_of_dropHead? hrest
    · split at h
      · rename_i b e hcut
        simp only [Option.some.injEq, Prod.mk.injEq] at h
        obtain ⟨rfl, rfl⟩ := h
        have := ih hcut
        simp only [List.length_cons]
        omega
      · simp at h

def contains {α : Type} [DecidableEq α] (part : List α) : List α → Bool
  | [] => part.isEmpty
  | c :: r => part.isPrefixOf (c :: r) || contains part r

theorem contains_iff_isInfix {α : Type} [DecidableEq α] {part l : List α} : contains part l = true ↔ part <:+: l := by
  induction l with
  | nil => simp [contains]
  | cons c r ih => simp [contains, List.infix_cons_iff, ih]

/-- A part that does not hold a separator stands on one side of it. -/
theorem isInfix_append_cons {α : Type} {part l r : List α} {sep : α} (hsep : sep ∉ part) :
    part <:+: l ++ sep :: r ↔ part <:+: l ∨ part <:+: r := by
  constructor
  · rintro ⟨before, behind, h⟩
    rw [List.append_assoc, List.append_eq_append_iff] at h
    rcases h with ⟨m, rfl, h⟩ | ⟨m, rfl, h⟩
    · rcases List.append_eq_append_iff.mp h with ⟨n, rfl, _⟩ | ⟨n, rfl, h⟩
      · exact .inl ⟨before, n, by simp⟩
      · cases n with
        | nil => exact .inl ⟨before, [], by simp⟩
        | cons d n =>
          obtain ⟨rfl, _⟩ : d = sep ∧ n ++ behind = r := by simpa using h
          simp at hsep
    · cases m with
      | nil =>
        cases part with
        | nil => exact .inl ⟨[], l, by simp⟩
        | cons d part =>
          obtain ⟨rfl, _⟩ : sep = d ∧ r = part ++ behind := by simpa using h
          simp at hsep
      | cons d m =>
        obtain ⟨rfl, rfl⟩ : sep = d ∧ r = m ++ (part ++ behind) := by simpa using h
        exact .inr ⟨m, behind, by simp⟩
  · rintro (⟨before, behind, rfl⟩ | ⟨before, behind, rfl⟩)
    · exact ⟨before, behind ++ sep :: r, by simp⟩
    · exact ⟨l ++ sep :: before, behind, by simp⟩

/-- A nonempty part that shares nothing with the text in front stands behind it. -/
theorem isInfix_append_of_disjoint {α : Type} {part l r : List α} (hpart : part ≠ []) (hl : ∀ d ∈ l, d ∉ part) :
    part <:+: l ++ r ↔ part <:+: r := by
  induction l with
  | nil => rfl
  | cons d l ih =>
    rw [List.cons_append, ← List.nil_append (d :: _), isInfix_append_cons (hl d List.mem_cons_self),
      ih fun e he => hl e (List.mem_cons_of_mem _ he), List.infix_nil]
    exact or_iff_right hpart

/-- Text in which some members are replaced by others that a part does not hold. -/
theorem isPrefix_of_isPrefix_flatMap {α : Type} {f : α → List α} {letters part l : List α}
    (hf : ∀ c, f c = [c] ∨ f c ≠ [] ∧ ∀ d ∈ f c, d ∉ letters) (hpart : part ⊆ letters)
    (h : part <+: l.flatMap f) : part <+: l := by
  induction l generalizing part with
  | nil => simpa using h
  | cons c l ih =>
    cases part with
    | nil => exact List.nil_prefix
    | cons d part =>
      rw [List.flatMap_cons] at h
      rcases hf c with hc | ⟨hne, hc⟩
      · rw [hc, List.singleton_append, List.cons_prefix_cons] at h
        exact List.cons_prefix_cons.mpr ⟨h.1, ih (List.subset_of_cons_subset hpart) h.2⟩
      · obtain ⟨e, r, her⟩ := List.exists_cons_of_ne_nil hne
        rw [her, List.cons_append, List.cons_prefix_cons] at h
        exact absurd (hpart List.mem_cons_self) (hc d (her ▸ h.1 ▸ List.mem_cons_self))

/-- A part of a text in which some members are replaced, by others that the part does not hold, is a part of the text
itself. -/
theorem isInfix_of_isInfix_flatMap {α : Type} {f : α → List α} {part l : List α} (hne : part ≠ [])
    (hf : ∀ c, f c = [c] ∨ f c ≠ [] ∧ ∀ d ∈ f c, d ∉ part) (h : part <:+: l.flatMap f) : part <:+: l := by
  induction l with
  | nil => simpa using h
  | cons c l ih =>
    rcases hf c with hc | ⟨_, hc⟩
    · rw [List.flatMap_cons, hc, List.singleton_append, List.infix_cons_iff] at h
      rcases h with h | h
      · have hwhole : part <+: (c :: l).flatMap f := by rwa [List.flatMap_cons, hc]
        exact (isPrefix_of_isPrefix_flatMap hf (List.Subset.refl part) hwhole).isInfix
      · exact (ih h).trans (List.infix_cons (List.infix_refl l))
    · rw [List.flatMap_cons, isInfix_append_of_disjoint hne hc] at h
      exact (ih h).trans (List.infix_cons (List.infix_refl l))

end CertInventory.Text
