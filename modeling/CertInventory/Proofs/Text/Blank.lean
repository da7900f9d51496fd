import CertInventory.Text.Blank
import Mathlib.Data.List.TakeWhile

/-!
Trimmed text. What trimming leaves is the one part of a text that has no blank at either end and nothing but blanks
around it (`trim_eq_iff`).
-/

namespace CertInventory.Text

variable {α : Type} {p : α → Bool} {l core rest : List α}

theorem dropWhile_eq_iff : l.dropWhile p = rest ↔
    ∃ head, l = head ++ rest ∧ (∀ c ∈ head, p c = true) ∧ ∀ c ∈ rest.head?, p c = false := by
  constructor
  · rintro rfl
    refine ⟨l.takeWhile p, List.takeWhile_append_dropWhile.symm, fun c hc => List.mem_takeWhile_imp hc, ?_⟩
    intro c hc
    have hstop := List.head?_dropWhile_not p l
    rw [Option.mem_def.mp hc] at hstop
    exact hstop
  · rintro ⟨head, rfl, hhead, hrest⟩
    rw [List.dropWhile_append_of_pos hhead]
    cases rest with
    | nil => rfl
    | cons c r => rw [List.dropWhile_cons_of_neg (Bool.eq_false_iff.mp (hrest c rfl))]

theorem dropEndWhile_eq_iff : dropEndWhile p l = core ↔
    ∃ tail, l = core ++ tail ∧ (∀ c ∈ tail, p c = true) ∧ ∀ c ∈ core.getLast?, p c = false := by
  rw [dropEndWhile, List.reverse_eq_iff, dropWhile_eq_iff, List.head?_reverse]
  constructor
  · rintro ⟨head, hl, hhead, hcore⟩
    refine ⟨head.reverse, ?_, fun c hc => hhead c (List.mem_reverse.mp hc), hcore⟩
    rw [← List.reverse_reverse l, hl, List.reverse_append, List.reverse_reverse]
  · rintro ⟨tail, rfl, htail, hcore⟩
    exact ⟨tail.reverse, List.reverse_append, fun c hc => htail c (List.mem_reverse.mp hc), hcore⟩

/-- A list without such members loses none at its ends. -/
theorem dropEndWhile_dropWhile_eq_self (h : ∀ c ∈ l, p c = false) : dropEndWhile p (l.dropWhile p) = l := by
  have hfront : l.dropWhile p = l := dropWhile_eq_iff.mpr ⟨[], rfl, nofun, fun c hc => h c (List.mem_of_mem_head? hc)⟩
  rw [hfront]
  exact dropEndWhile_eq_iff.mpr ⟨[], (List.append_nil l).symm, nofun, fun c hc => h c (List.mem_of_mem_getLast? hc)⟩

/-- Text without a blank at either end. -/
def IsTrimmed (cs : List Char) : Prop :=
  (∀ c ∈ cs.head?, isBlank c = false) ∧ ∀ c ∈ cs.getLast?, isBlank c = false

theorem trim_eq_iff {cs core : List Char} : trim cs = core ↔
    ∃ before behind, cs = before ++ (core ++ behind) ∧ (∀ c ∈ before, isBlank c = true) ∧
      (∀ c ∈ behind, isBlank c = true) ∧ IsTrimmed core := by
  rw [trim, dropEndWhile_eq_iff]
  constructor
  · rintro ⟨behind, hmid, hbehind, hlast⟩
    obtain ⟨before, hcs, hbefore, hfirst⟩ := dropWhile_eq_iff.mp hmid
    refine ⟨before, behind, hcs, hbefore, hbehind, ?_, hlast⟩
    intro c hc
    apply hfirst c
    rw [List.head?_append, Option.mem_def.mp hc]
    rfl
  · rintro ⟨before, behind, rfl, hbefore, hbehind, hfirst, hlast⟩
    cases core with
    | nil =>
      -- Of blanks alone nothing is left, neither in front nor behind.
      refine ⟨[], ?_, nofun, nofun⟩
      rw [List.dropWhile_append_of_pos hbefore]
      exact List.dropWhile_eq_nil_iff.mpr hbehind
    | cons c r =>
      refine ⟨behind, dropWhile_eq_iff.mpr ⟨before, rfl, hbefore, ?_⟩, hbehind, hlast⟩
      rintro d ⟨⟩
      exact hfirst c rfl

theorem toNat_of_isBlank {c : Char} (h : isBlank c = true) : c.toNat ≤ 0x20 ∨ 0x85 ≤ c.toNat := by
  simp only [isBlank, isWhiteSpace, Bool.or_eq_true, Bool.and_eq_true, decide_eq_true_eq, beq_iff_eq] at h
  omega

theorem exists_trim (cs : List Char) : ∃ before behind, cs = before ++ (trim cs ++ behind) ∧
    (∀ c ∈ before, isBlank c = true) ∧ (∀ c ∈ behind, isBlank c = true) ∧ IsTrimmed (trim cs) :=
  trim_eq_iff.mp rfl

theorem trim_append_of_blank {cs behind : List Char} (h : ∀ c ∈ behind, isBlank c = true) :
    trim (cs ++ behind) = trim cs := by
  obtain ⟨before, after, hcs, hbefore, hafter, htrimmed⟩ := exists_trim cs
  refine trim_eq_iff.mpr ⟨before, after ++ behind, ?_, hbefore, List.forall_mem_append.mpr ⟨hafter, h⟩, htrimmed⟩
  rw [← List.append_assoc (trim cs), ← List.append_assoc before, ← hcs]

theorem not_mem_of_isBlank {behind : List Char} (hbehind : ∀ c ∈ behind, isBlank c = true) {d : Char}
    (hd : isBlank d = false) : d ∉ behind :=
  fun hmem => Bool.noConfusion ((hbehind d hmem).symm.trans hd)

theorem countP_trim {p : Char → Bool} (hp : ∀ c, isBlank c = true → p c = false) (cs : List Char) :
    (trim cs).countP p = cs.countP p := by
  obtain ⟨before, behind, hcs, hbefore, hbehind, -⟩ := exists_trim cs
  have hnone {l : List Char} (hl : ∀ c ∈ l, isBlank c = true) : l.countP p = 0 :=
    List.countP_eq_zero.mpr fun c hc => Bool.eq_false_iff.mp (hp c (hl c hc))
  have hcount := congrArg (List.countP p) hcs
  rw [List.countP_append, List.countP_append, hnone hbefore, hnone hbehind] at hcount
  omega

end CertInventory.Text
