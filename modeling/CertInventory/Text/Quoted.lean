import CertInventory.Text.PrintableTable
import CertInventory.Text.Case
import CertInventory.Text.Cut
import CertInventory.Text.Digit

/-!
The quoted form of text inside messages: single quotes, or double ones where the text holds a single quote and no
double one. The quote in use and the backslash are escaped, and so is all that is not printable.
-/

namespace CertInventory.Text

def isPrintable (c : Char) : Bool :=
  if 0x20 ≤ c.toNat ∧ c.toNat < 0x7F then true else !inRanges unprintableRanges c.toNat

def hexField : Nat → Nat → List Char
  | 0, _ => []
  | width + 1, n => hexField width (n / 16) ++ [hexChar (n % 16)]

def codeEscape (n : Nat) : List Char :=
  if n < 0x100 then '\\' :: 'x' :: hexField 2 n
  else if n < 0x10000 then '\\' :: 'u' :: hexField 4 n
  else '\\' :: 'U' :: hexField 8 n

def quoteChar (q c : Char) : List Char :=
  if c = q ∨ c = '\\' then ['\\', c]
  else if c = '\n' then ['\\', 'n']
  else if c = '\r' then ['\\', 'r']
  else if c = '\t' then ['\\', 't']
  else if isPrintable c then [c]
  else codeEscape c.toNat

def quoteFor (cs : List Char) : Char :=
  if cs.contains '\'' && !cs.contains '"' then '"' else '\''

def quotedChars (cs : List Char) : List Char :=
  let q := quoteFor cs
  q :: cs.flatMap (quoteChar q) ++ [q]

def quoted (s : String) : String := String.ofList (quotedChars s.toList)

/-- Whether a character stands in no quotes and in no escape: a capital letter other than `U`, or a sign behind the
capital letters other than the backslash. -/
def isPlain (c : Char) : Bool := 0x41 ≤ c.toNat && c.toNat < 0x61 && c != 'U' && c != '\\'

theorem isPlain_eq_false {c : Char} (h : c.toNat < 0x3A ∨ 0x61 ≤ c.toNat) : isPlain c = false := by
  have hrange : ¬ (0x41 ≤ c.toNat ∧ c.toNat < 0x61) := by omega
  simp only [isPlain, ← Bool.decide_and, decide_eq_false hrange, Bool.false_and]

theorem isPlain_of_mem_hexField {width n : Nat} {c : Char} (h : c ∈ hexField width n) : isPlain c = false := by
  induction width generalizing n with
  | zero => simp [hexField] at h
  | succ width ih =>
    rcases List.mem_append.mp h with h | h
    · exact ih h
    · rw [List.mem_singleton.mp h]
      exact isPlain_eq_false (toNat_hexChar _)

theorem codeEscape_ne_nil (n : Nat) : codeEscape n ≠ [] := by
  unfold codeEscape
  split
  · exact List.cons_ne_nil _ _
  · split <;> exact List.cons_ne_nil _ _

theorem isPlain_of_mem_codeEscape {n : Nat} {c : Char} (h : c ∈ codeEscape n) : isPlain c = false := by
  have hfield {letter : Char} {width : Nat} (hletter : isPlain letter = false)
      (hc : c ∈ '\\' :: letter :: hexField width n) : isPlain c = false := by
    rcases List.mem_cons.mp hc with rfl | hc
    · rfl
    rcases List.mem_cons.mp hc with rfl | hc
    · exact hletter
    · exact isPlain_of_mem_hexField hc
  unfold codeEscape at h
  split at h
  · exact hfield rfl h
  split at h
  · exact hfield rfl h
  · exact hfield rfl h

theorem isPlain_quoteFor (cs : List Char) : isPlain (quoteFor cs) = false := by
  unfold quoteFor
  split <;> rfl

/-- A character stands for itself between quotes, or an escape that holds no plain character stands for it. -/
theorem quoteChar_cases {q : Char} (hq : isPlain q = false) (c : Char) :
    quoteChar q c = [c] ∨ quoteChar q c ≠ [] ∧ ∀ d ∈ quoteChar q c, isPlain d = false := by
  have hpair {d e : Char} (hd : isPlain d = false) (he : isPlain e = false) :
      [d, e] ≠ [] ∧ ∀ x ∈ [d, e], isPlain x = false := by
    refine ⟨List.cons_ne_nil _ _, fun x hx => ?_⟩
    simp only [List.mem_cons, List.not_mem_nil, or_false] at hx
    rcases hx with rfl | rfl <;> assumption
  unfold quoteChar
  split
  · rename_i h
    refine .inr (hpair rfl ?_)
    rcases h with rfl | rfl
    · exact hq
    · rfl
  split
  · exact .inr (hpair rfl rfl)
  split
  · exact .inr (hpair rfl rfl)
  split
  · exact .inr (hpair rfl rfl)
  split
  · exact .inl rfl
  · exact .inr ⟨codeEscape_ne_nil _, fun d hd => isPlain_of_mem_codeEscape hd⟩

/-- Quoting a text brings no part of plain characters into it. -/
theorem isInfix_of_isInfix_quotedChars {part cs : List Char} (hne : part ≠ []) (hplain : ∀ d ∈ part, isPlain d = true)
    (h : part <:+: quotedChars cs) : part <:+: cs := by
  have hforeign {d : Char} (hd : isPlain d = false) : d ∉ part := fun hmem => by simp [hplain d hmem] at hd
  have hquote := isPlain_quoteFor cs
  rw [quotedChars, List.cons_append, ← List.nil_append (quoteFor cs :: _), isInfix_append_cons (hforeign hquote),
    isInfix_append_cons (hforeign hquote), List.infix_nil] at h
  refine isInfix_of_isInfix_flatMap hne (fun c => ?_) (by simpa [hne] using h)
  exact (quoteChar_cases hquote c).imp_right (And.imp_right fun hc d hd => hforeign (hc d hd))

def charOfCode? (n : Nat) : Option Char := if n.isValidChar then some (Char.ofNat n) else none

def quotedCodes (codes : List Nat) : String :=
  let q := quoteFor (codes.filterMap charOfCode?)
  let one (n : Nat) : List Char :=
    match charOfCode? n with
    | some c => quoteChar q c
    | none => codeEscape n
  String.ofList (q :: codes.flatMap one ++ [q])

/-- Bytes between quotes behind the letter `b`: printable ASCII as it is, other bytes by two hexadecimal digits. -/
def quotedBytes (bs : List UInt8) : String :=
  let q := quoteFor (bs.map fun b => Char.ofNat b.toNat)
  let one (b : UInt8) : List Char :=
    if b.toNat < 0x7F then quoteChar q (Char.ofNat b.toNat) else '\\' :: 'x' :: hexField 2 b.toNat
  String.ofList ('b' :: q :: bs.flatMap one ++ [q])

end CertInventory.Text
