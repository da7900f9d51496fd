/-!
Decimal digits of every script, and hexadecimal digits of the Latin script.
-/

namespace CertInventory.Text

def decimalZeros : List Nat := [
  0x30, 0x660, 0x6F0, 0x7C0, 0x966, 0x9E6, 0xA66, 0xAE6, 0xB66, 0xBE6, 0xC66, 0xCE6, 0xD66,
  0xDE6, 0xE50, 0xED0, 0xF20, 0x1040, 0x1090, 0x17E0, 0x1810, 0x1946, 0x19D0, 0x1A80, 0x1A90,
  0x1B50, 0x1BB0, 0x1C40, 0x1C50, 0xA620, 0xA8D0, 0xA900, 0xA9D0, 0xA9F0, 0xAA50, 0xABF0, 0xFF10,
  0x104A0, 0x10D30, 0x11066, 0x110F0, 0x11136, 0x111D0, 0x112F0, 0x11450, 0x114D0, 0x11650,
  0x116C0, 0x11730, 0x118E0, 0x11950, 0x11C50, 0x11D50, 0x11DA0, 0x16A60, 0x16AC0, 0x16B50,
  0x1D7CE, 0x1D7D8, 0x1D7E2, 0x1D7EC, 0x1D7F6, 0x1E140, 0x1E2F0, 0x1E950, 0x1FBF0]

def asciiDigit? (c : Char) : Option Nat :=
  if 0x30 ≤ c.toNat ∧ c.toNat ≤ 0x39 then some (c.toNat - 0x30) else none

def decimalDigit? (c : Char) : Option Nat :=
  if c.toNat < 0x80 then asciiDigit? c
  else (decimalZeros.find? fun z => z ≤ c.toNat && c.toNat < z + 10).map (c.toNat - ·)

def hexDigit? (c : Char) : Option Nat :=
  let n := c.toNat
  if 0x30 ≤ n ∧ n ≤ 0x39 then some (n - 0x30)
  else if 0x41 ≤ n ∧ n ≤ 0x46 then some (n - 0x37)
  else if 0x61 ≤ n ∧ n ≤ 0x66 then some (n - 0x57)
  else none

def hexChar (n : Nat) : Char := Char.ofNat (if n < 10 then 0x30 + n else 0x57 + n)

/-- A small hexadecimal digit is neither a capital letter nor one of the signs between capital and small letters. -/
theorem toNat_hexChar (n : Nat) : (hexChar n).toNat < 0x3A ∨ 0x61 ≤ (hexChar n).toNat := by
  have hvalue (m : Nat) : (Char.ofNat m).toNat = m ∨ (Char.ofNat m).toNat = 0 := by
    by_cases hm : m.isValidChar
    · exact .inl (by rw [Char.ofNat, dif_pos hm]; rfl)
    · exact .inr (by rw [Char.ofNat, dif_neg hm]; rfl)
  unfold hexChar
  split
  · rcases hvalue (0x30 + n) with h | h <;> omega
  · rcases hvalue (0x57 + n) with h | h <;> omega

def hexCharUpper (n : Nat) : Char := Char.ofNat (if n < 10 then 0x30 + n else 0x37 + n)

/-- The digits of a number in a base of at least two, written with `hexChar`. -/
def digitsIn (base : Nat) (n : Nat) : List Char :=
  if _h : 2 ≤ base ∧ base ≤ n then digitsIn base (n / base) ++ [hexChar (n % base)]
  else [hexChar n]
termination_by n
decreasing_by exact Nat.div_lt_self (by omega) (by omega)

theorem toNat_of_mem_digitsIn {base n : Nat} {c : Char} (h : c ∈ digitsIn base n) :
    c.toNat < 0x3A ∨ 0x61 ≤ c.toNat := by
  fun_induction digitsIn base n with
  | case1 n _ ih =>
    rcases List.mem_append.mp h with h | h
    · exact ih h
    · rw [List.mem_singleton.mp h]
      exact toNat_hexChar _
  | case2 n =>
    rw [List.mem_singleton.mp h]
    exact toNat_hexChar _

def decimal (n : Nat) : List Char := digitsIn 10 n

def signedDecimal (n : Int) : List Char :=
  if n < 0 then '-' :: decimal n.natAbs else decimal n.natAbs

/-- Decimal digits, filled up with zeros at the front to at least `width` of them. -/
def padded (width n : Nat) : List Char :=
  let ds := decimal n
  List.replicate (width - ds.length) '0' ++ ds

theorem toNat_of_mem_padded {width n : Nat} {c : Char} (h : c ∈ padded width n) : c.toNat < 0x3A ∨ 0x61 ≤ c.toNat := by
  rcases List.mem_append.mp h with h | h
  · rw [List.eq_of_mem_replicate h]
    decide
  · exact toNat_of_mem_digitsIn h

/-- The number that a list of digit values spells, most significant first. -/
def ofDigits (base : Nat) (ds : List Nat) : Nat := ds.foldl (fun n d => base * n + d) 0

def showNat (n : Nat) : String := String.ofList (decimal n)

def showInt (n : Int) : String := String.ofList (signedDecimal n)

/-- A whole number in hexadecimal digits, with a minus sign where it is negative. -/
def showHex (n : Int) : String :=
  let ds := digitsIn 16 n.natAbs
  String.ofList (if n < 0 then '-' :: ds else ds)

end CertInventory.Text
