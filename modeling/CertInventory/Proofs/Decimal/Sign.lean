import Mathlib.Algebra.Ring.Nat
import Mathlib.Tactic.IntervalCases

/-!
The sign of a double. Every double but the undefined one has a sign, zeros and infinities included, and the operations
keep track of it: a sum of positive doubles is positive, and so is the product with a positive number that is neither
zero nor infinite. So such sums and products are defined, also where they leave the range of doubles.
-/

namespace CertInventory.Decimal

open Float.Model (UnpackedFloat Format)
open Float.Model.UnpackedFloat

def unpackedSign? : UnpackedFloat → Option Sign
  | .notANumber => none
  | .infinity s | .zero s | .finite s _ _ _ => some s

section Choices

variable {p : Prop} [Decidable p] {s : Option Sign}

theorem unpackedSign?_ite {a b : UnpackedFloat} (ha : p → unpackedSign? a = s) (hb : ¬ p → unpackedSign? b = s) :
    unpackedSign? (if p then a else b) = s := by
  split
  · exact ha (by assumption)
  · exact hb (by assumption)

theorem unpackedSign?_dite {a : p → UnpackedFloat} {b : ¬ p → UnpackedFloat} (ha : ∀ h, unpackedSign? (a h) = s)
    (hb : ∀ h, unpackedSign? (b h) = s) : unpackedSign? (if h : p then a h else b h) = s := by
  split
  · exact ha _
  · exact hb _

end Choices

section Rounding

variable (spec : Format) (s : Sign) (exponent : Int)

theorem unpackedSign?_roundWithAccuracy (mantissa : Nat) (accuracy : Accuracy) :
    unpackedSign? (roundWithAccuracy spec s mantissa exponent accuracy) = some s := by
  unfold roundWithAccuracy
  exact unpackedSign?_dite (fun _ => rfl) fun _ => rfl

theorem unpackedSign?_normalize_of_nonneg {mantissa : Int} (h : 0 ≤ mantissa) :
    unpackedSign? (UnpackedFloat.normalize spec mantissa exponent .positive) = some .positive := by
  unfold UnpackedFloat.normalize
  split
  · rename_i hlt
    exact absurd (Int.compare_eq_lt.mp hlt) (Int.not_lt.mpr h)
  · rfl
  · exact unpackedSign?_roundWithAccuracy spec .positive _ _ _

end Rounding

section Operations

variable (spec : Format) {a b : UnpackedFloat} {s t : Sign} {m : Nat} {e : Int} {hm : 0 < m}

theorem unpackedSign?_neg (a : UnpackedFloat) : unpackedSign? a.neg = (unpackedSign? a).map (- ·) := by
  cases a <;> rfl

theorem unpackedSign?_add (ha : unpackedSign? a = some .positive) (hb : unpackedSign? b = some .positive) :
    unpackedSign? (add spec a b) = some .positive := by
  cases a with
  | notANumber => cases ha
  | infinity s =>
    cases ha
    cases b with
    | notANumber => cases hb
    | infinity t =>
      cases hb
      rfl
    | zero t | finite t => rfl
  | zero s =>
    cases ha
    cases b with
    | notANumber => cases hb
    | zero t =>
      cases hb
      rfl
    | infinity t | finite t => exact hb
  | finite s m e hm =>
    cases ha
    cases b with
    | notANumber => cases hb
    | infinity t => exact hb
    | zero t => rfl
    | finite t n f hn =>
      cases hb
      -- Both mantissas count upwards, so the sum does not change its sign.
      exact unpackedSign?_normalize_of_nonneg spec _ (Int.add_nonneg (Int.natCast_nonneg _) (Int.natCast_nonneg _))

/-- The product with a number other than zero has the sign of the other factor, turned where the number is negative. -/
theorem unpackedSign?_mul_finite (a : UnpackedFloat) :
    unpackedSign? (mul spec a (.finite t m e hm)) = (unpackedSign? a).map (· * t) := by
  cases a with
  | notANumber | infinity | zero => rfl
  | finite => exact unpackedSign?_roundWithAccuracy spec _ _ _ _

theorem unpackedSign?_finite_mul (a : UnpackedFloat) :
    unpackedSign? (mul spec (.finite t m e hm) a) = (unpackedSign? a).map (t * ·) := by
  cases a with
  | notANumber | infinity | zero => rfl
  | finite => exact unpackedSign?_roundWithAccuracy spec _ _ _ _

theorem unpackedSign?_div_finite (a : UnpackedFloat) :
    unpackedSign? (div spec a (.finite t m e hm)) = (unpackedSign? a).map (· / t) := by
  cases a with
  | notANumber | infinity | zero => rfl
  | finite => exact unpackedSign?_roundWithAccuracy spec _ _ _ _

theorem unpackedSign?_ofScientific (n : Nat) (scale : Int) :
    unpackedSign? (ofScientific spec n scale) = some .positive := by
  unfold ofScientific
  refine unpackedSign?_dite (fun _ => rfl) fun _ => ?_
  refine unpackedSign?_ite (fun _ => rfl) fun _ => unpackedSign?_ite (fun _ => rfl) fun _ => ?_
  apply unpackedSign?_ite
  · exact fun _ => unpackedSign?_mul_finite spec _
  · exact fun _ => unpackedSign?_div_finite spec _

end Operations

section Packing

/-- Only the greatest exponent with a mantissa behind it stands for no number. -/
theorem unpackedSign?_unpack {spec : Format} {b : BitVec spec.numBits}
    (h : unpackExponent b = -1#_ → unpackMantissa b = 0#_) :
    unpackedSign? (unpack spec b) = some (.ofBitVec (unpackSign b)) := by
  unfold unpack
  apply unpackedSign?_ite
  · intro hexponent
    rw [if_pos (h hexponent)]
    rfl
  · intro _
    exact unpackedSign?_ite (fun _ => unpackedSign?_dite (fun _ => rfl) fun _ => rfl) fun _ => rfl

theorem ofBitVec_unpackSign_packComponents {spec : Format} (s : Sign) (exponent : BitVec spec.exponentBits)
    (mantissa : BitVec spec.mantissaBitsWithoutImplicit) :
    Sign.ofBitVec (unpackSign (packComponents spec s exponent mantissa)) = s := by
  have hbits : unpackSign (packComponents spec s exponent mantissa) = s.toBitVec := by
    ext i (_ | ⟨⟨⟩⟩)
    show (BitVec.extractLsb _ _ (packComponents spec s exponent mantissa))[0] = _
    simp +arith [packComponents, BitVec.getElem_append]
  rw [hbits]
  cases s <;> rfl

theorem unpackedSign?_packComponents {spec : Format} {s : Sign} {exponent : BitVec spec.exponentBits}
    {mantissa : BitVec spec.mantissaBitsWithoutImplicit} (h : exponent = -1#_ → mantissa = 0#_) :
    unpackedSign? (unpack spec (packComponents spec s exponent mantissa)) = some s := by
  rw [unpackedSign?_unpack (by rwa [unpackExponent_packComponents, unpackMantissa_packComponents]),
    ofBitVec_unpackSign_packComponents]

/-- Packing keeps the sign, also of a number that it makes an infinity or a zero. -/
theorem unpackedSign?_unpack_pack (a : UnpackedFloat) :
    unpackedSign? (unpack .binary64 (pack .binary64 a)) = unpackedSign? a := by
  cases a with
  | notANumber => rfl
  | infinity s => exact unpackedSign?_packComponents fun _ => rfl
  | zero s => exact unpackedSign?_packComponents fun _ => rfl
  | finite s m e hm =>
    have hsign : unpackedSign? (.finite s m e hm) = some s := rfl
    rw [hsign]
    delta pack
    dsimp only
    split_ifs with hlarge hnormal
    · exact unpackedSign?_packComponents fun _ => rfl
    · refine unpackedSign?_packComponents fun h => ?_
      have hvalue := congrArg BitVec.toNat h
      simp only [BitVec.toNat_ofNat, BitVec.neg_one_eq_allOnes, BitVec.toNat_allOnes] at hvalue
      rw [Nat.mod_eq_of_lt (by omega)] at hvalue
      omega
    · exact unpackedSign?_packComponents fun h => absurd h (by decide)

end Packing

def sign? (x : Float) : Option Sign := unpackedSign? x.toModel.unpack

/-- A double of a sign that is neither zero nor infinite. -/
def IsProper (s : Sign) (x : Float) : Prop :=
  ∃ mantissa exponent hpos, x.toModel.unpack = .finite s mantissa exponent hpos

variable {x y : Float} {s : Sign}

theorem sign?_ofModel_pack (a : UnpackedFloat) : sign? (.ofModel (.pack a)) = unpackedSign? a :=
  unpackedSign?_unpack_pack a

theorem isNaN_eq_isNone_sign? (x : Float) : x.isNaN = (sign? x).isNone := by
  show x.toModel.unpack.isNaN = (unpackedSign? x.toModel.unpack).isNone
  cases x.toModel.unpack <;> rfl

theorem sign?_neg (x : Float) : sign? (-x) = (sign? x).map (- ·) :=
  (sign?_ofModel_pack _).trans (unpackedSign?_neg _)

theorem sign?_add (hx : sign? x = some .positive) (hy : sign? y = some .positive) :
    sign? (x + y) = some .positive := by
  rw [← unpackedSign?_add .binary64 hx hy]
  exact sign?_ofModel_pack _

theorem sign?_mul (x y : Float) :
    sign? (x * y) = unpackedSign? (mul .binary64 x.toModel.unpack y.toModel.unpack) :=
  sign?_ofModel_pack _

theorem IsProper.sign?_mul_right (h : IsProper s y) (x : Float) : sign? (x * y) = (sign? x).map (· * s) := by
  obtain ⟨m, e, hm, hy⟩ := h
  rw [sign?_mul, hy]
  exact unpackedSign?_mul_finite .binary64 _

theorem IsProper.sign?_mul_left (h : IsProper s x) (y : Float) : sign? (x * y) = (sign? y).map (s * ·) := by
  obtain ⟨m, e, hm, hx⟩ := h
  rw [sign?_mul, hx]
  exact unpackedSign?_finite_mul .binary64 _

theorem IsProper.sign?_div (h : IsProper s y) (x : Float) : sign? (x / y) = (sign? x).map (· / s) := by
  obtain ⟨m, e, hm, hy⟩ := h
  have hquotient : sign? (x / y) = unpackedSign? (div .binary64 x.toModel.unpack y.toModel.unpack) :=
    sign?_ofModel_pack _
  rw [hquotient, hy]
  exact unpackedSign?_div_finite .binary64 _

theorem isProper_powersOfTen {i : Nat} (h : i < Float.exactlyRepresentablePowersOfTen.size) :
    IsProper .positive Float.exactlyRepresentablePowersOfTen[i] := by
  have hi : i < 23 := h
  interval_cases i
  all_goals
    show IsProper .positive (Float.ofBits _)
    exact ⟨_, _, _, rfl⟩

theorem sign?_toFloat (n : UInt64) : sign? n.toFloat = some .positive :=
  (sign?_ofModel_pack _).trans (unpackedSign?_normalize_of_nonneg .binary64 0 (Int.natCast_nonneg _))

theorem sign?_ofScientific (n : Nat) (negativeScale : Bool) (scale : Nat) :
    sign? (Float.ofScientific n negativeScale scale) = some .positive := by
  unfold Float.ofScientific
  split
  · have hpower := isProper_powersOfTen (i := scale) (by simp [Float.exactlyRepresentablePowersOfTen]; omega)
    cases negativeScale with
    | true => exact (hpower.sign?_div _).trans (congrArg _ (sign?_toFloat _))
    | false => exact (hpower.sign?_mul_right _).trans (congrArg _ (sign?_toFloat _))
  · exact (sign?_ofModel_pack _).trans (unpackedSign?_ofScientific .binary64 _ _)

end CertInventory.Decimal
