import Mathlib.Algebra.Ring.Nat
import Muster.Proofs.Json

/-!
Numbers in digits that are beyond the integers of 64 bits. They are read as doubles, their leading
digits times a power of ten; below `2 ^ 128` none of these doubles is infinite. To see that it is
enough to bound exponents, through rounding, through packing and through a product.
-/

namespace Muster.Json

open Float.Model Float.Model.UnpackedFloat

/-! ### Exponents -/

/-- Zero, or finite with at most this exponent. -/
inductive Below (bound : Int) : UnpackedFloat → Prop
  | zero (sign : Sign) : Below bound (.zero sign)
  | finite {sign : Sign} {mantissa : Nat} {exponent : Int} {filled : 0 < mantissa}
      (small : exponent ≤ bound) : Below bound (.finite sign mantissa exponent filled)

/-- The same, with a mantissa of 53 bits. -/
inductive Small (bound : Int) : UnpackedFloat → Prop
  | zero (sign : Sign) : Small bound (.zero sign)
  | finite {sign : Sign} {mantissa : Nat} {exponent : Int} {filled : 0 < mantissa}
      (fits : mantissa < 2 ^ 53) (small : exponent ≤ bound) :
    Small bound (.finite sign mantissa exponent filled)

instance (bound : Int) : (x : UnpackedFloat) → Decidable (Small bound x)
  | .infinity _ | .notANumber => isFalse nofun
  | .zero sign => isTrue (.zero sign)
  | .finite _ mantissa exponent _ =>
    decidable_of_iff (mantissa < 2 ^ 53 ∧ exponent ≤ bound)
      ⟨fun both => .finite both.1 both.2, fun | .finite fits small => ⟨fits, small⟩⟩

theorem roundedMantissa_le (em : ExtendedMantissa) : em.roundedMantissa ≤ em.mantissa + 1 := by
  obtain ⟨mantissa, roundBit, stickyBit⟩ := em
  cases roundBit <;> cases stickyBit <;>
    simp only [ExtendedMantissa.roundedMantissa, ExtendedMantissa.accuracy,
      Accuracy.roundToNearestEven] <;> omega

theorem mantissa_shiftRight_le (em : ExtendedMantissa) (count : Nat) :
    (em >>> count).mantissa ≤ em.mantissa := by
  induction count with
  | zero => exact Nat.le_refl _
  | succ count ih => exact Nat.le_trans (Nat.div_le_self _ 2) ih

theorem mantissa_ofMantissaAndAccuracy (mantissa : Nat) (accuracy : Accuracy) :
    (ExtendedMantissa.ofMantissaAndAccuracy mantissa accuracy).mantissa = mantissa := by
  unfold ExtendedMantissa.ofMantissaAndAccuracy
  split <;> rfl

theorem log2_le_of_lt {m bits : Nat} (fits : m < 2 ^ bits) : m.log2 ≤ bits := by
  rcases Nat.eq_zero_or_pos m with rfl | positive
  · exact Nat.zero_le _
  · exact Nat.le_of_lt ((Nat.log2_lt (Nat.ne_of_gt positive)).mpr fits)

theorem mantissaBits_binary64 : Format.binary64.mantissaBits = 53 := rfl

theorem mantissaBitsWithoutImplicit_binary64 :
    Format.binary64.mantissaBitsWithoutImplicit = 52 := rfl

theorem exponentBits_binary64 : Format.binary64.exponentBits = 11 := rfl

theorem exponentBias_binary64 : Format.binary64.exponentBias = 1023 := by decide

variable {mantissa bits : Nat} {exponent bound : Int}

/-- A shift does not make a mantissa larger, and the exponent grows by the bits of the mantissa at
most. -/
theorem shiftToTargetExponent_le (fits : mantissa < 2 ^ bits) (small : exponent ≤ bound)
    (positive : 0 ≤ bound) (accuracy : Accuracy) :
    (shiftToTargetExponent .binary64 mantissa exponent accuracy).1.mantissa ≤ mantissa ∧
      (shiftToTargetExponent .binary64 mantissa exponent accuracy).2 ≤ bound + bits := by
  have log := log2_le_of_lt fits
  constructor
  · refine Nat.le_trans (mantissa_shiftRight_le _ _) (Nat.le_of_eq ?_)
    exact mantissa_ofMantissaAndAccuracy mantissa accuracy
  · simp only [shiftToTargetExponent, shiftToExponent, Format.targetExponent, totalExponent,
      mantissaBits_binary64, Format.minExponent]
    omega

/-- A mantissa is shifted, rounded, and shifted once more where it has grown by a bit. -/
theorem roundWithAccuracy_of_shifts {kept last : ExtendedMantissa × Int} {accuracy : Accuracy}
    (sign : Sign)
    (shifted : shiftToTargetExponent .binary64 mantissa exponent accuracy = kept)
    (again : shiftToTargetExponent .binary64 kept.1.roundedMantissa kept.2 .exact = last) :
    roundWithAccuracy .binary64 sign mantissa exponent accuracy =
      if h : last.1.mantissa = 0 then .zero sign
      else .finite sign last.1.mantissa last.2 (Nat.pos_of_ne_zero h) := by
  subst shifted again
  rfl

theorem below_roundWithAccuracy (fits : mantissa < 2 ^ bits) (small : exponent ≤ bound)
    (positive : 0 ≤ bound) (sign : Sign) (accuracy : Accuracy) :
    Below (bound + 2 * bits + 1) (roundWithAccuracy .binary64 sign mantissa exponent accuracy) := by
  obtain ⟨smaller, first⟩ := shiftToTargetExponent_le fits small positive accuracy
  generalize shifted : shiftToTargetExponent .binary64 mantissa exponent accuracy = kept
    at smaller first
  have rounded := roundedMantissa_le kept.1
  have next : kept.1.roundedMantissa < 2 ^ (bits + 1) := by
    rw [Nat.pow_succ]
    omega
  obtain ⟨-, second⟩ := shiftToTargetExponent_le next first (by omega) .exact
  generalize again : shiftToTargetExponent .binary64 kept.1.roundedMantissa kept.2 .exact = last
    at second
  push_cast at second
  rw [roundWithAccuracy_of_shifts sign shifted again]
  by_cases empty : last.1.mantissa = 0
  · rw [dif_pos empty]
    exact .zero sign
  · rw [dif_neg empty]
    refine .finite ?_
    omega

theorem small_unpack_packComponents {scale : BitVec 11} (fits : (scale.toNat : Int) ≤ bound + 1075)
    (finite : scale.toNat < 2047) (positive : 0 ≤ bound) (sign : Sign) (fraction : BitVec 52) :
    Small bound (unpack .binary64 (packComponents .binary64 sign scale fraction)) := by
  unfold UnpackedFloat.unpack
  have power : unpackExponent (packComponents .binary64 sign scale fraction) = scale :=
    unpackExponent_packComponents
  generalize packComponents .binary64 sign scale fraction = bits at power
  refine iteInduction (motive := Small bound) (fun full => ?_) fun _ => ?_
  · rw [power] at full
    have same := congrArg BitVec.toNat full
    have last : (-1#11 : BitVec 11).toNat = 2047 := by decide
    exact absurd (same.trans last) (Nat.ne_of_lt finite)
  · refine iteInduction (motive := Small bound) (fun zero => ?_) fun _ => ?_
    · by_cases empty : unpackMantissa bits = 0#_
      · rw [dif_pos empty]
        exact .zero _
      · rw [dif_neg empty]
        refine .finite (Nat.lt_trans (unpackMantissa bits).isLt (by decide)) ?_
        rw [zero, exponentBias_binary64, mantissaBitsWithoutImplicit_binary64, BitVec.toNat_zero]
        omega
    · refine .finite (1#1 ++ unpackMantissa bits).isLt ?_
      rw [power, exponentBias_binary64, mantissaBitsWithoutImplicit_binary64]
      omega

theorem small_unpack_pack {x : UnpackedFloat} (below : Below bound x) (positive : 0 ≤ bound)
    (finite : bound < 972) : Small bound (unpack .binary64 (pack .binary64 x)) := by
  have least : ((0#11).toNat : Int) ≤ bound + 1075 := by
    rw [BitVec.toNat_zero]
    omega
  cases below with
  | zero sign => exact small_unpack_packComponents least (by decide) positive sign 0#52
  | finite small =>
    rename_i sign mantissa exponent _
    refine iteInduction (motive := fun bits => Small bound (unpack .binary64 bits))
      (fun full => ?_) fun _ => ?_
    · rw [exponentBias_binary64, mantissaBitsWithoutImplicit_binary64, exponentBits_binary64] at full
      omega
    · refine iteInduction (motive := fun bits => Small bound (unpack .binary64 bits))
        (fun _ => ?_) fun _ => ?_
      · rw [exponentBias_binary64]
        generalize biased : Int.toNat _ = scale
        rw [mantissaBitsWithoutImplicit_binary64] at biased
        have whole : (BitVec.ofNat 11 scale).toNat = scale := by
          rw [BitVec.toNat_ofNat]
          exact Nat.mod_eq_of_lt (by omega)
        refine small_unpack_packComponents ?_ ?_ positive sign _
        · rw [whole]
          omega
        · rw [whole]
          omega
      · exact small_unpack_packComponents least (by decide) positive sign _

theorem mul_finite {sign sign' : Sign} {mantissa' : Nat} {exponent' : Int} {filled : 0 < mantissa}
    {filled' : 0 < mantissa'} :
    UnpackedFloat.mul .binary64 (.finite sign mantissa exponent filled)
        (.finite sign' mantissa' exponent' filled') =
      roundWithAccuracy .binary64 (sign * sign') (mantissa * mantissa') (exponent + exponent')
        .exact := rfl

theorem below_mul {x y : UnpackedFloat} {first second : Int} (left : Small first x)
    (right : Small second y) (positive : 0 ≤ first + second) :
    Below (first + second + 213) (UnpackedFloat.mul .binary64 x y) := by
  cases left with
  | zero sign => cases right <;> exact .zero _
  | finite fits small =>
    rename_i sign mantissa exponent _
    cases right with
    | zero => exact .zero _
    | finite fits' small' =>
      rename_i sign' mantissa' exponent' _
      have both : mantissa * mantissa' < 2 ^ 106 := by
        have product := Nat.mul_lt_mul'' fits fits'
        rwa [← Nat.pow_add] at product
      have same : first + second + 213 = first + second + 2 * (106 : Nat) + 1 := by omega
      rw [mul_finite, same]
      exact below_roundWithAccuracy both (Int.add_le_add small small') positive _ _

theorem shiftLeft_lt {n word shift : Nat} (fits : n < 2 ^ word) :
    n <<< shift < 2 ^ (word + shift) := by
  rw [Nat.shiftLeft_eq, Nat.pow_add]
  exact Nat.mul_lt_mul_of_pos_right fits (Nat.two_pow_pos shift)

/-- A whole number is moved up by 52 bits at most before it is rounded. -/
theorem below_round {n : Nat} (word : n < 2 ^ 64) (sign : Sign) :
    Below 233 (UnpackedFloat.round .binary64 sign n 0) := by
  unfold UnpackedFloat.round
  dsimp only [decreaseExponent]
  have shift : (0 - Format.binary64.targetExponent (totalExponent n 0)).toNat ≤ 52 := by
    simp only [Format.targetExponent, totalExponent, mantissaBits_binary64, Format.minExponent]
    omega
  have fits : n <<< (0 - Format.binary64.targetExponent (totalExponent n 0)).toNat < 2 ^ 116 :=
    Nat.lt_of_lt_of_le (shiftLeft_lt word) (Nat.pow_le_pow_right (by decide) (by omega))
  exact below_roundWithAccuracy fits (by omega) (Int.le_refl 0) sign .exact

theorem below_ofNat {n : Nat} (word : n < 2 ^ 64) :
    Below 233 (UnpackedFloat.ofNat .binary64 n) := by
  unfold UnpackedFloat.ofNat UnpackedFloat.ofInt UnpackedFloat.normalize
  split
  · exact below_round (by omega) .negative
  · exact .zero _
  · exact below_round word .positive

theorem below_ofScientific {n : Nat} (word : n < 2 ^ 64) :
    Below 235 (UnpackedFloat.ofScientific .binary64 n 0) := by
  have positive : (0 : Int) < 2 ^ Format.binary64.exponentBits := by decide
  have fits : n <<< Format.binary64.mantissaBits * 10 ^ Int.toNat 0 < 2 ^ 117 := by
    rw [Int.toNat_zero, Nat.pow_zero, Nat.mul_one, mantissaBits_binary64]
    exact shiftLeft_lt word
  have small : -(Format.binary64.mantissaBits : Int) + 0 ≤ 0 := by
    rw [mantissaBits_binary64]
    decide
  unfold UnpackedFloat.ofScientific
  by_cases none : n = 0
  · rw [dif_pos none]
    exact .zero _
  · rw [dif_neg none, if_neg (by omega), if_neg (by omega), if_pos (Int.le_refl 0), mul_finite]
    exact below_roundWithAccuracy fits small (Int.le_refl 0) _ _

/-! ### Doubles -/

/-- The double is finite, and its exponent is at most this. -/
def Within (bound : Int) (x : Float) : Prop := Small bound x.toModel.unpack

theorem Within.isInf {x : Float} (within : Within bound x) : x.isInf = false := by
  unfold Within at within
  show x.toModel.unpack.isInf = false
  generalize x.toModel.unpack = unpacked at within
  cases within <;> rfl

theorem within_pack {x : UnpackedFloat} (below : Below bound x) (positive : 0 ≤ bound)
    (finite : bound < 972) : Within bound (.ofModel (Float.Model.pack x)) :=
  small_unpack_pack below positive finite

theorem within_mul {x y : Float} {first second : Int} (left : Within first x)
    (right : Within second y) (positive : 0 ≤ first + second)
    (finite : first + second + 213 < 972) : Within (first + second + 213) (x * y) :=
  within_pack (below_mul left right positive) (by omega) finite

/-! ### Words and powers of ten -/

theorem Small.mono {x : UnpackedFloat} {larger : Int} (small : Small bound x)
    (more : bound ≤ larger) : Small larger x := by
  cases small with
  | zero sign => exact .zero sign
  | finite fits small => exact .finite fits (Int.le_trans small more)

theorem within_ofNat {n : Nat} (word : n < 2 ^ 64) : Within 446 (Float.ofNat n) := by
  have asScientific : Float.ofNat n = Float.ofScientific n false 0 := rfl
  rw [asScientific, Float.ofScientific]
  split
  · have same : n.toUInt64.toNat = n := Nat.mod_eq_of_lt word
    have whole : Within 233 n.toUInt64.toFloat := by
      refine within_pack ?_ (by decide) (by decide)
      rw [UnpackedFloat.ofUInt64, same]
      exact below_ofNat word
    have one : Within 0 Float.exactlyRepresentablePowersOfTen[0] := by
      unfold Within
      decide +kernel
    exact within_mul whole one (by decide) (by decide)
  · exact Small.mono (within_pack (below_ofScientific word) (by decide) (by decide)) (by decide)

theorem within_powerOfTen {n : Nat} (few : n ≤ 39) : Within 78 (powerOfTen n) := by
  have all : ∀ n < 40, Small 78 (powerOfTen n).toModel.unpack := by decide +kernel
  exact all n (Nat.lt_succ_of_le few)

/-! ### Digits -/

theorem leading_lt {value : Nat} (word : value < UInt64.size) (digits : List Char) :
    (leading value digits).1 < UInt64.size ∧ (leading value digits).2.length ≤ digits.length := by
  induction digits generalizing value with
  | nil => exact ⟨word, Nat.le_refl _⟩
  | cons c rest ih =>
    rw [leading]
    split
    · rename_i next
      obtain ⟨below, shorter⟩ := ih next
      exact ⟨below, Nat.le_succ_of_le shorter⟩
    · exact ⟨word, Nat.le_refl _⟩

/-- A word times a power of ten that is not too large has a value. -/
theorem scale_isSome {n digits : Nat} (word : n < UInt64.size) (few : digits ≤ 39) :
    (scale (Float.ofNat n) digits).isSome = true := by
  have finite := (within_mul (within_ofNat word) (within_powerOfTen few) (by decide)
    (by decide)).isInf
  rw [scale, if_neg (by omega), Int.toNat_natCast, if_pos (by omega)]
  dsimp only
  rw [finite]
  rfl

theorem length_toDigits_le {n : Nat} (small : n < 2 ^ 128) : (Nat.toDigits 10 n).length ≤ 39 :=
  (Nat.length_toDigits_le_iff (by decide) (by decide)).mpr
    (Nat.lt_of_lt_of_le small (by decide))

/-- Every number of 128 bits that is written in digits is read as some number. -/
theorem numberOfChars?_isSome {n : Nat} (small : n < 2 ^ 128) :
    (numberOfChars? (Nat.toDigits 10 n)).isSome = true := by
  by_cases exact : (n : Int) ≤ maxInt
  · rw [numberOfChars?_toDigits exact]
    rfl
  · have positive : 0 < n := by unfold maxInt at exact; omega
    have parsed := Numeral.ofChars?_of_digits Nat.toDigits_ne_nil
      (fun c member => Nat.isDigit_of_mem_toDigits (by decide) (by decide) member)
      (.inl (head?_toDigits positive))
    have beyond : inRange n = false := by simp [inRange, exact]
    obtain ⟨word, shorter⟩ := leading_lt (show 0 < UInt64.size by decide) (Nat.toDigits 10 n)
    have few := Nat.le_trans shorter (length_toDigits_le small)
    have scaled := scale_isSome word few
    have magnitude : (Numeral.magnitude? ⟨false, Nat.toDigits 10 n, none, none⟩).isSome = true := by
      simp only [Numeral.magnitude?, Numeral.beyond, Numeral.power, Int.add_zero]
      exact scaled
    rw [numberOfChars?, parsed]
    simp only [Option.bind_some, Numeral.toJson?, natOfDigits_toDigits, Numeral.float?]
    simpa [beyond] using magnitude

end Muster.Json
