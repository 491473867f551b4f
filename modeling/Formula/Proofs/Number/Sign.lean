import Mathlib.Data.Nat.ModEq
import Formula.Proofs.Number.Binary

/-!
The sign of an integer as a binary floating point number: it is a bit of its own, which rounding
leaves alone, so that integers of different signs become different numbers.
-/

namespace Formula.Number

open Float.Model (Format UnpackedFloat)
open Float.Model.UnpackedFloat

section Packed

variable {format : Format} {bits : BitVec format.numBits}

theorem two_pow_numBits (format : Format) : 2 ^ format.numBits =
    2 * 2 ^ (format.mantissaBitsWithoutImplicit + format.exponentBits) := by
  unfold Format.numBits
  rw [← pow_succ']
  congr 1
  omega

theorem magnitude_eq (bits : BitVec format.numBits) :
    bits.toNat % 2 ^ (format.mantissaBitsWithoutImplicit + format.exponentBits) =
      (unpackMantissa bits).toNat +
        2 ^ format.mantissaBitsWithoutImplicit * (unpackExponent bits).toNat := by
  have mantissa : (unpackMantissa bits).toNat =
      bits.toNat % 2 ^ format.mantissaBitsWithoutImplicit := by
    have positive := format.hm
    have width : format.mantissaBitsWithoutImplicit - 1 + 1 =
        format.mantissaBitsWithoutImplicit := by
      omega
    simp [unpackMantissa, width]
  have exponent : (unpackExponent bits).toNat =
      bits.toNat / 2 ^ format.mantissaBitsWithoutImplicit % 2 ^ format.exponentBits := by
    have positive := format.he
    have width : format.mantissaBitsWithoutImplicit + format.exponentBits - 1 -
        format.mantissaBitsWithoutImplicit + 1 = format.exponentBits := by
      omega
    simp [unpackExponent, width, Nat.shiftRight_eq_div_pow]
  rw [mantissa, exponent, pow_add, Nat.mod_mul]

def signOf (format : Format) (bits : BitVec format.numBits) : Sign :=
  Sign.ofBitVec (unpackSign bits)

/-- The sign of all but what is not a number. -/
def sign? : UnpackedFloat → Option Sign
  | .notANumber => none
  | .infinity sign => some sign
  | .zero sign => some sign
  | .finite sign _ _ _ => some sign

theorem sign_pack {number : UnpackedFloat} {sign : Sign} (signed : sign? number = some sign) :
    signOf format (pack format number) = sign := by
  cases number with
  | notANumber => cases signed
  | infinity => cases signed; exact sign_ofBitVec_packComponents _ _ _
  | zero => cases signed; exact sign_ofBitVec_packComponents _ _ _
  | finite =>
      cases signed
      unfold pack
      simp only
      split
      · exact sign_ofBitVec_packComponents _ _ _
      · split
        · exact sign_ofBitVec_packComponents _ _ _
        · exact sign_ofBitVec_packComponents _ _ _

theorem sign_unpack (isNumber : unpack format bits ≠ .notANumber) :
    sign? (unpack format bits) = some (signOf format bits) := by
  have unpacks := unpacks_unpack bits
  generalize unpack format bits = number at isNumber unpacks
  unfold signOf
  cases number with
  | notANumber => exact absurd rfl isNumber
  | infinity sign =>
      rw [show bits = packedInfinity format sign from unpacks]
      exact congrArg some (sign_ofBitVec_packComponents _ _ _).symm
  | zero sign =>
      rw [show bits = packedZero format sign from unpacks]
      exact congrArg some (sign_ofBitVec_packComponents _ _ _).symm
  | finite => exact congrArg some unpacks.1.symm

theorem fields_of_notANumber (isNone : unpack format bits = .notANumber) :
    unpackExponent bits = -1#_ ∧ unpackMantissa bits ≠ 0#_ := by
  by_cases greatest : unpackExponent bits = -1#_
  · refine ⟨greatest, fun noFraction => ?_⟩
    have read : unpack format bits = .infinity (Sign.ofBitVec (unpackSign bits)) :=
      (if_pos greatest).trans (if_pos noFraction)
    cases read.symm.trans isNone
  · by_cases least : unpackExponent bits = 0#_
    · by_cases noFraction : unpackMantissa bits = 0#_
      · cases ((if_neg greatest).trans ((if_pos least).trans (dif_pos noFraction))).symm.trans
          isNone
      · cases ((if_neg greatest).trans ((if_pos least).trans (dif_neg noFraction))).symm.trans
          isNone
    · cases ((if_neg greatest).trans (if_neg least)).symm.trans isNone

theorem positive_repacked (isClear : signOf format bits = .positive) :
    signOf format (pack format (unpack format bits)) = .positive := by
  by_cases isNone : unpack format bits = .notANumber
  · rw [isNone]
    exact sign_ofBitVec_packComponents _ _ _
  · rw [sign_pack (sign_unpack isNone), isClear]

theorem negative_repacked (isSet : signOf format bits = .negative)
    (finite : bits.toNat % 2 ^ (format.mantissaBitsWithoutImplicit + format.exponentBits) ≤
      2 ^ format.mantissaBitsWithoutImplicit * (2 ^ format.exponentBits - 1)) :
    signOf format (pack format (unpack format bits)) = .negative := by
  by_cases isNone : unpack format bits = .notANumber
  · obtain ⟨greatest, fraction⟩ := fields_of_notANumber isNone
    have exponent : (unpackExponent bits).toNat = 2 ^ format.exponentBits - 1 := by
      rw [greatest, BitVec.neg_one_eq_allOnes, BitVec.toNat_allOnes]
    rw [magnitude_eq, exponent] at finite
    have noFraction : (unpackMantissa bits).toNat = 0 := by omega
    exact absurd (BitVec.eq_of_toNat_eq noFraction) fraction
  · rw [sign_pack (sign_unpack isNone), isSet]

theorem signOf_eq (bits : BitVec format.numBits) :
    signOf format bits =
      if bits.toNat < 2 ^ (format.mantissaBitsWithoutImplicit + format.exponentBits) then .positive
      else .negative := by
  have last : format.numBits - 1 = format.mantissaBitsWithoutImplicit + format.exponentBits := by
    unfold Format.numBits
    omega
  have sign : (unpackSign bits).getLsbD 0 =
      decide (2 ^ (format.mantissaBitsWithoutImplicit + format.exponentBits) ≤ bits.toNat) := by
    rw [getLsbD_unpackSign, ← last, ← BitVec.msb_eq_getLsbD_last, BitVec.msb_eq_decide]
  unfold signOf
  rcases BitVec.eq_zero_or_eq_one (unpackSign bits) with clear | set
  · rw [clear] at sign ⊢
    rw [if_pos (Nat.not_le.mp (of_decide_eq_false sign.symm))]
    rfl
  · rw [set] at sign ⊢
    rw [if_neg (Nat.not_lt.mpr (of_decide_eq_true sign.symm))]
    rfl

/-- Numbers are encoded in bits of this format. -/
structure EncodesIn (encoding : BinaryFormat) (format : Format) : Prop where
  hiddenBit_eq : encoding.hiddenBit = 2 ^ format.mantissaBitsWithoutImplicit
  infinity_eq : encoding.infinity =
    2 ^ format.mantissaBitsWithoutImplicit * (2 ^ format.exponentBits - 1)

variable {encoding : BinaryFormat} {numerator denominator : Nat}

theorem EncodesIn.signBit_eq (encodes : EncodesIn encoding format) : encoding.signBit =
    2 ^ (format.mantissaBitsWithoutImplicit + format.exponentBits) := by
  have positive := Nat.two_pow_pos format.exponentBits
  unfold BinaryFormat.signBit
  rw [encodes.infinity_eq, encodes.hiddenBit_eq, pow_add, ← Nat.mul_succ]
  congr 1
  omega

theorem encodeMagnitude_le : encoding.encodeMagnitude numerator denominator ≤
    encoding.infinity := by
  unfold BinaryFormat.encodeMagnitude
  split
  · exact Nat.zero_le _
  · exact Nat.min_le_left _ _

theorem EncodesIn.infinity_lt (encodes : EncodesIn encoding format) : encoding.infinity <
    2 ^ (format.mantissaBitsWithoutImplicit + format.exponentBits) := by
  have positive : 0 < encoding.hiddenBit := by
    rw [encodes.hiddenBit_eq]
    exact Nat.two_pow_pos _
  rw [← encodes.signBit_eq]
  unfold BinaryFormat.signBit
  omega

theorem EncodesIn.signOf_encode (encodes : EncodesIn encoding format) (negative : Bool)
    (numerator denominator : Nat) : signOf format (pack format (unpack format
        (BitVec.ofNat format.numBits (encoding.encode negative numerator denominator)))) =
      if negative then .negative else .positive := by
  have upper : encoding.encodeMagnitude numerator denominator ≤ encoding.infinity :=
    encodeMagnitude_le
  have below := encodes.infinity_lt
  have double := two_pow_numBits format
  unfold BinaryFormat.encode
  generalize encoding.encodeMagnitude numerator denominator = magnitude at upper ⊢
  rw [encodes.signBit_eq]
  cases negative with
  | false =>
      apply positive_repacked
      have bits : (BitVec.ofNat format.numBits magnitude).toNat = magnitude := by
        rw [BitVec.toNat_ofNat, Nat.mod_eq_of_lt (by omega)]
      rw [if_neg Bool.false_ne_true, signOf_eq, bits, if_pos (by omega)]
  | true =>
      have bits : (BitVec.ofNat format.numBits
          (2 ^ (format.mantissaBitsWithoutImplicit + format.exponentBits) + magnitude)).toNat =
          2 ^ (format.mantissaBitsWithoutImplicit + format.exponentBits) + magnitude := by
        rw [BitVec.toNat_ofNat, Nat.mod_eq_of_lt (by omega)]
      apply negative_repacked
      · rw [signOf_eq, if_pos rfl, bits, if_neg (by omega)]
      · rw [if_pos rfl, bits, Nat.add_mod_left, Nat.mod_eq_of_lt (by omega),
          ← encodes.infinity_eq]
        exact upper

end Packed

theorem encodesIn_double : EncodesIn .double .binary64 := ⟨by decide, by decide⟩

theorem encodesIn_single : EncodesIn .single .binary32 := ⟨by decide, by decide⟩

/-- The sign that an integer should have as a floating point number. -/
def signOfInt (integer : Int) : Sign :=
  if decide (integer < 0) then .negative else .positive

theorem double_sign (integer : Int) :
    signOf .binary64 (doubleOfInt integer).toBits.toBitVec = signOfInt integer :=
  encodesIn_double.signOf_encode (decide (integer < 0)) integer.natAbs 1

theorem single_sign (integer : Int) :
    signOf .binary32 (singleOfInt integer).toBits.toBitVec = signOfInt integer :=
  encodesIn_single.signOf_encode (decide (integer < 0)) integer.natAbs 1

variable {left right : Int}

theorem signOfInt_ne (negative : left < 0) (nonneg : 0 ≤ right) :
    signOfInt left ≠ signOfInt right := by
  unfold signOfInt
  rw [decide_eq_true negative, decide_eq_false (Int.not_lt.mpr nonneg)]
  exact nofun

theorem doubleOfInt_ne (negative : left < 0) (nonneg : 0 ≤ right) :
    doubleOfInt left ≠ doubleOfInt right := by
  intro same
  apply signOfInt_ne negative nonneg
  rw [← double_sign, same, double_sign]

theorem singleOfInt_ne (negative : left < 0) (nonneg : 0 ≤ right) :
    singleOfInt left ≠ singleOfInt right := by
  intro same
  apply signOfInt_ne negative nonneg
  rw [← single_sign, same, single_sign]

end Formula.Number
