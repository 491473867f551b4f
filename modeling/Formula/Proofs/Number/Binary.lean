import Formula.Number.Binary

/-!
Equality of binary floating point numbers. Numbers are equal when their bits are, but for the
two zeros, which are equal to each other, and for what is not a number, which is equal to
nothing; and a comparison finds equal just what is equal.
-/

namespace Formula.Number

open Float.Model (Format UnpackedFloat)
open Float.Model.UnpackedFloat

theorem sign_eq_of_compare {left right : Sign} (same : compare left right = .eq) :
    left = right := by
  cases left <;> cases right
  · rfl
  · cases same
  · cases same
  · rfl

theorem parts_eq_of_compare {leftExponent rightExponent : Int} {leftMantissa rightMantissa : Nat}
    (same : (compare leftExponent rightExponent).then
      (compare leftMantissa rightMantissa) = .eq) :
    leftMantissa = rightMantissa ∧ leftExponent = rightExponent := by
  rw [Ordering.then_eq_eq] at same
  exact ⟨Nat.compare_eq_eq.mp same.2, Int.compare_eq_eq.mp same.1⟩

/-- Equal numbers are the same one, or both are zero. -/
theorem unpacked_eq_of_compare {left right : UnpackedFloat}
    (same : left.compare right = some .eq) :
    (left = right ∧ left ≠ .notANumber) ∨
      ∃ leftSign rightSign, left = .zero leftSign ∧ right = .zero rightSign := by
  cases left with
  | notANumber => cases same
  | zero leftSign =>
      cases right with
      | zero rightSign => exact .inr ⟨leftSign, rightSign, rfl, rfl⟩
      | notANumber => cases same
      | infinity rightSign => cases rightSign <;> cases same
      | finite rightSign => cases rightSign <;> cases same
  | infinity leftSign =>
      cases right with
      | infinity rightSign =>
          rw [sign_eq_of_compare (Option.some.inj same)]
          exact .inl ⟨rfl, nofun⟩
      | notANumber => cases leftSign <;> cases same
      | zero rightSign => cases leftSign <;> cases same
      | finite rightSign => cases leftSign <;> cases same
  | finite leftSign leftMantissa leftExponent =>
      cases right with
      | finite rightSign rightMantissa rightExponent =>
          left
          refine ⟨?_, nofun⟩
          cases leftSign <;> cases rightSign
          · obtain ⟨rfl, rfl⟩ :=
              parts_eq_of_compare (Ordering.swap_eq_eq.mp (Option.some.inj same))
            rfl
          · cases same
          · cases same
          · obtain ⟨rfl, rfl⟩ := parts_eq_of_compare (Option.some.inj same)
            rfl
      | notANumber => cases same
      | zero rightSign => cases leftSign <;> cases same
      | infinity rightSign => cases rightSign <;> cases same

section Packed

variable {format : Format} {left right bits : BitVec format.numBits}

theorem getLsbD_unpackMantissa {place : Nat}
    (inside : place < format.mantissaBitsWithoutImplicit) :
    (unpackMantissa bits).getLsbD place = bits.getLsbD place := by
  have last : place ≤ format.mantissaBitsWithoutImplicit - 1 := by omega
  simp [unpackMantissa, last]

theorem getLsbD_unpackExponent {place : Nat} (inside : place < format.exponentBits) :
    (unpackExponent bits).getLsbD place =
      bits.getLsbD (format.mantissaBitsWithoutImplicit + place) := by
  have last : place ≤ format.mantissaBitsWithoutImplicit + format.exponentBits - 1 -
      format.mantissaBitsWithoutImplicit := by
    omega
  simp [unpackExponent, last]

theorem getLsbD_unpackSign :
    (unpackSign bits).getLsbD 0 =
      bits.getLsbD (format.mantissaBitsWithoutImplicit + format.exponentBits) := by
  change (BitVec.cast _ (bits.extractLsb _ _)).getLsbD 0 = _
  simp

theorem bits_eq_of_fields (sign : unpackSign left = unpackSign right)
    (exponent : unpackExponent left = unpackExponent right)
    (mantissa : unpackMantissa left = unpackMantissa right) : left = right := by
  apply BitVec.eq_of_getLsbD_eq
  intro place inside
  by_cases inMantissa : place < format.mantissaBitsWithoutImplicit
  · rw [← getLsbD_unpackMantissa inMantissa, mantissa, getLsbD_unpackMantissa inMantissa]
  · obtain ⟨above, rfl⟩ := Nat.exists_eq_add_of_le (Nat.not_lt.mp inMantissa)
    by_cases inExponent : above < format.exponentBits
    · rw [← getLsbD_unpackExponent inExponent, exponent, getLsbD_unpackExponent inExponent]
    · have isSign : above = format.exponentBits := by
        unfold Format.numBits at inside
        omega
      rw [isSign, ← getLsbD_unpackSign, sign, getLsbD_unpackSign]

theorem normal_mantissa {width : Nat} (mantissa : BitVec width) :
    (1#1 ++ mantissa).toNat = 1 <<< width + mantissa.toNat := by
  rw [BitVec.toNat_append, ← Nat.shiftLeft_add_eq_or_of_lt mantissa.isLt,
    BitVec.toNat_one Nat.one_pos]

theorem sign_ofBitVec_injective {left right : BitVec 1}
    (same : Sign.ofBitVec left = Sign.ofBitVec right) : left = right := by
  rcases BitVec.eq_zero_or_eq_one left with rfl | rfl <;>
    rcases BitVec.eq_zero_or_eq_one right with rfl | rfl
  · rfl
  · cases same
  · cases same
  · rfl

theorem sign_ofBitVec_packComponents (sign : Sign) (exponent : BitVec format.exponentBits)
    (mantissa : BitVec format.mantissaBitsWithoutImplicit) :
    Sign.ofBitVec (unpackSign (packComponents format sign exponent mantissa)) = sign := by
  have field : unpackSign (packComponents format sign exponent mantissa) = sign.toBitVec := by
    apply BitVec.eq_of_getLsbD_eq
    intro place inside
    obtain rfl : place = 0 := by omega
    rw [getLsbD_unpackSign]
    simp [packComponents, BitVec.getLsbD_append, BitVec.getElem_append]
  rw [field]
  cases sign <;> rfl

theorem packedZero_inj {leftSign rightSign : Sign} :
    packedZero format leftSign = packedZero format rightSign ↔ leftSign = rightSign := by
  constructor
  · intro same
    have signs := congrArg (fun bits => Sign.ofBitVec (unpackSign bits)) same
    unfold packedZero at signs
    rwa [sign_ofBitVec_packComponents, sign_ofBitVec_packComponents] at signs
  · exact congrArg _

theorem bits_eq_packComponents {sign : Sign} {exponent : BitVec format.exponentBits}
    {mantissa : BitVec format.mantissaBitsWithoutImplicit}
    (ofSign : Sign.ofBitVec (unpackSign bits) = sign) (ofExponent : unpackExponent bits = exponent)
    (ofMantissa : unpackMantissa bits = mantissa) :
    bits = packComponents format sign exponent mantissa := by
  apply bits_eq_of_fields
  · apply sign_ofBitVec_injective
    rw [ofSign, sign_ofBitVec_packComponents]
  · rw [ofExponent, unpackExponent_packComponents]
  · rw [ofMantissa, unpackMantissa_packComponents]

/-- What the bits of an unpacked number are. A finite one has the least exponent, or a bit of its
own in front of the mantissa. -/
def Unpacks (bits : BitVec format.numBits) : UnpackedFloat → Prop
  | .notANumber => True
  | .infinity sign => bits = packedInfinity format sign
  | .zero sign => bits = packedZero format sign
  | .finite sign mantissa exponent _ =>
      Sign.ofBitVec (unpackSign bits) = sign ∧
        ((unpackExponent bits = 0#_ ∧ mantissa = (unpackMantissa bits).toNat) ∨
          (exponent = (unpackExponent bits).toNat -
              (format.exponentBias + format.mantissaBitsWithoutImplicit) ∧
            mantissa = 1 <<< format.mantissaBitsWithoutImplicit + (unpackMantissa bits).toNat))

theorem unpacks_unpack (bits : BitVec format.numBits) : Unpacks bits (unpack format bits) := by
  by_cases greatest : unpackExponent bits = -1#_
  · by_cases noFraction : unpackMantissa bits = 0#_
    · have read : unpack format bits = .infinity (Sign.ofBitVec (unpackSign bits)) :=
        (if_pos greatest).trans (if_pos noFraction)
      rw [read]
      exact bits_eq_packComponents rfl greatest noFraction
    · have read : unpack format bits = .notANumber :=
        (if_pos greatest).trans (if_neg noFraction)
      rw [read]
      trivial
  · by_cases least : unpackExponent bits = 0#_
    · by_cases noFraction : unpackMantissa bits = 0#_
      · have read : unpack format bits = .zero (Sign.ofBitVec (unpackSign bits)) :=
          (if_neg greatest).trans ((if_pos least).trans (dif_pos noFraction))
        rw [read]
        exact bits_eq_packComponents rfl least noFraction
      · obtain ⟨exponent, positive, read⟩ : ∃ exponent positive, unpack format bits =
            .finite (Sign.ofBitVec (unpackSign bits)) (unpackMantissa bits).toNat exponent
              positive :=
          ⟨_, _, (if_neg greatest).trans ((if_pos least).trans (dif_neg noFraction))⟩
        rw [read]
        exact ⟨rfl, .inl ⟨least, rfl⟩⟩
    · obtain ⟨positive, read⟩ : ∃ positive, unpack format bits =
          .finite (Sign.ofBitVec (unpackSign bits)) (1#1 ++ unpackMantissa bits).toNat
            ((unpackExponent bits).toNat -
              (format.exponentBias + format.mantissaBitsWithoutImplicit)) positive :=
        ⟨_, (if_neg greatest).trans (if_neg least)⟩
      rw [read]
      exact ⟨rfl, .inr ⟨rfl, normal_mantissa _⟩⟩

theorem bits_unique {number : UnpackedFloat} (isNumber : number ≠ .notANumber)
    (ofLeft : Unpacks left number) (ofRight : Unpacks right number) : left = right := by
  cases number with
  | notANumber => exact absurd rfl isNumber
  | infinity sign => exact ofLeft.trans ofRight.symm
  | zero sign => exact ofLeft.trans ofRight.symm
  | finite sign mantissa exponent =>
      obtain ⟨leftSign, leftFields⟩ := ofLeft
      obtain ⟨rightSign, rightFields⟩ := ofRight
      have sameSign := sign_ofBitVec_injective (leftSign.trans rightSign.symm)
      have leftSmall := (unpackMantissa left).isLt
      have rightSmall := (unpackMantissa right).isLt
      rw [← Nat.one_shiftLeft] at leftSmall rightSmall
      rcases leftFields with ⟨leftExponent, leftMantissa⟩ | ⟨leftExponent, leftMantissa⟩ <;>
        rcases rightFields with ⟨rightExponent, rightMantissa⟩ | ⟨rightExponent, rightMantissa⟩
      · exact bits_eq_of_fields sameSign (leftExponent.trans rightExponent.symm)
          (BitVec.eq_of_toNat_eq (leftMantissa.symm.trans rightMantissa))
      -- A mantissa with a bit in front of it is larger than any without.
      · omega
      · omega
      · exact bits_eq_of_fields sameSign (BitVec.eq_of_toNat_eq (by omega))
          (BitVec.eq_of_toNat_eq (by omega))

/-- Numbers are equal when their bits are, and so are the two zeros. -/
theorem bits_eq_of_compare (same : (unpack format left).compare (unpack format right) = some .eq) :
    left = right ∨ ∃ leftSign rightSign,
      left = packedZero format leftSign ∧ right = packedZero format rightSign := by
  have ofLeft := unpacks_unpack left
  have ofRight := unpacks_unpack right
  rcases unpacked_eq_of_compare same with
    ⟨unpacked, isNumber⟩ | ⟨leftSign, rightSign, leftZero, rightZero⟩
  · rw [← unpacked] at ofRight
    exact .inl (bits_unique isNumber ofLeft ofRight)
  · rw [leftZero] at ofLeft
    rw [rightZero] at ofRight
    exact .inr ⟨leftSign, rightSign, ofLeft, ofRight⟩

end Packed

theorem compare_of_double_beq {left right : Float} (same : (left == right) = true) :
    left.toModel.unpack.compare right.toModel.unpack = some .eq := by
  have equal : (left.toModel.unpack.compare right.toModel.unpack == some .eq) = true := same
  exact eq_of_beq equal

theorem compare_of_double_lt {left right : Float} (less : left < right) :
    left.toModel.unpack.compare right.toModel.unpack = some .lt := by
  have below : (left.toModel.unpack.compare right.toModel.unpack == some .lt) = true :=
    of_decide_eq_true less
  exact eq_of_beq below

theorem compare_of_single_beq {left right : Float32} (same : (left == right) = true) :
    left.toModel.unpack.compare right.toModel.unpack = some .eq := by
  have equal : (left.toModel.unpack.compare right.toModel.unpack == some .eq) = true := same
  exact eq_of_beq equal

theorem compare_of_single_lt {left right : Float32} (less : left < right) :
    left.toModel.unpack.compare right.toModel.unpack = some .lt := by
  have below : (left.toModel.unpack.compare right.toModel.unpack == some .lt) = true :=
    of_decide_eq_true less
  exact eq_of_beq below

/-- A comparison that asks for less first finds equal what is equal and not less. -/
theorem order_eq_iff {isLess isGreater : Prop} [Decidable isLess] [Decidable isGreater]
    {same : Bool} (apart : same = true → ¬ isLess) :
    (if isLess then some .lt else if same then some .eq
      else if isGreater then some .gt else none) = some Ordering.eq ↔ same = true := by
  constructor
  · intro order
    split at order
    · cases order
    · split at order
      · assumption
      · split at order <;> cases order
  · intro isSame
    rw [if_neg (apart isSame), if_pos isSame]

theorem doubleOrder_eq_iff (left right : Float) :
    doubleOrder left right = some .eq ↔ (left == right) = true := by
  apply order_eq_iff
  intro same less
  cases (compare_of_double_lt less).symm.trans (compare_of_double_beq same)

theorem singleOrder_eq_iff (left right : Float32) :
    singleOrder left right = some .eq ↔ (left == right) = true := by
  apply order_eq_iff
  intro same less
  cases (compare_of_single_lt less).symm.trans (compare_of_single_beq same)

theorem double_eq_of_toBits {left right : Float} (bits : left.toBits = right.toBits) :
    left = right := by
  obtain ⟨⟨leftBits, leftValid⟩⟩ := left
  obtain ⟨⟨rightBits, rightValid⟩⟩ := right
  obtain rfl : leftBits = rightBits := bits
  rfl

theorem single_eq_of_toBits {left right : Float32} (bits : left.toBits = right.toBits) :
    left = right := by
  obtain ⟨⟨leftBits, leftValid⟩⟩ := left
  obtain ⟨⟨rightBits, rightValid⟩⟩ := right
  obtain rfl : leftBits = rightBits := bits
  rfl

theorem double_eq_of_beq {left right : Float} (same : (left == right) = true) :
    left = right ∨ ∃ leftSign rightSign, left.toBits.toBitVec = packedZero .binary64 leftSign ∧
      right.toBits.toBitVec = packedZero .binary64 rightSign :=
  (bits_eq_of_compare (compare_of_double_beq same)).imp_left fun bits =>
    double_eq_of_toBits (UInt64.toBitVec_inj.mp bits)

theorem single_eq_of_beq {left right : Float32} (same : (left == right) = true) :
    left = right ∨ ∃ leftSign rightSign, left.toBits.toBitVec = packedZero .binary32 leftSign ∧
      right.toBits.toBitVec = packedZero .binary32 rightSign :=
  (bits_eq_of_compare (compare_of_single_beq same)).imp_left fun bits =>
    single_eq_of_toBits (UInt32.toBitVec_inj.mp bits)

theorem doubleDatum_zero {number : Float} {sign : Sign}
    (bits : number.toBits.toBitVec = packedZero .binary64 sign) :
    doubleDatum number = .finite (sign == .negative) 0 (-1074) := by
  have read : doubleDatum number =
      BinaryFormat.double.decode (packedZero Format.binary64 sign).toNat := by
    rw [← bits]
    rfl
  rw [read]
  cases sign <;> rfl

theorem singleDatum_zero {number : Float32} {sign : Sign}
    (bits : number.toBits.toBitVec = packedZero .binary32 sign) :
    singleDatum number = .finite (sign == .negative) 0 (-149) := by
  have read : singleDatum number =
      BinaryFormat.single.decode (packedZero Format.binary32 sign).toNat := by
    rw [← bits]
    rfl
  rw [read]
  cases sign <;> rfl

end Formula.Number
