import Mathlib.Data.Int.ModEq
import Mathlib.Tactic.Linarith
import Formula.Evaluation.Arithmetic

/-!
Integers of a kind as residues and as bits: wrapping keeps the residue modulo two to the width
and leaves alone what the kind holds, quotients and remainders stay within the kind but for one
pair of operands, and operations on bits are those on vectors of bits.
-/

namespace Formula

namespace IntegerKind

theorem modulus_eq (kind : IntegerKind) : kind.modulus = 2 ^ kind.width := by
  unfold modulus
  rw [Nat.one_shiftLeft]

theorem modulus_cast (kind : IntegerKind) : (kind.modulus : Int) = 2 ^ kind.width := by
  rw [modulus_eq]
  norm_cast

theorem wrap_modEq (kind : IntegerKind) (value : Int) :
    kind.wrap value ≡ value [ZMOD 2 ^ kind.width] := by
  rw [← modulus_cast]
  unfold wrap
  split
  · exact Int.bmod_emod
  · exact Int.mod_modEq value kind.modulus

theorem holds_iff (kind : IntegerKind) (value : Int) :
    kind.Holds value ↔
      if kind.isSigned then -(kind.modulus / 2 : Nat) ≤ value ∧ value < (kind.modulus / 2 : Nat)
      else 0 ≤ value ∧ value < kind.modulus := by
  unfold Holds least greatest
  split
  · constructor <;> intro bounds <;> omega
  · constructor <;> intro bounds <;> omega

theorem holds_of_nonneg {kind : IntegerKind} {value : Int} (nonneg : 0 ≤ value)
    (fits : value ≤ kind.greatest) : kind.Holds value := by
  refine ⟨?_, fits⟩
  unfold least
  split <;> omega

theorem modulus_even (kind : IntegerKind) : kind.modulus = 2 * (kind.modulus / 2) := by
  cases kind <;> rfl

theorem wrap_of_holds {kind : IntegerKind} {value : Int} (holds : kind.Holds value) :
    kind.wrap value = value := by
  have even := kind.modulus_even
  rw [holds_iff] at holds
  unfold wrap
  split at holds
  · rename_i signed
    rw [if_pos signed]
    apply Int.bmod_eq_of_le
    · omega
    · omega
  · rename_i unsigned
    rw [if_neg unsigned]
    exact Int.emod_eq_of_lt holds.1 holds.2

theorem eq_of_modEq {kind : IntegerKind} {left right : Int} (holdsLeft : kind.Holds left)
    (holdsRight : kind.Holds right) (congruent : left ≡ right [ZMOD 2 ^ kind.width]) :
    left = right := by
  rw [← modulus_cast] at congruent
  rw [← wrap_of_holds holdsLeft, ← wrap_of_holds holdsRight]
  unfold wrap
  split
  · rw [← Int.emod_bmod, congruent.eq, Int.emod_bmod]
  · exact congruent

/-- A number wraps to whatever number of the kind has its residue. -/
theorem wrap_eq_of_modEq {kind : IntegerKind} {left right : Int} (holds : kind.Holds right)
    (congruent : left ≡ right [ZMOD 2 ^ kind.width]) : kind.wrap left = right :=
  eq_of_modEq (kind.holds_wrap left) holds ((kind.wrap_modEq left).trans congruent)

theorem wrap_congr {kind : IntegerKind} {left right : Int}
    (congruent : left ≡ right [ZMOD 2 ^ kind.width]) : kind.wrap left = kind.wrap right :=
  wrap_eq_of_modEq (kind.holds_wrap right) (congruent.trans (kind.wrap_modEq right).symm)

theorem width_le (kind : IntegerKind) : kind.width ≤ 64 := by
  cases kind <;> decide

theorem natAbs_lt_of_holds {kind : IntegerKind} {value : Int} (holds : kind.Holds value) :
    value.natAbs < 2 ^ 64 := by
  have modulus : kind.modulus ≤ 2 ^ 64 := by
    rw [modulus_eq]
    exact Nat.pow_le_pow_right Nat.two_pos kind.width_le
  rw [holds_iff] at holds
  split at holds <;> omega

theorem toInt_ofInt_modEq (value : Int) : (Int64.ofInt value).toInt ≡ value [ZMOD 2 ^ 64] := by
  rw [Int64.toInt_ofInt]
  exact Int.bmod_emod

/-- A number that is kept in 64 bits loses nothing that a kind has of it. -/
theorem wrap_toInt_ofInt (kind : IntegerKind) (value : Int) :
    kind.wrap (Int64.ofInt value).toInt = kind.wrap value :=
  wrap_congr ((toInt_ofInt_modEq value).of_dvd (pow_dvd_pow 2 kind.width_le))

theorem holds_tdiv_iff {kind : IntegerKind} {left right : Int} (holdsLeft : kind.Holds left)
    (holdsRight : kind.Holds right) (nonzero : right ≠ 0) :
    kind.Holds (left.tdiv right) ↔
      ¬(kind.isSigned = true ∧ left = kind.least ∧ right = -1) := by
  have magnitude : (left.tdiv right).natAbs = left.natAbs / right.natAbs :=
    Int.natAbs_tdiv left right
  have even := kind.modulus_even
  rw [holds_iff] at holdsLeft holdsRight ⊢
  unfold least
  by_cases signed : kind.isSigned = true
  · simp only [signed, if_true, true_and] at holdsLeft holdsRight ⊢
    by_cases minusOne : right = -1
    · have negated : left.tdiv right = -left := by
        rw [minusOne, Int.tdiv_neg, Int.tdiv_one]
      omega
    · by_cases one : right = 1
      · have same : left.tdiv right = left := by rw [one, Int.tdiv_one]
        omega
      · have atMostHalf : left.natAbs / right.natAbs ≤ left.natAbs / 2 :=
          Nat.div_le_div_left (by omega) (by omega)
        omega
  · rw [if_neg signed] at holdsLeft holdsRight ⊢
    refine iff_of_true ?_ (fun exception => signed exception.1)
    have nonneg := Int.tdiv_nonneg holdsLeft.1 holdsRight.1
    have atMost := Nat.div_le_self left.natAbs right.natAbs
    exact ⟨nonneg, by omega⟩

theorem holds_tmod {kind : IntegerKind} {left right : Int} (holdsLeft : kind.Holds left)
    (holdsRight : kind.Holds right) (nonzero : right ≠ 0) :
    kind.Holds (left.tmod right) := by
  have magnitude : (left.tmod right).natAbs = left.natAbs % right.natAbs :=
    Int.natAbs_tmod left right
  have below : left.natAbs % right.natAbs < right.natAbs := Nat.mod_lt _ (by omega)
  rw [holds_iff] at holdsLeft holdsRight ⊢
  by_cases signed : kind.isSigned = true
  · rw [if_pos signed] at holdsLeft holdsRight ⊢
    omega
  · rw [if_neg signed] at holdsLeft holdsRight ⊢
    have nonneg := Int.tmod_nonneg right holdsLeft.1
    exact ⟨nonneg, by omega⟩

end IntegerKind

namespace Integer

theorem wrap_value (integer : Integer) : wrap integer.kind integer.value = integer := by
  unfold wrap
  congr 1
  exact IntegerKind.wrap_of_holds integer.holds

theorem wrap_congr {kind : IntegerKind} {left right : Int}
    (congruent : left ≡ right [ZMOD 2 ^ kind.width]) : wrap kind left = wrap kind right := by
  unfold wrap
  congr 1
  exact IntegerKind.wrap_congr congruent

theorem bits_eq_toNat (integer : Integer) :
    integer.bits = (BitVec.ofInt integer.kind.width integer.value).toNat := by
  unfold bits
  rw [BitVec.toNat_ofInt, IntegerKind.modulus_eq]

theorem ofInt_wrap (kind : IntegerKind) (value : Int) :
    BitVec.ofInt kind.width (kind.wrap value) = BitVec.ofInt kind.width value := by
  apply BitVec.eq_of_toNat_eq
  rw [BitVec.toNat_ofInt, BitVec.toNat_ofInt]
  have congruent := kind.wrap_modEq value
  have cast : ((2 ^ kind.width : Nat) : Int) = 2 ^ kind.width := by norm_cast
  rw [cast, congruent.eq]

/-- An operation on the bits of two integers is one on vectors of bits, if it is the same on
natural numbers. -/
theorem bitwise_ofInt {natural : Nat → Nat → Nat}
    {vectors : {width : Nat} → BitVec width → BitVec width → BitVec width}
    (agree : ∀ {width : Nat} (one other : BitVec width),
      (vectors one other).toNat = natural one.toNat other.toNat)
    {left right : Integer} (sameKind : right.kind = left.kind) :
    BitVec.ofInt left.kind.width (left.bitwise natural right).value =
      vectors (BitVec.ofInt left.kind.width left.value)
        (BitVec.ofInt left.kind.width right.value) := by
  unfold bitwise wrap
  rw [ofInt_wrap, BitVec.ofInt_natCast]
  apply BitVec.eq_of_toNat_eq
  rw [agree, BitVec.toNat_ofNat, bits_eq_toNat, bits_eq_toNat, sameKind, ← agree]
  exact Nat.mod_eq_of_lt (BitVec.isLt _)

end Integer

end Formula
