import Mathlib.Data.Rat.Floor
import Formula.Decimal.Basic

/-!
The value of a decimal number, and what is left of it without its places: the integer next to it
on the side of zero.
-/

namespace Formula

/-- The integer next to a number on the side of zero. -/
def towardZero (number : ℚ) : Int :=
  if number < 0 then ⌈number⌉ else ⌊number⌋

theorem towardZero_of_nonneg {number : ℚ} (nonneg : 0 ≤ number) : towardZero number = ⌊number⌋ :=
  if_neg (not_lt.mpr nonneg)

theorem towardZero_neg (number : ℚ) : towardZero (-number) = -towardZero number := by
  unfold towardZero
  rcases lt_trichotomy number 0 with below | rfl | above
  · rw [if_neg (not_lt.mpr (neg_nonneg.mpr below.le)), if_pos below, Int.floor_neg]
  · rfl
  · rw [if_pos (neg_neg_of_pos above), if_neg (not_lt.mpr above.le), Int.ceil_neg]

theorem towardZero_div (numerator denominator : Nat) :
    towardZero (numerator / denominator : ℚ) = (numerator / denominator : Nat) := by
  rw [towardZero_of_nonneg (by positivity)]
  exact Rat.floor_natCast_div_natCast numerator denominator

theorem towardZero_intCast (integer : Int) : towardZero integer = integer := by
  unfold towardZero
  rw [Int.ceil_intCast, Int.floor_intCast, ite_self]

namespace Decimal

def value (number : Decimal) : ℚ :=
  number.signed / 10 ^ number.scale

theorem toInt_eq_towardZero (number : Decimal) : number.toInt = towardZero number.value := by
  have power : ((Nat.pow 10 number.scale : Nat) : ℚ) = 10 ^ number.scale := Nat.cast_pow 10 _
  have magnitude := towardZero_div number.coefficient (Nat.pow 10 number.scale)
  rw [power] at magnitude
  unfold toInt value
  cases sign : number.negative with
  | false =>
      have plain : number.signed = number.coefficient := by
        unfold signed
        rw [sign, if_neg Bool.false_ne_true]
      have cut : number.truncate.signed = (number.coefficient / Nat.pow 10 number.scale : Nat) := by
        unfold signed truncate whole
        rw [sign, if_neg Bool.false_ne_true]
      rw [plain, cut, Int.cast_natCast, magnitude]
  | true =>
      have plain : number.signed = -(number.coefficient : Int) := by
        unfold signed
        rw [sign, if_pos rfl]
      have cut : number.truncate.signed =
          -((number.coefficient / Nat.pow 10 number.scale : Nat) : Int) := by
        unfold signed truncate whole
        rw [sign, if_pos rfl]
      rw [plain, cut, Int.cast_neg, Int.cast_natCast, neg_div, towardZero_neg, magnitude]

theorem ofInt?_of_natAbs_lt {integer : Int} (fits : integer.natAbs < 1 <<< 96) :
    ∃ number, ofInt? integer = some number ∧ number.value = integer := by
  refine ⟨_, dif_pos ⟨fits, by decide⟩, ?_⟩
  have signed : (if (decide (integer < 0) && integer.natAbs != 0) = true then
      -(integer.natAbs : Int) else integer.natAbs) = integer := by
    by_cases negative : integer < 0
    · have nonzero : integer.natAbs ≠ 0 := by omega
      rw [decide_eq_true negative, bne_iff_ne.mpr nonzero, Bool.and_self, if_pos rfl]
      omega
    · rw [decide_eq_false negative, Bool.false_and, if_neg Bool.false_ne_true]
      omega
  change ((if _ then _ else _ : Int) : ℚ) / 10 ^ 0 = integer
  rw [pow_zero, div_one, signed]

end Decimal

end Formula
