import Formula.Decimal.Arithmetic
import Formula.Proofs.Decimal.Truncation
import Mathlib.Algebra.Order.Ring.Int
import Mathlib.Data.Rat.Cast.Order
import Mathlib.Tactic.FieldSimp
import Mathlib.Tactic.Linarith

/-!
Rounding to the nearest integer. Of two integers that are equally near, the even one counts as
the nearest; so there is just one to every number, and rounding finds it.
-/

namespace Formula

/-- No integer is nearer to the number, and the integer is even where another is as near. -/
structure IsNearest (number : ℚ) (integer : Int) : Prop where
  near : |number - integer| ≤ 1 / 2
  even : |number - integer| = 1 / 2 → integer % 2 = 0

variable {number : ℚ} {integer other : Int}

theorem isNearest_intCast (integer : Int) : IsNearest integer integer where
  near := by simp
  even half := by norm_num at half

theorem IsNearest.neg (nearest : IsNearest number integer) : IsNearest (-number) (-integer) := by
  have distance : |-number - (-integer : Int)| = |number - integer| := by
    rw [Int.cast_neg, neg_sub_neg, abs_sub_comm]
  constructor
  · rw [distance]
    exact nearest.near
  · intro half
    have even := nearest.even (distance.symm.trans half)
    omega

theorem IsNearest.not_lt (nearest : IsNearest number integer)
    (nearestOther : IsNearest number other) : ¬integer < other := by
  intro less
  have above := abs_le.mp nearest.near
  have below := abs_le.mp nearestOther.near
  have step : (integer : ℚ) + 1 ≤ other := by exact_mod_cast less
  -- The number is half way between neighbours, of which one is odd.
  have neighbours : other = integer + 1 := by
    have close : (other : ℚ) ≤ integer + 1 := by linarith
    exact le_antisymm (by exact_mod_cast close) less
  have even := nearest.even (by rw [abs_of_nonneg] <;> linarith)
  have evenOther := nearestOther.even (by rw [abs_of_nonpos] <;> linarith)
  omega

theorem IsNearest.unique (nearest : IsNearest number integer)
    (nearestOther : IsNearest number other) : integer = other :=
  le_antisymm (Int.not_lt.mp (nearestOther.not_lt nearest))
    (Int.not_lt.mp (nearest.not_lt nearestOther))

/-- The nearest integer to a ratio by what remains, which may be negative. -/
theorem isNearest_div {numerator denominator : Nat} {rest : Int} (positive : 0 < denominator)
    (parts : (numerator : Int) = integer * denominator + rest)
    (near : 2 * rest.natAbs ≤ denominator)
    (even : 2 * rest.natAbs = denominator → integer % 2 = 0) :
    IsNearest (numerator / denominator) integer := by
  have positiveCast : (0 : ℚ) < denominator := Nat.cast_pos.mpr positive
  have partsCast : (numerator : ℚ) = integer * denominator + rest := by exact_mod_cast parts
  have distance : |(numerator / denominator : ℚ) - integer| = (rest.natAbs : ℚ) / denominator := by
    have apart : (numerator / denominator : ℚ) - integer = rest / denominator := by
      rw [partsCast, add_div, mul_div_cancel_right₀ _ positiveCast.ne', add_sub_cancel_left]
    rw [apart, abs_div, abs_of_pos positiveCast, Nat.cast_natAbs, Int.cast_abs]
  constructor
  · rw [distance, div_le_div_iff₀ positiveCast two_pos, one_mul, mul_comm]
    exact_mod_cast near
  · intro half
    rw [distance, div_eq_div_iff positiveCast.ne' two_ne_zero, one_mul, mul_comm] at half
    exact even (by exact_mod_cast half)

theorem isNearest_roundHalfEven (numerator : Nat) {denominator : Nat}
    (positive : 0 < denominator) :
    IsNearest (numerator / denominator) (roundHalfEven numerator denominator) := by
  have parts : (denominator : Int) * (numerator / denominator : Nat) +
      (numerator % denominator : Nat) = numerator := by
    exact_mod_cast Nat.div_add_mod numerator denominator
  have small := Nat.mod_lt numerator positive
  unfold roundHalfEven
  generalize numerator / denominator = quotient at parts ⊢
  generalize numerator % denominator = rest at parts small ⊢
  by_cases up : denominator < 2 * rest ∨ denominator = 2 * rest ∧ quotient % 2 = 1
  · rw [if_pos (by simpa using up)]
    have missing : (numerator : Int) =
        (quotient + 1 : Nat) * denominator + ((rest : Int) - denominator) := by
      rw [Nat.cast_add, Nat.cast_one, add_mul, mul_comm]
      omega
    apply isNearest_div positive missing <;> omega
  · rw [if_neg (by simpa using up)]
    have remaining : (numerator : Int) = quotient * denominator + (rest : Int) := by
      rw [mul_comm]
      omega
    apply isNearest_div positive remaining <;> omega

namespace Decimal

theorem value_of_scale_eq_zero {number : Decimal} (noPlaces : number.scale = 0) :
    number.value = number.signed := by
  rw [Decimal.value, noPlaces, pow_zero, div_one]

theorem toInt_of_scale_eq_zero {number : Decimal} (noPlaces : number.scale = 0) :
    number.toInt = number.signed := by
  rw [toInt_eq_towardZero, value_of_scale_eq_zero noPlaces, towardZero_intCast]

theorem isNearest_round (number : Decimal) : IsNearest number.value number.round.toInt := by
  by_cases noPlaces : number.scale = 0
  · rw [Decimal.round, dif_pos noPlaces, toInt_of_scale_eq_zero noPlaces,
      value_of_scale_eq_zero noPlaces]
    exact isNearest_intCast _
  · have power : ((Nat.pow 10 number.scale : Nat) : ℚ) = 10 ^ number.scale := Nat.cast_pow 10 _
    have positive : 0 < Nat.pow 10 number.scale := Nat.pow_pos (Nat.succ_pos 9)
    have magnitude := isNearest_roundHalfEven number.coefficient positive
    rw [power] at magnitude
    rw [Decimal.round, dif_neg noPlaces, toInt_of_scale_eq_zero rfl]
    unfold Decimal.value signed whole
    cases number.negative with
    | false => simpa using magnitude
    | true => simpa [neg_div] using magnitude.neg

end Decimal

end Formula
