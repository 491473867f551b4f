import Formula.Proofs.Number.Binary
import Formula.Proofs.Soundness.Operators

/-!
Equality as an operator and as a method. The operator goes by the order of numbers, characters
and enumeration values and by sameness of anything else; both come to the same answer on all
values but enumeration values of different types, which the operator compares by their bits.
-/

namespace Formula

namespace Value

/-- Enumeration values of different types with the same bits. -/
def coincides : Value → Value → Bool
  | enumeration leftType leftBits, enumeration rightType rightBits =>
      leftType != rightType && leftBits == rightBits
  | _, _ => false

theorem same_or_coincides {left right : Value} (apart : left.coincides right = false) :
    (left.same right || left.coincides right) = left.same right := by
  rw [apart, Bool.or_false]

theorem enumeration_same_or_coincides (leftType rightType : TypeId) (leftBits rightBits : Int64) :
    ((enumeration leftType leftBits).same (enumeration rightType rightBits) ||
      (enumeration leftType leftBits).coincides (enumeration rightType rightBits)) =
        (leftBits == rightBits) := by
  change ((leftType == rightType && leftBits == rightBits) ||
    (!(leftType == rightType) && leftBits == rightBits)) = (leftBits == rightBits)
  cases leftType == rightType
  · rw [Bool.false_and, Bool.false_or, Bool.not_false, Bool.true_and]
  · rw [Bool.true_and, Bool.not_true, Bool.false_and, Bool.or_false]

end Value

namespace BinaryOperator

variable {operator : BinaryOperator}

def answer (operator : BinaryOperator) (areEqual : Bool) : Outcome Value :=
  .ok (.boolean (areEqual == (operator == equal)))

theorem answer_equal (areEqual : Bool) : equal.answer areEqual = .ok (.boolean areEqual) := by
  cases areEqual <;> rfl

theorem answer_notEqual (areEqual : Bool) :
    notEqual.answer areEqual = .ok (.boolean !areEqual) := by
  cases areEqual <;> rfl

theorem isEquality_cases (isEquality : operator.isEquality = true) :
    operator = equal ∨ operator = notEqual := by
  cases operator <;> first | cases isEquality; done | exact .inl rfl | exact .inr rfl

theorem onOrder_answer (isEquality : operator.isEquality = true) {order : Option Ordering}
    {areEqual : Bool} (agrees : order = some .eq ↔ areEqual = true) :
    operator.onOrder order = operator.answer areEqual := by
  have isEqual : areEqual = (order == some .eq) := by
    rw [Bool.eq_iff_iff, ← agrees, beq_iff_eq]
  rw [isEqual]
  rcases isEquality_cases isEquality with rfl | rfl
  · rcases order with _ | _ | _ | _ <;> rfl
  · rcases order with _ | _ | _ | _ <;> rfl

theorem onIntegers_answer (isEquality : operator.isEquality = true) (left right : Integer) :
    operator.onIntegers left right = operator.answer (left.value == right.value) := by
  rw [onIntegers_comparison (isComparison_of_equality isEquality)]
  apply onOrder_answer isEquality
  rw [Option.some_inj, Int.compare_eq_eq, beq_iff_eq]

theorem onDoubles_answer (isEquality : operator.isEquality = true) (left right : Float) :
    operator.onDoubles left right = operator.answer (left == right) := by
  have onOrder : operator.onDoubles left right =
      operator.onOrder (Number.doubleOrder left right) := by
    rcases isEquality_cases isEquality with rfl | rfl <;> rfl
  rw [onOrder]
  exact onOrder_answer isEquality (Number.doubleOrder_eq_iff left right)

theorem onSingles_answer (isEquality : operator.isEquality = true) (left right : Float32) :
    operator.onSingles left right = operator.answer (left == right) := by
  have onOrder : operator.onSingles left right =
      operator.onOrder (Number.singleOrder left right) := by
    rcases isEquality_cases isEquality with rfl | rfl <;> rfl
  rw [onOrder]
  exact onOrder_answer isEquality (Number.singleOrder_eq_iff left right)

theorem onDecimals_answer (isEquality : operator.isEquality = true) (left right : Decimal) :
    operator.onDecimals left right = operator.answer (left.same right) := by
  rw [onDecimals_comparison (isComparison_of_equality isEquality)]
  apply onOrder_answer isEquality
  unfold Decimal.same
  rw [Option.some_inj, beq_iff_eq]

theorem onTruthValues_answer (isEquality : operator.isEquality = true) (left right : Bool) :
    operator.onTruthValues left right = operator.answer (left == right) := by
  rcases isEquality_cases isEquality with rfl | rfl
  · cases left <;> cases right <;> rfl
  · cases left <;> cases right <;> rfl

theorem onReferences_answer (isEquality : operator.isEquality = true) (left right : Value) :
    operator.onReferences left right = operator.answer (left.same right) :=
  if_pos isEquality

theorem onScalars_answer (isEquality : operator.isEquality = true) (left right : Value) :
    operator.onScalars left right =
      operator.answer (left.same right || left.coincides right) := by
  unfold onScalars
  split
  · next left right =>
      rw [Value.same_or_coincides rfl]
      split
      · next sameKind =>
          rw [onIntegers_answer isEquality, Value.same, sameKind, beq_self_eq_true,
            Bool.true_and]
      · exact onReferences_answer isEquality _ _
  · next left right =>
      rw [Value.same_or_coincides rfl]
      exact onSingles_answer isEquality left right
  · next left right =>
      rw [Value.same_or_coincides rfl]
      exact onDoubles_answer isEquality left right
  · next left right =>
      rw [Value.same_or_coincides rfl]
      exact onDecimals_answer isEquality left right
  · next left right =>
      rw [Value.same_or_coincides rfl]
      exact onTruthValues_answer isEquality left right
  · next left right =>
      rw [Value.same_or_coincides rfl]
      apply onOrder_answer isEquality
      rw [Option.some_inj, Nat.compare_eq_eq, Value.same, beq_iff_eq, Char.toNat_inj]
  -- Here the operator does not look at the types.
  · next leftType leftBits rightType rightBits =>
      rw [if_pos (isComparison_of_equality isEquality), Value.enumeration_same_or_coincides]
      apply onOrder_answer isEquality
      rw [Option.some_inj, Int.compare_eq_eq, Int64.toInt_inj, beq_iff_eq]
  · next notEnumerations =>
      have apart : left.coincides right = false := by
        unfold Value.coincides
        split
        · exact absurd rfl (notEnumerations _ _ _ _ rfl)
        · rfl
      rw [Value.same_or_coincides apart]
      exact onReferences_answer isEquality left right

theorem apply_of_isEquality (isEquality : operator.isEquality = true) (left right : Value) :
    operator.apply left right = operator.onScalars left right := by
  rcases isEquality_cases isEquality with rfl | rfl <;> rfl

/-- The equality operators tell whether two values are the same, the way the methods do that
compare values, or coincide. -/
theorem equality_apply (left right : Value) :
    equal.apply left right = .ok (.boolean (left.same right || left.coincides right)) ∧
      notEqual.apply left right =
        .ok (.boolean !(left.same right || left.coincides right)) := by
  constructor
  · rw [apply_of_isEquality rfl, onScalars_answer rfl, answer_equal]
  · rw [apply_of_isEquality rfl, onScalars_answer rfl, answer_notEqual]

/-- A value of one enumeration and a value of another. -/
example :
    (Value.enumeration ⟨1⟩ 8).same (.enumeration ⟨2⟩ 8) = false ∧
      (Value.enumeration ⟨1⟩ 8).coincides (.enumeration ⟨2⟩ 8) = true := by
  decide

end BinaryOperator

end Formula
