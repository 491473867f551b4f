import Formula.Proofs.Evaluation.IntegerOperators
import Formula.Proofs.Typing.NullConstants
import Formula.Proofs.Typing.Shifts

/-!
Shifts compute with integers. A shift to the left multiplies by a power of two, as far as the kind
has the product, and one to the right divides by it, rounded down. The one that fills with zeros
divides the bits of the operand, read without a sign. The count is taken modulo the width, so that
a negative one counts from the other end.
-/

namespace Formula

namespace IntegerKind

def places (kind : IntegerKind) (count : Int) : Nat :=
  (count % kind.width).toNat

theorem holds_zero (kind : IntegerKind) : kind.Holds 0 := by
  cases kind <;> decide

/-- A quotient that is rounded down lies between the dividend and zero, or one below. -/
theorem holds_ediv {kind : IntegerKind} {value divisor : Int} (holds : kind.Holds value)
    (positive : 0 < divisor) : kind.Holds (value / divisor) := by
  obtain ⟨atLeast, atMost⟩ := holds
  obtain ⟨zeroAtLeast, zeroAtMost⟩ := kind.holds_zero
  by_cases negative : value < 0
  · have below : value / divisor < 0 := Int.ediv_neg_of_neg_of_pos negative positive
    have above : value ≤ value / divisor := by
      rw [Int.le_ediv_iff_mul_le positive]
      nlinarith
    exact ⟨by omega, by omega⟩
  · have above : 0 ≤ value / divisor := Int.ediv_nonneg (by omega) positive.le
    have below : value / divisor ≤ value := Int.ediv_le_self _ (by omega)
    exact ⟨by omega, by omega⟩

theorem wrap_unsigned (kind : IntegerKind) (value : Int) :
    kind.unsigned.wrap value = value % 2 ^ kind.width := by
  have noSign : kind.unsigned.isSigned = false := by cases kind <;> rfl
  unfold wrap
  rw [noSign, if_neg Bool.false_ne_true, modulus_cast, width_unsigned]

theorem emod_of_unsigned {kind : IntegerKind} (noSign : kind.isSigned = false) {value : Int}
    (holds : kind.Holds value) : value % 2 ^ kind.width = value := by
  have wrapped := wrap_of_holds holds
  unfold wrap at wrapped
  rwa [noSign, if_neg Bool.false_ne_true, modulus_cast] at wrapped

end IntegerKind

namespace BinaryOperator

/-- What a shift should make of an integer of a kind and a count. -/
def Shifts (operator : BinaryOperator) (kind : IntegerKind) (number count : Int)
    (outcome : Outcome Value) : Prop :=
  match operator with
  | shiftLeft => kind.Wraps (number * 2 ^ kind.places count) outcome
  | shiftRight => kind.Gives (number / 2 ^ kind.places count) outcome
  | shiftRightZero => kind.Wraps (number % 2 ^ kind.width / 2 ^ kind.places count) outcome
  | _ => False

theorem shifts_onShift {operator : BinaryOperator}
    (defined : operator = .shiftLeft ∨ operator = .shiftRight) (integer : Integer) (count : Int) :
    operator.Shifts integer.kind integer.value count (operator.onShift integer count) := by
  have power : ((1 <<< integer.shiftCount count : Nat) : Int) =
      2 ^ integer.kind.places count := by
    rw [Nat.one_shiftLeft]
    push_cast
    rfl
  unfold onShift
  dsimp only
  rw [power]
  rcases defined with rfl | rfl
  · exact wraps_wrap integer.kind _
  · refine ⟨_, rfl, rfl, ?_⟩
    exact IntegerKind.wrap_of_holds (IntegerKind.holds_ediv integer.holds (by positivity))

end BinaryOperator

namespace Setting

variable {setting : Setting} {site : List Nat}

theorem evaluate_shift {operator : BinaryOperator}
    (defined : operator = .shiftLeft ∨ operator = .shiftRight) {left right : Term}
    {kind : IntegerKind} {number count : Int} (holdsNumber : kind.Holds number)
    (holdsCount : IntegerKind.int32.Holds count)
    (evaluatedLeft : setting.evaluate (0 :: site) left = .ok (.integer (.wrap kind number)))
    (evaluatedRight : setting.evaluate (1 :: site) right = .ok (.integer (.wrap .int32 count)))
    (type : DataType) :
    operator.Shifts kind number count
      (setting.evaluate site (.binary operator left right type)) := by
  have shifts := BinaryOperator.shifts_onShift defined (.wrap kind number) count
  change operator.Shifts kind (kind.wrap number) count _ at shifts
  rw [IntegerKind.wrap_of_holds holdsNumber] at shifts
  have applied : operator.apply (.integer (.wrap kind number)) (.integer (.wrap .int32 count)) =
      operator.onShift (.wrap kind number) (IntegerKind.int32.wrap count) := by
    rcases defined with rfl | rfl <;> rfl
  rw [IntegerKind.wrap_of_holds holdsCount] at applied
  rw [evaluate_operands (by rintro rfl; simp at defined) (by rintro rfl; simp at defined) type
    evaluatedLeft evaluatedRight]
  exact applied ▸ shifts

end Setting

namespace Term

def siteOfShift (operator : BinaryOperator) (kind : IntegerKind) (site : List Nat) : List Nat :=
  if operator.hidesSign kind.widened then 0 :: site else site

def siteShifted (operand : Term) (operator : BinaryOperator) (kind : IntegerKind)
    (site : List Nat) : List Nat :=
  operand.siteUnder (.ofScalar (.integer kind.widened))
    (if operator.hidesSign kind.widened then 0 :: 0 :: siteOfShift operator kind site
      else 0 :: siteOfShift operator kind site)

def siteCounted (count : Term) (operator : BinaryOperator) (kind : IntegerKind)
    (site : List Nat) : List Nat :=
  count.siteUnder (.ofScalar (.integer .int32)) (1 :: siteOfShift operator kind site)

end Term

namespace Setting

variable {setting : Setting} {site : List Nat}

/-- Shifted without its sign and converted back, an integer is shifted with zeros. -/
theorem evaluate_zeroFill (holds : setting.catalog.HoldsPrimitives) {operand count : Term}
    {kind : IntegerKind} {number times : Int}
    (operandType : operand.type = .ofScalar (.integer kind))
    (holdsNumber : kind.Holds number) (holdsCount : IntegerKind.int32.Holds times)
    (evaluated : setting.evaluate (0 :: 0 :: 0 :: site) operand =
      .ok (.integer (.wrap kind number)))
    (counted : setting.evaluate (1 :: 0 :: site) count = .ok (.integer (.wrap .int32 times))) :
    BinaryOperator.shiftRightZero.Shifts kind number times
      (setting.evaluate site (.convert (.binary .shiftRight
        (.convert operand (.ofScalar (.integer kind.unsigned))) count
        (.ofScalar (.integer kind.unsigned))) (.ofScalar (.integer kind)))) := by
  have unsigned := evaluate_convert holds operandType kind.unsigned evaluated
    (Value.denotes_wrap holdsNumber)
  have holdsBits : kind.unsigned.Holds (number % 2 ^ kind.width) :=
    kind.wrap_unsigned number ▸ kind.unsigned.holds_wrap number
  have bits : Integer.wrap kind.unsigned number =
      .wrap kind.unsigned (number % 2 ^ kind.width) := by
    unfold Integer.wrap
    congr 1
    rw [IntegerKind.wrap_of_holds holdsBits, kind.wrap_unsigned]
  rw [bits] at unsigned
  obtain ⟨result, shifted, sameKind, exact⟩ := evaluate_shift (.inr rfl) holdsBits holdsCount
    unsigned counted (.ofScalar (.integer kind.unsigned))
  have back := evaluate_convert holds
    (show (Term.binary .shiftRight (.convert operand (.ofScalar (.integer kind.unsigned))) count
      (.ofScalar (.integer kind.unsigned))).type = .ofScalar (.integer kind.unsigned) from rfl) kind
    shifted ⟨congrArg (fun kind => some (Scalar.integer kind)) sameKind, rfl⟩
  have samePlaces : kind.unsigned.places times = kind.places times := by
    unfold IntegerKind.places
    rw [kind.width_unsigned]
  rw [exact, samePlaces] at back
  exact ⟨_, back, rfl, kind.wrap_modEq _⟩

theorem evaluate_shifted (holds : setting.catalog.HoldsPrimitives) {operator : BinaryOperator}
    (shift : operator.isShift = true) {operand count : Term} {kind countKind : IntegerKind}
    (operandType : operand.type = .ofScalar (.integer kind))
    (countType : count.type = .ofScalar (.integer countKind))
    (isCount : countKind ∈ IntegerKind.counts) {a n : Int}
    (denotes : setting.Denotes (operand.siteShifted operator kind site) operand (.integer kind) a)
    (counts : setting.Denotes (count.siteCounted operator kind site) count (.integer countKind) n) :
    operator.Shifts kind.widened a n
      (setting.evaluate site (.shifted operator kind operand count)) := by
  obtain ⟨value, evaluated, isNumber⟩ := denotes
  obtain ⟨times, evaluatedCount, isTimes⟩ := counts
  have holdsNumber : kind.widened.Holds a :=
    IntegerKind.holds_of_denotes kind.covers_widened isNumber
  have holdsCount : IntegerKind.int32.Holds n := by
    refine IntegerKind.holds_of_denotes ?_ isTimes
    revert isCount
    cases countKind <;> decide
  have wide := evaluate_convertTo holds operandType evaluated isNumber
  have counted : setting.evaluate (1 :: Term.siteOfShift operator kind site)
      (count.convertTo .int32) = .ok (.integer (.wrap .int32 n)) :=
    evaluate_convertTo holds countType evaluatedCount isTimes
  have wideType := operand.type_convertTo (.ofScalar (.integer kind.widened))
  unfold Term.siteOfShift at wide counted
  unfold Term.shifted
  dsimp only
  generalize operand.convertTo (.ofScalar (.integer kind.widened)) = wideOperand at *
  by_cases hides : operator.hidesSign kind.widened = true
  · obtain ⟨zeroFill, _⟩ := Bool.and_eq_true_iff.mp hides
    rw [beq_iff_eq] at zeroFill
    subst zeroFill
    simp only [hides, if_true] at wide counted ⊢
    exact evaluate_zeroFill holds wideType holdsNumber holdsCount wide counted
  · simp only [hides, Bool.false_eq_true, if_false] at wide counted ⊢
    by_cases zeroFill : operator = .shiftRightZero
    · subst zeroFill
      have noSign : kind.widened.isSigned = false := by
        rw [Bool.not_eq_true] at hides
        exact hides
      obtain ⟨result, shifted, sameKind, exact⟩ := evaluate_shift (.inr rfl) holdsNumber holdsCount
        wide counted (.ofScalar (.integer kind.widened))
      refine ⟨result, shifted, sameKind, ?_⟩
      rw [exact, IntegerKind.emod_of_unsigned noSign holdsNumber]
    · have defined : operator = .shiftLeft ∨ operator = .shiftRight := by
        cases operator with
        | shiftLeft => exact .inl rfl
        | shiftRight => exact .inr rfl
        | shiftRightZero => exact absurd rfl zeroFill
        | _ => cases shift
      rw [if_neg zeroFill]
      exact evaluate_shift defined holdsNumber holdsCount wide counted _

end Setting

namespace Scope

/-- Shifts compute with the integers that their operands stand for, and take no others. -/
structure ShiftsIntegers (scope : Scope) : Prop where
  shifts : ∀ {operator : BinaryOperator} {left right : Expr} {first second : Term}
    {kind count : IntegerKind}, operator.isShift = true →
    scope.Operand left first (.integer kind) → scope.Operand right second (.integer count) →
    count ∈ IntegerKind.counts →
    ∃ tree, scope.term (.binary operator.token left right) = .ok tree ∧
      tree.type = .ofScalar (.integer kind.widened) ∧
      ∀ (setting : Setting) (site : List Nat) (a n : Int), setting.catalog = scope.catalog →
        setting.Denotes (first.siteShifted operator kind site) first (.integer kind) a →
        setting.Denotes (second.siteCounted operator kind site) second (.integer count) n →
        operator.Shifts kind.widened a n (setting.evaluate site tree)
  refused : ∀ {operator : BinaryOperator} {left right : Expr} {first second : Term}
    {kind : Scalar}, operator.isShift = true → scope.term left = .ok first →
    first.type = .ofScalar kind → scope.term right = .ok second →
    scope.catalog.underlying? second.type = none → ¬Catalog.Shiftable kind second.type →
    scope.term (.binary operator.token left right) =
      .error (.binaryOperator operator.token (scope.catalog.qualifiedName first.type)
        (scope.catalog.qualifiedName second.type))

theorem shiftsIntegers (scope : Scope) (holds : scope.catalog.HoldsPrimitives) :
    scope.ShiftsIntegers where
  shifts {operator left right first second kind count} shift leftOperand rightOperand isCount := by
    refine ⟨.shifted operator kind first second, ?_, Term.type_shifted .., ?_⟩
    · rw [term_binary operator leftOperand.built rightOperand.built,
        Catalog.binaryTerm_eq_shiftTerm holds shift leftOperand.type_eq
          (Catalog.retypeNulls_ofScalar leftOperand.type_eq rightOperand.type_eq)
          (rightOperand.type_eq ▸ holds.underlying?_ofScalar _)]
      exact Catalog.shiftTerm_integers _ shift leftOperand.type_eq rightOperand.type_eq isCount
    · intro setting site a n sameCatalog denotes counts
      rw [← sameCatalog] at holds
      exact Setting.evaluate_shifted holds shift leftOperand.type_eq rightOperand.type_eq isCount
        denotes counts
  refused {operator left right first second kind} shift builtLeft leftType builtRight plain
      unfit := by
    have present := isNull_of_ofScalar holds left builtLeft leftType
    rw [term_binary operator builtLeft builtRight,
      Catalog.binaryTerm_eq_shiftTerm holds shift leftType
        (Catalog.retypeNulls_of_present leftType present) plain]
    exact Catalog.shiftTerm_refused _ leftType unfit

/-- A small negative integer is shifted by one place, which a negative count comes down to, and
no integer by a count without a sign. -/
theorem shiftsIntegers_negative :
    (Scope.mk .primitives [] none).ShiftsIntegers ∧
      (∃ tree : Term, (Scope.mk .primitives [] none).term
          (.binary ">>>" (.literal (.integer (.wrap .int8 (-8))))
            (.literal (.integer (.wrap .int16 (-31))))) = .ok tree ∧
        tree.type = .ofScalar (.integer .int32) ∧
        IntegerKind.int32.Wraps 2147483644 (Setting.evaluate { catalog := .primitives } [] tree)) ∧
      (Scope.mk .primitives [] none).term
          (.binary "<<" (.literal (.integer (.wrap .int32 1)))
            (.literal (.integer (.wrap .uint32 1)))) =
        .error (.binaryOperator "<<"
          (Catalog.primitives.qualifiedName (.ofScalar (.integer .int32)))
          (Catalog.primitives.qualifiedName (.ofScalar (.integer .uint32)))) := by
  have shifts := shiftsIntegers (Scope.mk .primitives [] none) Catalog.holdsPrimitives_primitives
  refine ⟨shifts, ?_, ?_⟩
  · have left : (Scope.mk .primitives [] none).Operand
        (.literal (.integer (.wrap .int8 (-8)))) (.ofValue (.integer (.wrap .int8 (-8))))
        (.integer .int8) := ⟨term_literal _, rfl, rfl⟩
    have right : (Scope.mk .primitives [] none).Operand
        (.literal (.integer (.wrap .int16 (-31)))) (.ofValue (.integer (.wrap .int16 (-31))))
        (.integer .int16) := ⟨term_literal _, rfl, rfl⟩
    obtain ⟨tree, built, type, result⟩ := shifts.shifts
      (show BinaryOperator.shiftRightZero.isShift = true from rfl) left right (by decide)
    refine ⟨tree, built, type, ?_⟩
    have shifted := result { catalog := .primitives } [] (-8) (-31) rfl
      ⟨.integer (.wrap .int8 (-8)), by unfold Term.ofValue Setting.evaluate; rfl, rfl, by decide⟩
      ⟨.integer (.wrap .int16 (-31)), by unfold Term.ofValue Setting.evaluate; rfl, rfl,
        by decide⟩
    have quotient : (-8 : Int) % 2 ^ 32 / 2 ^ IntegerKind.int32.places (-31) = 2147483644 := by
      decide
    exact quotient ▸ shifted
  · have unfit : ¬Catalog.Shiftable (.integer .int32) (.ofScalar (.integer .uint32)) := by
      rintro ⟨_, count, isCount, same⟩
      cases DataType.ofScalar_injective same
      revert isCount
      decide
    have isInt32 : (Term.ofValue (.integer (.wrap .int32 1))).type =
        .ofScalar (.integer .int32) := rfl
    have isUInt32 : (Term.ofValue (.integer (.wrap .uint32 1))).type =
        .ofScalar (.integer .uint32) := rfl
    have refused := shifts.refused (show BinaryOperator.shiftLeft.isShift = true from rfl)
      (term_literal (.integer (.wrap .int32 1))) isInt32
      (term_literal (.integer (.wrap .uint32 1)))
      (isUInt32 ▸ Catalog.holdsPrimitives_primitives.underlying?_ofScalar _) (isUInt32 ▸ unfit)
    rw [isInt32, isUInt32] at refused
    exact refused

end Scope

end Formula
