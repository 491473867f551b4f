import Formula.Proofs.Operators.Promotion
import Formula.Typing.Unary

/-!
The typed trees of operators on integers and characters. No type declares an operator for
scalars, so the tree is that of the built-in one on operands converted to a common kind.
-/

namespace Formula

namespace DataType

theorem isString_ofScalar (kind : Scalar) : (ofScalar kind).isString = false := by
  cases kind with
  | integer kind => cases kind <;> decide
  | _ => decide

theorem isBoolean_ofScalar (kind : Scalar) :
    (ofScalar kind).isBoolean = (kind == .boolean) := by
  cases kind with
  | integer kind => cases kind <;> decide
  | _ => decide

end DataType

namespace Scalar

theorem isNumeric_of_isIntegral {kind : Scalar} (integral : kind.isIntegral = true) :
    kind.isNumeric = true := by
  rcases eq_of_isIntegral integral with rfl | ⟨integer, rfl⟩
  · decide
  · rfl

end Scalar

theorem Term.type_convertTo (term : Term) (target : DataType) :
    (term.convertTo target).type = target := by
  unfold Term.convertTo
  split
  · assumption
  · rfl

theorem Term.convertTo_self (term : Term) {target : DataType} (same : term.type = target) :
    term.convertTo target = term := by
  unfold Term.convertTo
  rw [if_pos same]

namespace BinaryOperator

/-- The operators that promote integral operands: all but shifts and those of control. -/
def promotes (operator : BinaryOperator) : Bool :=
  operator.isArithmetic || operator.isBitwise || operator.isComparison

def integerResult (operator : BinaryOperator) (kind : IntegerKind) : DataType :=
  if operator.isComparison then .boolean else .ofScalar (.integer kind)

theorem builtin?_integer {operator : BinaryOperator} (promotes : operator.promotes = true)
    (kind : IntegerKind) :
    operator.builtin? (.ofScalar (.integer kind)) (.ofScalar (.integer kind)) =
      some (operator.integerResult kind) := by
  unfold builtin?
  rw [DataType.isBoolean_ofScalar, DataType.scalar?_ofScalar]
  cases operator with
  | shiftLeft | shiftRight | shiftRightZero | andAlso | orElse | coalesce =>
      exact absurd promotes (by decide)
  | _ => cases kind <;> rfl

end BinaryOperator

namespace UnaryOperator

/-- The kind in which a unary operator works on an integer: 32 bits at least, and one bit more
for the negation of the 32 bits that have no sign. -/
def workingKind (operator : UnaryOperator) (kind : IntegerKind) : IntegerKind :=
  if operator = .negate ∧ kind = .uint32 then .int64
  else if kind.isSmall then .int32
  else kind

end UnaryOperator

namespace Catalog

variable {catalog : Catalog}

theorem operatorOwners_scalars {operands : List DataType}
    (scalars : ∀ operand ∈ operands, operand.scalar?.isSome = true) :
    catalog.operatorOwners operands = [] := by
  unfold operatorOwners
  induction operands with
  | nil => rfl
  | cons operand operands ih =>
      rw [List.foldl_cons]
      have isScalar := scalars operand (List.mem_cons_self ..)
      simp only [isScalar, Bool.true_or, if_true]
      exact ih fun other member => scalars other (List.mem_cons_of_mem _ member)

theorem selectMethod_nil (arguments : List DataType) :
    catalog.selectMethod [] arguments = .ok none :=
  rfl

theorem declaredOperator_scalars (name : String) {operands : List DataType}
    (scalars : ∀ operand ∈ operands, operand.scalar?.isSome = true) :
    catalog.declaredOperator name operands = .ok none := by
  unfold declaredOperator
  rw [operatorOwners_scalars scalars]
  exact selectMethod_nil operands

theorem resolveBinary_scalars (operator : BinaryOperator) (left right : Scalar) :
    catalog.resolveBinary operator (.ofScalar left) (.ofScalar right) =
      .ok ((catalog.builtinBinary? operator (.ofScalar left) (.ofScalar right)).map
        .builtin) := by
  have scalars : ∀ operand ∈ [DataType.ofScalar left, .ofScalar right],
      operand.scalar?.isSome = true := by
    intro operand member
    rw [List.mem_cons, List.mem_singleton] at member
    rcases member with rfl | rfl <;> rw [DataType.scalar?_ofScalar] <;> rfl
  unfold resolveBinary
  cases operator.methodName? with
  | none => rfl
  | some name =>
      simp only [declaredOperator_scalars name scalars]
      rfl

theorem resolveUnary_scalar (operator : UnaryOperator) (operand : Scalar) :
    catalog.resolveUnary operator (.ofScalar operand) =
      .ok ((builtinUnary? operator (.ofScalar operand)).map .builtin) := by
  have scalars : ∀ type ∈ [DataType.ofScalar operand], type.scalar?.isSome = true := by
    intro type member
    rw [List.mem_singleton.mp member, DataType.scalar?_ofScalar]
    rfl
  unfold resolveUnary
  simp only [declaredOperator_scalars operator.methodName scalars]
  rfl

theorem applyBinary_integer {operator : BinaryOperator} (promotes : operator.promotes = true)
    (refusal : TypingError) {kind : IntegerKind} {left right : Term}
    (leftType : left.type = .ofScalar (.integer kind))
    (rightType : right.type = .ofScalar (.integer kind)) :
    catalog.applyBinary refusal operator left right =
      .ok (.binary operator left right (operator.integerResult kind)) := by
  have builtin : catalog.builtinBinary? operator (.ofScalar (.integer kind))
      (.ofScalar (.integer kind)) = some (operator.integerResult kind) := by
    unfold builtinBinary?
    rw [BinaryOperator.builtin?_integer promotes]
  unfold applyBinary
  rw [leftType, rightType, resolveBinary_scalars, builtin]
  rfl

theorem promoteBoth_integral (refusal : TypingError) {left right : Term}
    {leftKind rightKind : Scalar}
    (leftType : left.type = .ofScalar leftKind) (rightType : right.type = .ofScalar rightKind)
    (integralLeft : leftKind.isIntegral = true) (integralRight : rightKind.isIntegral = true) :
    promoteBoth refusal left right =
      match IntegerKind.meeting? leftKind rightKind with
      | some kind =>
          .ok (left.convertTo (.ofScalar (.integer kind)),
            right.convertTo (.ofScalar (.integer kind)))
      | none => .error refusal := by
  unfold promoteBoth
  rw [leftType, rightType, DataType.scalar?_ofScalar, DataType.scalar?_ofScalar]
  simp only [Scalar.isNumeric_of_isIntegral integralLeft,
    Scalar.isNumeric_of_isIntegral integralRight, Bool.and_self, if_true,
    Scalar.promoted?_integral integralLeft integralRight]
  cases IntegerKind.meeting? leftKind rightKind <;> rfl

theorem retypeNulls_ofScalar {left right : Term} {leftKind rightKind : Scalar}
    (leftType : left.type = .ofScalar leftKind) (rightType : right.type = .ofScalar rightKind) :
    catalog.retypeNulls left right = (left, right) := by
  unfold retypeNulls
  rw [leftType, rightType, acceptsNull_ofScalar, acceptsNull_ofScalar, Bool.and_false,
    Bool.and_false]
  rfl

theorem enumeration?_ofScalar (holds : catalog.HoldsPrimitives) (left right : Scalar) :
    catalog.enumeration? (.ofScalar left) (.ofScalar right) = none := by
  unfold enumeration?
  simp only [List.findSome?_cons, holds.underlying?_ofScalar, Option.map_none,
    List.findSome?_nil]

theorem binaryTerm_eager {operator : BinaryOperator} (notAnd : operator ≠ .andAlso)
    (notOr : operator ≠ .orElse) (notChoice : operator ≠ .coalesce) {left right : Term}
    (notText : (left.type.isString || right.type.isString) = false) :
    catalog.binaryTerm operator left right =
      catalog.operatorTerm (.binaryOperator operator.token (catalog.qualifiedName left.type)
        (catalog.qualifiedName right.type)) operator left right := by
  unfold binaryTerm
  cases operator with
  | andAlso => exact absurd rfl notAnd
  | orElse => exact absurd rfl notOr
  | coalesce => exact absurd rfl notChoice
  | add => simp only [notText, Bool.false_eq_true, if_false]
  | _ => rfl

theorem binaryTerm_integral (holds : catalog.HoldsPrimitives) {operator : BinaryOperator}
    (promotes : operator.promotes = true) {left right : Term} {leftKind rightKind : Scalar}
    (leftType : left.type = .ofScalar leftKind) (rightType : right.type = .ofScalar rightKind)
    (integralLeft : leftKind.isIntegral = true) (integralRight : rightKind.isIntegral = true) :
    catalog.binaryTerm operator left right =
      match IntegerKind.meeting? leftKind rightKind with
      | some kind =>
          .ok (.binary operator (left.convertTo (.ofScalar (.integer kind)))
            (right.convertTo (.ofScalar (.integer kind))) (operator.integerResult kind))
      | none =>
          .error (.binaryOperator operator.token (catalog.qualifiedName left.type)
            (catalog.qualifiedName right.type)) := by
  have noEnumeration : catalog.enumeration? left.type right.type = none := by
    rw [leftType, rightType]
    exact enumeration?_ofScalar holds leftKind rightKind
  have notShift : operator.isShift = false := by
    cases operator with
    | shiftLeft | shiftRight | shiftRightZero => exact absurd promotes (by decide)
    | _ => rfl
  have promoted : ∀ refusal : TypingError, catalog.operatorTerm refusal operator left right =
      match IntegerKind.meeting? leftKind rightKind with
      | some kind =>
          .ok (.binary operator (left.convertTo (.ofScalar (.integer kind)))
            (right.convertTo (.ofScalar (.integer kind))) (operator.integerResult kind))
      | none => .error refusal := by
    intro refusal
    unfold operatorTerm
    rw [retypeNulls_ofScalar leftType rightType]
    simp only [noEnumeration, notShift, Bool.false_and, Bool.false_eq_true, if_false]
    unfold promotedTerm
    rw [promoteBoth_integral refusal leftType rightType integralLeft integralRight]
    cases IntegerKind.meeting? leftKind rightKind with
    | none => rfl
    | some kind =>
        exact applyBinary_integer promotes refusal (left.type_convertTo _)
          (right.type_convertTo _)
  have notText : (left.type.isString || right.type.isString) = false := by
    rw [leftType, rightType, DataType.isString_ofScalar, DataType.isString_ofScalar]
    rfl
  rw [binaryTerm_eager (by rintro rfl; cases promotes) (by rintro rfl; cases promotes)
    (by rintro rfl; cases promotes) notText]
  exact promoted _

theorem widenOperand_integer (operator : UnaryOperator) {operand : Term} {kind : IntegerKind}
    (operandType : operand.type = .ofScalar (.integer kind)) :
    widenOperand operator (.ofScalar (.integer kind)) operand =
      operand.convertTo (.ofScalar (.integer (operator.workingKind kind))) := by
  unfold widenOperand Term.convertTo
  rw [DataType.scalar?_ofScalar, operandType]
  cases operator <;> cases kind <;> rfl

theorem builtinUnary?_integer (operator : UnaryOperator) (kind : IntegerKind) :
    builtinUnary? operator (.ofScalar (.integer kind)) =
      if operator = .negate ∧ kind = .uint64 then none else some (.ofScalar (.integer kind)) := by
  unfold builtinUnary? UnaryOperator.builtin?
  rw [DataType.scalar?_ofScalar]
  cases operator <;> cases kind <;> rfl

theorem unaryTerm_literal (holds : catalog.HoldsPrimitives) {token : String}
    {operand literal : Term} {kind : IntegerKind}
    (operandType : operand.type = .ofScalar (.integer kind))
    (negated : negatedLiteral? operand = some literal) :
    catalog.unaryTerm .negate token operand = .ok literal := by
  have plain : operand.convertTo (.ofScalar (.integer kind)) = operand :=
    operand.convertTo_self operandType
  unfold unaryTerm
  simp only [operandType, holds.underlying?_ofScalar, Option.map_none, Option.getD_none, plain,
    negated, if_true]
  rfl

theorem unaryTerm_integer (holds : catalog.HoldsPrimitives) (operator : UnaryOperator)
    (token : String) {operand : Term} {kind : IntegerKind}
    (operandType : operand.type = .ofScalar (.integer kind))
    (noLiteral : operator = .negate → negatedLiteral? operand = none) :
    catalog.unaryTerm operator token operand =
      if operator = .negate ∧ kind = .uint64 then
        .error (.unaryOperator token (catalog.qualifiedName operand.type))
      else
        .ok (.unary operator
          (operand.convertTo (.ofScalar (.integer (operator.workingKind kind))))
          (.ofScalar (.integer (operator.workingKind kind)))) := by
  have plain : operand.convertTo (.ofScalar (.integer kind)) = operand :=
    operand.convertTo_self operandType
  have literal : (if operator = .negate then negatedLiteral? operand else none) = none := by
    split
    · rename_i negated
      exact noLiteral negated
    · rfl
  unfold unaryTerm
  simp only [operandType, holds.underlying?_ofScalar, Option.map_none, Option.getD_none, plain,
    literal, Option.isSome_none, Bool.false_and, Bool.false_eq_true, if_false,
    widenOperand_integer operator operandType]
  unfold applyUnary
  rw [Term.type_convertTo, resolveUnary_scalar, builtinUnary?_integer]
  by_cases refused : operator = .negate ∧ kind = .uint64
  · obtain ⟨rfl, rfl⟩ := refused
    rfl
  · have working : ¬(operator = .negate ∧ operator.workingKind kind = .uint64) := by
      revert refused
      cases operator <;> cases kind <;> decide
    rw [if_neg refused, if_neg working]
    rfl

end Catalog

end Formula
