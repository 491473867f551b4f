import Formula.Proofs.Catalog.Hierarchy
import Formula.Proofs.Typing.Shifts

/-!
The typed trees of built-in operators on scalars with null added, next to those on the plain
scalars. Plain operands are first taken to a common kind; operands with null added are left as
they are, and the operator works in their own kind.
-/

namespace Formula

namespace Scalar

def met (kind : Scalar) : Scalar :=
  if kind.isSmallInteger || kind == .character then .int32 else kind

theorem promoted?_self {kind : Scalar} (numeric : kind.isNumeric = true) :
    kind.promoted? kind = some kind.met := by
  cases kind with
  | integer kind => cases kind <;> decide
  | boolean => cases numeric
  | _ => decide

end Scalar

namespace DataType

theorem scalar?_orNull (id : TypeId) : (orNull id).scalar? = none :=
  rfl

theorem underlying_orNull (id : TypeId) : (orNull id).underlying = plain id :=
  rfl

theorem orNull_ne {id : TypeId} {type : DataType} (unmarked : type.nullable = false) :
    (orNull id == type) = false := by
  rw [beq_eq_false_iff_ne]
  rintro rfl
  cases unmarked

theorem widensTo_orNull (id : TypeId) (type : DataType) : (orNull id).widensTo type = false := by
  unfold widensTo isString
  rw [scalar?_orNull, orNull_ne rfl]
  rfl

end DataType

namespace BinaryOperator

def resultOn (operator : BinaryOperator) (type : DataType) : DataType :=
  if operator.isComparison then .boolean else type

/-- Whether the operator is built in for two operands of a scalar kind. -/
def appliesTo (operator : BinaryOperator) (kind : Scalar) : Bool :=
  (operator.builtin? (.ofScalar kind) (.ofScalar kind)).isSome

theorem builtin?_self (operator : BinaryOperator) (kind : Scalar) :
    operator.builtin? (.ofScalar kind) (.ofScalar kind) =
      if operator.appliesTo kind then some (operator.resultOn (.ofScalar kind)) else none := by
  unfold appliesTo builtin?
  rw [DataType.isBoolean_ofScalar, DataType.scalar?_ofScalar]
  cases operator <;> cases kind <;> first
    | rfl
    | (rename_i kind; cases kind <;> rfl)

theorem appliesTo_met {operator : BinaryOperator} {kind : Scalar} (eager : operator.isShift = false)
    (applies : operator.appliesTo kind = true) : operator.appliesTo kind.met = true := by
  revert applies eager
  cases operator <;> cases kind <;> first
    | decide
    | (rename_i kind; cases kind <;> decide)

end BinaryOperator

namespace UnaryOperator

def appliesTo (operator : UnaryOperator) (kind : Scalar) : Bool :=
  (operator.builtin? (.ofScalar kind)).isSome

theorem builtin?_ofScalar (operator : UnaryOperator) (kind : Scalar) :
    operator.builtin? (.ofScalar kind) =
      if operator.appliesTo kind then some (.ofScalar kind) else none := by
  unfold appliesTo builtin?
  rw [DataType.scalar?_ofScalar, Option.bind_some]
  cases operator <;> cases kind <;> first
    | rfl
    | (rename_i kind; cases kind <;> rfl)

end UnaryOperator

namespace Catalog

variable {catalog : Catalog}

theorem isReferenceType_orNull (id : TypeId) : catalog.isReferenceType (.orNull id) = false := by
  unfold isReferenceType isValueType
  exact Bool.and_false _

theorem underlying?_orNull (id : TypeId) : catalog.underlying? (.orNull id) = none :=
  rfl

theorem implicitConversion?_orNull_boolean (references : catalog.ReferencesAbove) (id : TypeId) :
    catalog.implicitConversion? (.orNull id) .boolean = none := by
  have notAssignable : catalog.isAssignable .boolean (.orNull id) = false := by
    rw [← Bool.not_eq_true]
    intro assignable
    rcases isAssignable_cases assignable with same | root | ⟨marked, _⟩ | ⟨_, _, element, _⟩ |
      ⟨plain, reached⟩
    · cases same
    · cases root
    · cases marked
    · cases element
    · rcases reaches_cases plain reached with same | ⟨array, _⟩ | root |
        ⟨declaring, entry, parent, found, above, isParent⟩
      · cases same
      · cases array
      · cases root
      · have isReference := (references declaring entry parent found above).1
        rw [← isParent] at isReference
        have isValue : catalog.isReferenceType .boolean = false := isReferenceType_ofScalar .boolean
        exact Bool.false_ne_true (isValue.symm.trans isReference)
  have noOperator : catalog.implicitOperator? (.orNull id) .boolean = none := rfl
  have unmarked : DataType.boolean.isNullable = false := rfl
  unfold implicitConversion?
  simp only [DataType.orNull_ne (show DataType.boolean.nullable = false from rfl),
    notAssignable, DataType.widensTo_orNull, noOperator, unmarked, Bool.and_false,
    Bool.false_eq_true, if_false]

theorem requireImplicit_orNull_boolean (references : catalog.ReferencesAbove) {id : TypeId}
    {term : Term} (termType : term.type = .orNull id) :
    catalog.requireImplicit term .boolean =
      .error (catalog.noConversion (.orNull id) .boolean) := by
  have noNull : catalog.acceptsNull .boolean = false := acceptsNull_ofScalar .boolean
  unfold requireImplicit implicitly?
  rw [termType, implicitConversion?_orNull_boolean references, noNull, Bool.and_false]
  rfl

theorem retypeNulls_same {left right : Term} (sameType : left.type = right.type) :
    catalog.retypeNulls left right = (left, right) := by
  have retyped : ∀ term : Term, term.isNull = true → Term.nullOf term.type = term := by
    intro term isNull
    unfold Term.isNull at isNull
    split at isNull
    · rfl
    · cases isNull
  unfold retypeNulls
  split
  · rename_i leftNull
    rw [Bool.and_eq_true, Bool.and_eq_true] at leftNull
    rw [← sameType, retyped left leftNull.1.1]
  · split
    · rename_i rightNull
      rw [Bool.and_eq_true, Bool.and_eq_true] at rightNull
      rw [sameType, retyped right rightNull.1.1]
    · rfl

theorem builtinBinary?_orNull (operator : BinaryOperator) (kind : Scalar) :
    catalog.builtinBinary? operator (.orNull (.ofScalar kind)) (.orNull (.ofScalar kind)) =
      if operator.appliesTo kind then some (operator.resultOn (.orNull (.ofScalar kind)))
      else none := by
  have notBuiltin : operator.builtin? (.orNull (.ofScalar kind)) (.orNull (.ofScalar kind)) =
      none := by
    unfold BinaryOperator.builtin? DataType.isBoolean
    rw [DataType.orNull_ne rfl]
    rfl
  have incomparable :
      catalog.areComparable (.orNull (.ofScalar kind)) (.orNull (.ofScalar kind)) = false := by
    unfold areComparable
    rw [isReferenceType_orNull]
    rfl
  have inner : operator.builtin? (.plain (.ofScalar kind)) (.plain (.ofScalar kind)) =
      if operator.appliesTo kind then some (operator.resultOn (.ofScalar kind)) else none :=
    operator.builtin?_self kind
  have marked : (DataType.orNull (.ofScalar kind)).isNullable = true := rfl
  unfold builtinBinary?
  simp only [notBuiltin, incomparable, marked, DataType.underlying_orNull, inner,
    Bool.and_false, Bool.false_eq_true, if_false, beq_self_eq_true, Bool.and_self, if_true]
  unfold BinaryOperator.resultOn
  cases operator.appliesTo kind <;> cases operator.isComparison <;> rfl

theorem applyBinary_orNull {operator : BinaryOperator} {kind : Scalar}
    (undeclared : ∀ name, operator.methodName? = some name →
      catalog.declaredOperator name [.orNull (.ofScalar kind), .orNull (.ofScalar kind)] =
        .ok none) {refusal : TypingError} {left right : Term}
    (leftType : left.type = .orNull (.ofScalar kind))
    (rightType : right.type = .orNull (.ofScalar kind)) :
    catalog.applyBinary refusal operator left right =
      if operator.appliesTo kind then
        .ok (.binary operator left right (operator.resultOn (.orNull (.ofScalar kind))))
      else .error refusal := by
  have resolved : catalog.resolveBinary operator (.orNull (.ofScalar kind))
      (.orNull (.ofScalar kind)) =
      .ok ((catalog.builtinBinary? operator (.orNull (.ofScalar kind))
        (.orNull (.ofScalar kind))).map .builtin) := by
    unfold resolveBinary
    cases named : operator.methodName? with
    | none => rfl
    | some name =>
        simp only [undeclared name named]
        rfl
  unfold applyBinary
  rw [leftType, rightType, resolved, builtinBinary?_orNull]
  cases operator.appliesTo kind <;> rfl

theorem binaryTerm_logical_orNull (references : catalog.ReferencesAbove)
    {operator : BinaryOperator} (logical : operator = .andAlso ∨ operator = .orElse)
    {id : TypeId} {left right tree : Term} (leftType : left.type = .orNull id) :
    catalog.binaryTerm operator left right ≠ .ok tree := by
  have refused := requireImplicit_orNull_boolean references leftType
  unfold binaryTerm
  rcases logical with rfl | rfl
  · dsimp only
    rw [refused]
    exact fun impossible => nomatch impossible
  · dsimp only
    rw [refused]
    exact fun impossible => nomatch impossible

theorem operatorTerm_orNull {refusal : TypingError} {operator : BinaryOperator} {kind : Scalar}
    {left right : Term} (leftType : left.type = .orNull (.ofScalar kind))
    (rightType : right.type = .orNull (.ofScalar kind)) :
    catalog.operatorTerm refusal operator left right =
      catalog.applyBinary refusal operator left right := by
  have noEnumeration : catalog.enumeration? left.type right.type = none := by
    rw [leftType, rightType]
    rfl
  have notScalar : left.type.scalar?.isSome = false := by
    rw [leftType]
    rfl
  have unpromoted : promoteBoth refusal left right = .ok (left, right) := by
    unfold promoteBoth
    rw [leftType, rightType]
    rfl
  unfold operatorTerm
  rw [retypeNulls_same (leftType.trans rightType.symm)]
  simp only [noEnumeration, notScalar, Bool.and_false, Bool.false_eq_true, if_false]
  unfold promotedTerm
  rw [unpromoted]
  rfl

theorem binaryTerm_orNull (references : catalog.ReferencesAbove) {operator : BinaryOperator}
    (notChoice : operator ≠ .coalesce) {kind : Scalar}
    (undeclared : ∀ name, operator.methodName? = some name →
      catalog.declaredOperator name [.orNull (.ofScalar kind), .orNull (.ofScalar kind)] =
        .ok none) {left right tree : Term}
    (leftType : left.type = .orNull (.ofScalar kind))
    (rightType : right.type = .orNull (.ofScalar kind))
    (built : catalog.binaryTerm operator left right = .ok tree) :
    operator ≠ .andAlso ∧ operator ≠ .orElse ∧ operator.appliesTo kind = true ∧
      tree = .binary operator left right (operator.resultOn (.orNull (.ofScalar kind))) := by
  have notAnd : operator ≠ .andAlso := fun same =>
    binaryTerm_logical_orNull references (.inl same) leftType built
  have notOr : operator ≠ .orElse := fun same =>
    binaryTerm_logical_orNull references (.inr same) leftType built
  have notText : (left.type.isString || right.type.isString) = false := by
    rw [leftType, rightType]
    unfold DataType.isString
    rw [DataType.orNull_ne rfl]
    rfl
  rw [binaryTerm_eager notAnd notOr notChoice notText, operatorTerm_orNull leftType rightType,
    applyBinary_orNull undeclared leftType rightType] at built
  cases applies : operator.appliesTo kind with
  | true =>
      rw [applies, if_pos rfl] at built
      cases built
      exact ⟨notAnd, notOr, rfl, rfl⟩
  | false =>
      rw [applies, if_neg Bool.false_ne_true] at built
      cases built

theorem applyBinary_scalars {operator : BinaryOperator} {kind : Scalar}
    (applies : operator.appliesTo kind = true) {refusal : TypingError} {left right : Term}
    (leftType : left.type = .ofScalar kind) (rightType : right.type = .ofScalar kind) :
    catalog.applyBinary refusal operator left right =
      .ok (.binary operator left right (operator.resultOn (.ofScalar kind))) := by
  have builtin : catalog.builtinBinary? operator (.ofScalar kind) (.ofScalar kind) =
      some (operator.resultOn (.ofScalar kind)) := by
    unfold builtinBinary?
    rw [operator.builtin?_self kind, applies]
    rfl
  unfold applyBinary
  rw [leftType, rightType, resolveBinary_scalars, builtin]
  rfl

theorem binaryTerm_alike (holds : catalog.HoldsPrimitives) {operator : BinaryOperator}
    (notAnd : operator ≠ .andAlso) (notOr : operator ≠ .orElse)
    (notChoice : operator ≠ .coalesce) (notShift : operator.isShift = false) {kind : Scalar}
    (applies : operator.appliesTo kind = true) {left right : Term}
    (leftType : left.type = .ofScalar kind) (rightType : right.type = .ofScalar kind) :
    catalog.binaryTerm operator left right =
      .ok (.binary operator (left.convertTo (.ofScalar kind.met))
        (right.convertTo (.ofScalar kind.met)) (operator.resultOn (.ofScalar kind.met))) := by
  have notText : (left.type.isString || right.type.isString) = false := by
    rw [leftType, rightType, DataType.isString_ofScalar]
    rfl
  have promoted : ∀ refusal, promoteBoth refusal left right =
      .ok (left.convertTo (.ofScalar kind.met), right.convertTo (.ofScalar kind.met)) := by
    intro refusal
    unfold promoteBoth
    rw [leftType, rightType, DataType.scalar?_ofScalar]
    cases numeric : kind.isNumeric with
    | true =>
        simp only [numeric, Bool.and_self, if_true, Scalar.promoted?_self numeric]
    | false =>
        have isBoolean : kind = .boolean := by
          unfold Scalar.isNumeric at numeric
          simpa using numeric
        subst isBoolean
        have stays : Scalar.boolean.met = .boolean := rfl
        rw [stays, left.convertTo_self leftType, right.convertTo_self rightType]
        rfl
  rw [binaryTerm_eager notAnd notOr notChoice notText]
  unfold operatorTerm
  rw [retypeNulls_ofScalar leftType rightType, leftType, rightType,
    enumeration?_ofScalar holds]
  simp only [notShift, Bool.false_and, Bool.false_eq_true, if_false]
  unfold promotedTerm
  rw [promoted]
  exact applyBinary_scalars (BinaryOperator.appliesTo_met notShift applies)
    (left.type_convertTo _) (right.type_convertTo _)

theorem binaryTerm_shift (holds : catalog.HoldsPrimitives) {operator : BinaryOperator}
    (shift : operator.isShift = true) {left right : Term}
    (leftType : left.type = .ofScalar (.integer .int32))
    (rightType : right.type = .ofScalar (.integer .int32)) :
    catalog.binaryTerm operator left right =
      .ok (if operator = .shiftRightZero then
        .convert (.binary .shiftRight (.convert left (.ofScalar (.integer .uint32))) right
          (.ofScalar (.integer .uint32))) (.ofScalar (.integer .int32))
      else .binary operator left right (.ofScalar (.integer .int32))) := by
  rw [binaryTerm_eq_shiftTerm holds shift leftType (retypeNulls_ofScalar leftType rightType)
    (rightType ▸ holds.underlying?_ofScalar _),
    shiftTerm_integers _ shift leftType rightType (by decide)]
  have wide : left.convertTo (.ofScalar (.integer IntegerKind.int32.widened)) = left :=
    left.convertTo_self leftType
  have counted : right.convertTo .int32 = right := right.convertTo_self rightType
  unfold Term.shifted
  dsimp only
  rw [wide, counted]
  cases operator with
  | shiftLeft | shiftRight | shiftRightZero => rfl
  | _ => cases shift

theorem builtinUnary?_orNull (operator : UnaryOperator) (kind : Scalar) :
    builtinUnary? operator (.orNull (.ofScalar kind)) =
      if operator.appliesTo kind then some (.orNull (.ofScalar kind)) else none := by
  have notBuiltin : operator.builtin? (.orNull (.ofScalar kind)) = none := rfl
  have inner : operator.builtin? (.plain (.ofScalar kind)) =
      if operator.appliesTo kind then some (.ofScalar kind) else none :=
    operator.builtin?_ofScalar kind
  have marked : (DataType.orNull (.ofScalar kind)).isNullable = true := rfl
  unfold builtinUnary?
  simp only [notBuiltin, marked, if_true, DataType.underlying_orNull, inner]
  cases operator.appliesTo kind <;> rfl

theorem unaryTerm_orNull {operator : UnaryOperator} {token : String} {kind : Scalar}
    (undeclared : catalog.declaredOperator operator.methodName [.orNull (.ofScalar kind)] =
      .ok none) {operand tree : Term} (operandType : operand.type = .orNull (.ofScalar kind))
    (noLiteral : negatedLiteral? operand = none)
    (built : catalog.unaryTerm operator token operand = .ok tree) :
    operator.appliesTo kind = true ∧ tree = .unary operator operand (.orNull (.ofScalar kind)) := by
  have plain : operand.convertTo (.orNull (.ofScalar kind)) = operand :=
    operand.convertTo_self operandType
  have unwidened : widenOperand operator (.orNull (.ofScalar kind)) operand = operand := rfl
  unfold unaryTerm at built
  simp only [operandType, underlying?_orNull, Option.map_none, Option.getD_none, plain,
    noLiteral, ite_self, Option.isSome_none, Bool.false_and, Bool.false_eq_true, if_false,
    unwidened] at built
  unfold applyUnary resolveUnary at built
  simp only [operandType, undeclared, builtinUnary?_orNull] at built
  cases applies : operator.appliesTo kind with
  | true =>
      rw [applies] at built
      cases built
      exact ⟨rfl, rfl⟩
  | false =>
      rw [applies] at built
      cases built

theorem unaryTerm_scalar (holds : catalog.HoldsPrimitives) {operator : UnaryOperator}
    {token : String} {kind : Scalar} (notInteger : kind.isInteger = false)
    (applies : operator.appliesTo kind = true) {operand : Term}
    (operandType : operand.type = .ofScalar kind) (noLiteral : negatedLiteral? operand = none) :
    catalog.unaryTerm operator token operand = .ok (.unary operator operand (.ofScalar kind)) := by
  have plain : operand.convertTo (.ofScalar kind) = operand := operand.convertTo_self operandType
  have unwidened : widenOperand operator (.ofScalar kind) operand = operand := by
    unfold widenOperand
    rw [DataType.scalar?_ofScalar]
    cases kind with
    | integer kind => cases notInteger
    | _ => simp [Scalar.isSmallInteger, Scalar.integerKind?]
  have builtin : builtinUnary? operator (.ofScalar kind) = some (.ofScalar kind) := by
    unfold builtinUnary?
    rw [operator.builtin?_ofScalar, applies]
    rfl
  unfold unaryTerm
  simp only [operandType, holds.underlying?_ofScalar, Option.map_none, Option.getD_none, plain,
    noLiteral, ite_self, Option.isSome_none, Bool.false_and, Bool.false_eq_true, if_false,
    unwidened]
  unfold applyUnary
  rw [operandType, resolveUnary_scalar, builtin]
  rfl

end Catalog

end Formula
