import Formula.Proofs.Typing.Operators

/-!
The typed trees of operators and casts on the values of an enumeration. They are taken for
integers, small ones for integers of 32 bits, and a result that is no truth value is cast back.
Operands meet if one is of the enumeration and the other one too, or of its integers; every other
pair with a value of the enumeration is refused.
-/

namespace Formula

namespace DataType

/-- One operand is of the enumeration, and the other one is too or is of its integers. -/
def Meet (type underlying left right : DataType) : Prop :=
  left = type ∧ (right = type ∨ right = underlying) ∨ left = underlying ∧ right = type

variable {type underlying left right : DataType}

theorem Meet.left_or (meet : Meet type underlying left right) :
    left = type ∨ left = underlying :=
  meet.imp And.left And.left

theorem Meet.right_or (meet : Meet type underlying left right) :
    right = type ∨ right = underlying := by
  rcases meet with ⟨_, side⟩ | ⟨_, same⟩
  · exact side
  · exact .inl same

end DataType

namespace Term

/-- A value of an enumeration over integers of a kind as an operand of their operators. -/
def asInteger (term : Term) (own : IntegerKind) : Term :=
  (term.convertTo (.ofScalar (.integer own))).convertTo (.ofScalar (.integer own.widened))

theorem type_asInteger (term : Term) (own : IntegerKind) :
    (term.asInteger own).type = .ofScalar (.integer own.widened) :=
  type_convertTo _ _

end Term

namespace Catalog

variable {catalog : Catalog} {type : DataType} {own : IntegerKind}

theorem isReferenceType_of_underlying? {kind : Scalar}
    (found : catalog.underlying? type = some kind) : catalog.isReferenceType type = false := by
  have refuses := acceptsNull_of_underlying? found
  unfold acceptsNull at refuses
  exact (Bool.or_eq_false_iff.mp refuses).2

theorem ne_ofScalar_of_underlying? (holds : catalog.HoldsPrimitives) {kind : Scalar}
    (found : catalog.underlying? type = some kind) (scalar : Scalar) :
    type ≠ .ofScalar scalar := by
  rintro rfl
  rw [holds.underlying?_ofScalar] at found
  cases found

theorem isString_of_underlying? (holds : catalog.HoldsPrimitives) {kind : Scalar}
    (found : catalog.underlying? type = some kind) : type.isString = false := by
  rw [Bool.eq_false_iff]
  intro isText
  have text : type = .string := of_decide_eq_true isText
  obtain ⟨entry, known, isClass⟩ :=
    holds.find? (show (TypeId.string, TypeKind.classType) ∈ primitiveKinds by decide)
  rw [text] at found
  unfold underlying? at found
  simp only [DataType.string, DataType.isArray, known, Option.bind_some] at found
  unfold TypeEntry.underlying? at found
  rw [isClass] at found
  cases found

theorem promotedTerm_asInteger {operator : BinaryOperator} (promotes : operator.promotes = true)
    (refusal : TypingError) (own : IntegerKind) (left right : Term) :
    catalog.promotedTerm refusal operator (left.convertTo (.ofScalar (.integer own)))
        (right.convertTo (.ofScalar (.integer own))) =
      .ok (.binary operator (left.asInteger own) (right.asInteger own)
        (operator.integerResult own.widened)) := by
  unfold promotedTerm
  rw [promoteBoth_integral refusal (left.type_convertTo _) (right.type_convertTo _) rfl rfl,
    IntegerKind.meeting?_self]
  exact applyBinary_integer promotes refusal (left.type_asInteger own) (right.type_asInteger own)

theorem enumeration?_of_meet (holds : catalog.HoldsPrimitives)
    (isEnumeration : catalog.underlying? type = some (.integer own)) {left right : DataType}
    (meet : DataType.Meet type (.ofScalar (.integer own)) left right) :
    catalog.enumeration? left right = some (type, .ofScalar (.integer own)) := by
  unfold enumeration?
  rcases meet with ⟨rfl, _⟩ | ⟨rfl, rfl⟩
  · simp only [List.findSome?_cons, isEnumeration, Option.map_some]
  · simp only [List.findSome?_cons, holds.underlying?_ofScalar, isEnumeration, Option.map_none,
      Option.map_some]

theorem retypeNulls_of_meet (isEnumeration : catalog.underlying? type = some (.integer own))
    {left right : Term}
    (meet : DataType.Meet type (.ofScalar (.integer own)) left.type right.type) :
    catalog.retypeNulls left right = (left, right) := by
  have noNull : ∀ operand : DataType, operand = type ∨ operand = .ofScalar (.integer own) →
      catalog.acceptsNull operand = false := by
    rintro operand (rfl | rfl)
    · exact acceptsNull_of_underlying? isEnumeration
    · exact acceptsNull_ofScalar _
  unfold retypeNulls
  rw [noNull _ meet.left_or, noNull _ meet.right_or, Bool.and_false, Bool.and_false]
  rfl

theorem binaryTerm_enumeration (holds : catalog.HoldsPrimitives)
    (isEnumeration : catalog.underlying? type = some (.integer own)) {operator : BinaryOperator}
    (promotes : operator.promotes = true) {left right : Term}
    (meet : DataType.Meet type (.ofScalar (.integer own)) left.type right.type) :
    catalog.binaryTerm operator left right =
      .ok (if operator.isComparison then
          .binary operator (left.asInteger own) (right.asInteger own) .boolean
        else
          .convert (.binary operator (left.asInteger own) (right.asInteger own)
            (.ofScalar (.integer own.widened))) type) := by
  have noText : ∀ operand : DataType, operand = type ∨ operand = .ofScalar (.integer own) →
      operand.isString = false := by
    rintro operand (rfl | rfl)
    · exact isString_of_underlying? holds isEnumeration
    · exact DataType.isString_ofScalar _
  have accepted : ((left.type != right.type) &&
      ((if type == left.type then right.type else left.type) !=
        .ofScalar (.integer own))) = false := by
    rcases meet with ⟨isLeft, isRight | isRight⟩ | ⟨isLeft, isRight⟩
    · rw [isLeft, isRight, bne_self_eq_false, Bool.false_and]
    · rw [isLeft, isRight, beq_self_eq_true, if_pos rfl, bne_self_eq_false, Bool.and_false]
    · have different := ne_ofScalar_of_underlying? holds isEnumeration (.integer own)
      rw [isLeft, isRight, beq_eq_false_iff_ne.mpr different, if_neg Bool.false_ne_true,
        bne_self_eq_false, Bool.and_false]
  rw [binaryTerm_eager (by rintro rfl; cases promotes) (by rintro rfl; cases promotes)
    (by rintro rfl; cases promotes)
    (by rw [noText _ meet.left_or, noText _ meet.right_or]; rfl)]
  unfold operatorTerm
  rw [retypeNulls_of_meet isEnumeration meet, enumeration?_of_meet holds isEnumeration meet]
  simp only
  unfold enumerationTerm
  simp only [accepted, Bool.false_eq_true, if_false, promotedTerm_asInteger promotes]
  cases comparison : operator.isComparison with
  | true =>
      unfold BinaryOperator.integerResult
      rw [comparison]
      rfl
  | false =>
      unfold BinaryOperator.integerResult
      rw [comparison]
      rfl

theorem binaryTerm_foreign (holds : catalog.HoldsPrimitives)
    (isEnumeration : catalog.underlying? type = some (.integer own)) {operator : BinaryOperator}
    (promotes : operator.promotes = true) {left right : Term}
    (among : left.type = type ∨ right.type = type)
    (foreign : ¬DataType.Meet type (.ofScalar (.integer own)) left.type right.type)
    (notText : (left.type.isString || right.type.isString) = false) :
    catalog.binaryTerm operator left right =
      .error (.binaryOperator operator.token (catalog.qualifiedName left.type)
        (catalog.qualifiedName right.type)) := by
  -- another enumeration on the left is the one that is found, but does not meet this one either
  obtain ⟨first, underlying, found, refused⟩ : ∃ first underlying,
      catalog.enumeration? left.type right.type = some (first, underlying) ∧
        ((left.type != right.type) &&
          ((if first == left.type then right.type else left.type) != underlying)) = true := by
    unfold enumeration?
    simp only [List.findSome?_cons, List.findSome?_nil]
    cases other : catalog.underlying? left.type with
    | some kind =>
        refine ⟨left.type, .ofScalar kind, rfl, ?_⟩
        rw [beq_self_eq_true, if_pos rfl, Bool.and_eq_true, bne_iff_ne, bne_iff_ne]
        rcases among with isLeft | isRight
        · rw [isLeft, isEnumeration] at other
          injection other with isKind
          rw [isLeft, ← isKind]
          exact ⟨fun same => foreign (.inl ⟨isLeft, .inl same.symm⟩),
            fun same => foreign (.inl ⟨isLeft, .inr same⟩)⟩
        · rw [isRight]
          refine ⟨fun same => foreign (.inl ⟨same, .inl isRight⟩), ?_⟩
          exact ne_ofScalar_of_underlying? holds isEnumeration kind
    | none =>
        have isRight : right.type = type := by
          refine among.resolve_left fun isLeft => ?_
          rw [isLeft, isEnumeration] at other
          cases other
        have notLeft : left.type ≠ type := by
          intro isLeft
          rw [isLeft, isEnumeration] at other
          cases other
        rw [isRight, isEnumeration]
        refine ⟨type, _, rfl, ?_⟩
        rw [beq_eq_false_iff_ne.mpr notLeft.symm, if_neg Bool.false_ne_true, Bool.and_eq_true,
          bne_iff_ne, bne_iff_ne]
        exact ⟨notLeft, fun same => foreign (.inr ⟨same, isRight⟩)⟩
  rw [binaryTerm_eager (by rintro rfl; cases promotes) (by rintro rfl; cases promotes)
    (by rintro rfl; cases promotes) notText]
  unfold operatorTerm
  rw [found]
  simp only
  unfold enumerationTerm
  simp only [refused, if_true]
  rfl

theorem unaryTerm_complement (isEnumeration : catalog.underlying? type = some (.integer own))
    (token : String) {operand : Term} (operandType : operand.type = type) :
    catalog.unaryTerm .complement token operand =
      .ok (.convert (.unary .complement (operand.asInteger own)
        (.ofScalar (.integer own.widened))) type) := by
  have working : UnaryOperator.complement.workingKind own = own.widened := by
    unfold UnaryOperator.workingKind
    rw [if_neg fun impossible => by cases impossible.1]
    rfl
  have widened : widenOperand .complement (.ofScalar (.integer own))
      (operand.convertTo (.ofScalar (.integer own))) = operand.asInteger own := by
    rw [widenOperand_integer .complement (operand.type_convertTo _), working]
    rfl
  have builtin : builtinUnary? .complement (.ofScalar (.integer own.widened)) =
      some (.ofScalar (.integer own.widened)) := by
    rw [builtinUnary?_integer, if_neg fun impossible => by cases impossible.1]
  unfold unaryTerm
  simp only [operandType, isEnumeration, Option.map_some, Option.getD_some, reduceCtorEq, if_false,
    Option.isSome_some, beq_self_eq_true, Bool.and_self, if_true, widened]
  unfold applyUnary
  rw [operand.type_asInteger, resolveUnary_scalar, builtin]
  rfl

theorem castTerm_convert {source target : DataType} (different : source ≠ target)
    (isValue : catalog.isReferenceType source = false)
    (noNull : catalog.acceptsNull target = false)
    (sourceNumber : catalog.isNumberLike source.underlying = true)
    (targetNumber : catalog.isNumberLike target.underlying = true)
    (undeclared : catalog.implicitOperator? source target = none) (name : String) {operand : Term}
    (operandType : operand.type = source) :
    catalog.castTerm name target operand = .ok (.convert operand target) := by
  obtain ⟨conversion, found, converts⟩ : ∃ conversion,
      catalog.explicitConversion? source target = some conversion ∧
        conversion.apply operand target = .convert operand target := by
    cases implicit : catalog.implicitConversion? source target with
    | none =>
        refine ⟨.explicit, ?_, rfl⟩
        unfold explicitConversion?
        simp only [implicit, sourceNumber, targetNumber, Bool.and_self, if_true]
    | some conversion =>
        refine ⟨conversion, explicitConversion?_of_implicit implicit, ?_⟩
        unfold implicitConversion? at implicit
        simp only [beq_eq_false_iff_ne.mpr different, isValue, undeclared, Bool.false_and,
          Bool.false_eq_true, if_false] at implicit
        cases conversion with
        | widening | boxing | lifting | explicit => rfl
        | identity | reference | operator =>
            repeat' split at implicit
            all_goals cases implicit
  unfold castTerm
  simp only [operandType, beq_eq_false_iff_ne.mpr different, isValue, noNull, found, converts,
    Bool.false_and, Bool.and_false, Bool.or_self, Bool.false_eq_true, if_false]

theorem castTerm_ofEnumeration (holds : catalog.HoldsPrimitives)
    (isEnumeration : catalog.underlying? type = some (.integer own)) {kind : Scalar}
    (numeric : kind.isNumeric = true)
    (undeclared : catalog.implicitOperator? type (.ofScalar kind) = none) (name : String)
    {operand : Term} (operandType : operand.type = type) :
    catalog.castTerm name (.ofScalar kind) operand = .ok (.convert operand (.ofScalar kind)) := by
  have different := ne_ofScalar_of_underlying? holds isEnumeration kind
  have typeNumber : catalog.isNumberLike type.underlying = true := by
    rw [underlying_of_underlying? isEnumeration]
    exact isNumberLike_of_underlying? isEnumeration
  exact castTerm_convert different (isReferenceType_of_underlying? isEnumeration)
    (acceptsNull_ofScalar kind) typeNumber (isNumberLike_ofScalar numeric) undeclared name
    operandType

end Catalog

end Formula
