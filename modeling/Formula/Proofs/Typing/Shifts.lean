import Formula.Proofs.Typing.Integers

/-!
The typed trees of shifts. The count is an integer of 32 bits at most that 32 signed bits hold, and
the operand is widened to 32 bits where it is narrower. The shift that fills with zeros is one of
the kind without a sign, and where the operand has one its tree converts there and back.
-/

namespace Formula

namespace IntegerKind

def unsigned : IntegerKind → IntegerKind
  | int8 | uint8 => .uint8
  | int16 | uint16 => .uint16
  | int32 | uint32 => .uint32
  | int64 | uint64 => .uint64

def counts : List IntegerKind :=
  [int8, uint8, int16, uint16, int32]

theorem width_unsigned (kind : IntegerKind) : kind.unsigned.width = kind.width := by
  cases kind <;> rfl

theorem mem_counts_iff {kind : IntegerKind} :
    kind ∈ counts ↔ kind.isSmall = true ∨ kind = .int32 := by
  cases kind <;> decide

end IntegerKind

namespace BinaryOperator

/-- The operand of the shift has a sign, which the shift is not to see. -/
def hidesSign (operator : BinaryOperator) (kind : IntegerKind) : Bool :=
  operator == .shiftRightZero && kind.isSigned

end BinaryOperator

namespace Term

def shifted (operator : BinaryOperator) (kind : IntegerKind) (operand count : Term) : Term :=
  let wide := operand.convertTo (.ofScalar (.integer kind.widened))
  let count := count.convertTo .int32
  if operator.hidesSign kind.widened then
    .convert (.binary .shiftRight (.convert wide (.ofScalar (.integer kind.widened.unsigned))) count
      (.ofScalar (.integer kind.widened.unsigned))) (.ofScalar (.integer kind.widened))
  else
    .binary (if operator = .shiftRightZero then .shiftRight else operator) wide count
      (.ofScalar (.integer kind.widened))

theorem type_shifted (operator : BinaryOperator) (kind : IntegerKind) (operand count : Term) :
    (shifted operator kind operand count).type = .ofScalar (.integer kind.widened) := by
  unfold shifted
  dsimp only
  split <;> rfl

end Term

namespace Catalog

variable {catalog : Catalog}

/-- The combinations that a shift takes: an integer, and a count that 32 signed bits hold. -/
def Shiftable (operand : Scalar) (count : DataType) : Prop :=
  operand.isInteger = true ∧ ∃ kind ∈ IntegerKind.counts, count = .ofScalar (.integer kind)

theorem applyBinary_shift {operator : BinaryOperator} (shift : operator.isShift = true)
    {kind : IntegerKind} (refusal : TypingError) {left right : Term}
    (leftType : left.type = .ofScalar (.integer kind))
    (rightType : right.type = .ofScalar (.integer .int32)) :
    catalog.applyBinary refusal operator left right =
      .ok (.binary operator left right (.ofScalar (.integer kind))) := by
  have builtin : catalog.builtinBinary? operator (.ofScalar (.integer kind))
      (.ofScalar (.integer .int32)) = some (.ofScalar (.integer kind)) := by
    unfold builtinBinary? BinaryOperator.builtin?
    rw [DataType.isBoolean_ofScalar, DataType.scalar?_ofScalar, DataType.scalar?_ofScalar]
    cases operator with
    | shiftLeft | shiftRight | shiftRightZero => rfl
    | _ => cases shift
  unfold applyBinary
  rw [leftType, rightType, resolveBinary_scalars, builtin]
  rfl

theorem retypeNulls_of_present {left right : Term} {kind : Scalar}
    (leftType : left.type = .ofScalar kind) (present : left.isNull = false) :
    catalog.retypeNulls left right = (left, right) := by
  unfold retypeNulls
  rw [present, leftType, acceptsNull_ofScalar, Bool.and_false]
  rfl

theorem binaryTerm_eq_shiftTerm (holds : catalog.HoldsPrimitives) {operator : BinaryOperator}
    (shift : operator.isShift = true) {left right : Term} {kind : Scalar}
    (leftType : left.type = .ofScalar kind)
    (untouched : catalog.retypeNulls left right = (left, right))
    (plain : catalog.underlying? right.type = none) :
    catalog.binaryTerm operator left right =
      catalog.shiftTerm (.binaryOperator operator.token (catalog.qualifiedName left.type)
        (catalog.qualifiedName right.type)) operator left right := by
  have noEnumeration : catalog.enumeration? left.type right.type = none := by
    unfold enumeration?
    rw [leftType]
    simp only [List.findSome?_cons, holds.underlying?_ofScalar, plain, Option.map_none,
      List.findSome?_nil]
  have isScalar : left.type.scalar?.isSome = true := by
    rw [leftType, DataType.scalar?_ofScalar]
    rfl
  have direct : ∀ refusal : TypingError, catalog.operatorTerm refusal operator left right =
      catalog.shiftTerm refusal operator left right := by
    intro refusal
    unfold operatorTerm
    rw [untouched, noEnumeration]
    simp only [shift, isScalar, Bool.and_self, if_true]
  cases operator with
  | shiftLeft | shiftRight | shiftRightZero => exact direct _
  | _ => cases shift

theorem isSmallInteger_ofScalar (kind : IntegerKind) :
    isSmallInteger (.ofScalar (.integer kind)) = kind.isSmall := by
  unfold isSmallInteger
  rw [DataType.scalar?_ofScalar]
  rfl

theorem widened_eq_convertTo {term : Term} {kind : IntegerKind}
    (termType : term.type = .ofScalar (.integer kind)) :
    (if isSmallInteger term.type then term.convert .int32 else term) =
      term.convertTo (.ofScalar (.integer kind.widened)) := by
  rw [termType, isSmallInteger_ofScalar]
  unfold Term.convertTo IntegerKind.widened
  rw [termType]
  cases kind <;> rfl

theorem shiftTerm_integers (refusal : TypingError) {operator : BinaryOperator}
    (shift : operator.isShift = true) {left right : Term} {kind count : IntegerKind}
    (leftType : left.type = .ofScalar (.integer kind))
    (rightType : right.type = .ofScalar (.integer count)) (isCount : count ∈ IntegerKind.counts) :
    catalog.shiftTerm refusal operator left right = .ok (.shifted operator kind left right) := by
  have counted : (if isSmallInteger right.type then right.convert .int32 else right) =
      right.convertTo .int32 := by
    have narrow : count.widened = .int32 := by
      revert isCount
      cases count <;> decide
    rw [widened_eq_convertTo rightType, narrow]
    rfl
  have accepted : (!left.type.isInteger || (right.convertTo .int32).type != .int32) = false := by
    unfold DataType.isInteger
    rw [leftType, DataType.scalar?_ofScalar, Term.type_convertTo, bne_self_eq_false]
    rfl
  have applied : ∀ {operator : BinaryOperator}, operator.isShift = true →
      ∀ {kind : IntegerKind} {operand : Term}, operand.type = .ofScalar (.integer kind) →
        catalog.applyBinary refusal operator operand (right.convertTo .int32) =
          .ok (.binary operator operand (right.convertTo .int32) (.ofScalar (.integer kind))) :=
    fun shift _ _ operandType => applyBinary_shift shift refusal operandType
      (right.type_convertTo _)
  unfold shiftTerm Term.shifted BinaryOperator.hidesSign
  simp only [counted, accepted, widened_eq_convertTo leftType, Bool.false_eq_true, if_false,
    left.type_convertTo, DataType.scalar?_ofScalar]
  have wideType := left.type_convertTo (.ofScalar (.integer kind.widened))
  generalize left.convertTo (.ofScalar (.integer kind.widened)) = wide at *
  cases operator with
  | shiftLeft => exact applied rfl wideType
  | shiftRight => exact applied rfl wideType
  | shiftRightZero =>
      cases kind with
      | int8 | int16 | int32 | int64 | uint8 | uint16 =>
          change (catalog.applyBinary refusal .shiftRight (wide.convert _) _ >>= _) = _
          rw [applied rfl rfl]
          rfl
      | uint32 | uint64 => exact applied rfl wideType
  | _ => cases shift

theorem shiftTerm_refused (refusal : TypingError) {operator : BinaryOperator} {left right : Term}
    {kind : Scalar} (leftType : left.type = .ofScalar kind)
    (unfit : ¬Shiftable kind right.type) :
    catalog.shiftTerm refusal operator left right = .error refusal := by
  have refused : (!left.type.isInteger ||
      (if isSmallInteger right.type then right.convert .int32 else right).type != .int32) =
        true := by
    unfold DataType.isInteger
    rw [leftType, DataType.scalar?_ofScalar, Option.any_some]
    cases isInteger : kind.isInteger with
    | false => rfl
    | true =>
        rw [Bool.not_true, Bool.false_or, bne_iff_ne]
        intro isInt32
        refine unfit ⟨isInteger, ?_⟩
        by_cases small : isSmallInteger right.type = true
        · unfold isSmallInteger at small
          cases isKind : right.type.scalar? with
          | none =>
              rw [isKind] at small
              cases small
          | some countKind =>
              rw [isKind, Option.any_some] at small
              cases countKind with
              | integer count =>
                  exact ⟨count, IntegerKind.mem_counts_iff.mpr (.inl small),
                    DataType.eq_ofScalar isKind⟩
              | _ => cases small
        · rw [if_neg small] at isInt32
          exact ⟨.int32, by decide, isInt32⟩
  unfold shiftTerm
  simp only [refused, if_true]
  rfl

end Catalog

end Formula
