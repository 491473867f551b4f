import Formula.Proofs.Typing.Arguments
import Formula.Proofs.Typing.Integers

/-!
Trees of operators and casts are well formed. The conversions that the builder puts around
operands of numbers and enumerations are ones that a cast allows as well.
-/

namespace Formula

namespace Catalog

variable {catalog : Catalog} {constant : Value → DataType → Prop}
  {receiver : String → DataType → Prop}

/-! ### Casts between numbers -/

theorem isNumberLike_ofScalar {kind : Scalar} (numeric : kind.isNumeric = true) :
    catalog.isNumberLike (.ofScalar kind) = true := by
  unfold isNumberLike DataType.isNumeric
  rw [DataType.scalar?_ofScalar]
  simp only [Option.any_some, numeric, Bool.true_or]

theorem isNumberLike_of_underlying? {type : DataType} {kind : Scalar}
    (found : catalog.underlying? type = some kind) : catalog.isNumberLike type = true := by
  unfold isNumberLike isEnumeration
  rw [found]
  exact Bool.or_true _

theorem plain_of_underlying? {type : DataType} {kind : Scalar}
    (found : catalog.underlying? type = some kind) : type = .plain type.id := by
  unfold underlying? at found
  split at found
  · cases found
  · rename_i plain
    rw [Bool.not_eq_true, Bool.or_eq_false_iff] at plain
    obtain ⟨id, nullable, rank⟩ := type
    obtain ⟨flat, unmarked⟩ := plain
    unfold DataType.isArray at flat
    simp only [decide_eq_false_iff_not, Nat.not_lt, Nat.le_zero] at flat unmarked
    subst flat unmarked
    rfl

theorem underlying_of_underlying? {type : DataType} {kind : Scalar}
    (found : catalog.underlying? type = some kind) : type.underlying = type := by
  rw [plain_of_underlying? found]
  rfl

theorem underlying_ofScalar (kind : Scalar) :
    (DataType.ofScalar kind).underlying = .ofScalar kind :=
  rfl

theorem explicitConversion?_numbers {source target : DataType}
    (sourceNumber : catalog.isNumberLike source.underlying = true)
    (targetNumber : catalog.isNumberLike target.underlying = true) :
    (catalog.explicitConversion? source target).isSome = true := by
  unfold explicitConversion?
  cases catalog.implicitConversion? source target with
  | some conversion => rfl
  | none => simp only [sourceNumber, targetNumber, Bool.and_self, if_true, Option.isSome_some]

theorem explicitConversion?_scalars {source target : Scalar}
    (sourceNumber : source.isNumeric = true)
    (targetNumber : target.isNumeric = true) :
    (catalog.explicitConversion? (.ofScalar source) (.ofScalar target)).isSome = true :=
  explicitConversion?_numbers (isNumberLike_ofScalar sourceNumber)
    (isNumberLike_ofScalar targetNumber)

theorem explicitConversion?_isSome_of_implicit {source target : DataType}
    (implicit : (catalog.implicitConversion? source target).isSome = true) :
    (catalog.explicitConversion? source target).isSome = true := by
  obtain ⟨conversion, found⟩ := Option.isSome_iff_exists.mp implicit
  rw [explicitConversion?_of_implicit found]
  rfl

theorem explicitConversion?_of_widens {source target : DataType}
    (widens : source.widensTo target = true) :
    (catalog.explicitConversion? source target).isSome = true := by
  apply explicitConversion?_isSome_of_implicit
  unfold implicitConversion?
  rw [if_pos widens]
  split
  · rfl
  · split <;> rfl

theorem explicitConversion?_object {source : DataType}
    (valueType : catalog.isValueType source = true) :
    (catalog.explicitConversion? source .object).isSome = true := by
  have unmarked : DataType.object.isNullable = false := rfl
  apply explicitConversion?_isSome_of_implicit
  unfold implicitConversion?
  rw [isAssignable_object, valueType, unmarked]
  split
  · rfl
  · split
    · rfl
    · split
      · rfl
      · split <;> rfl

theorem convertTo_wellFormed {term : Term} {target : DataType}
    (wellFormed : catalog.WellFormed constant receiver term)
    (joins : term.type ≠ target → (catalog.explicitConversion? term.type target).isSome = true) :
    catalog.WellFormed constant receiver (term.convertTo target) := by
  unfold Term.convertTo
  split
  · exact wellFormed
  · rename_i different
    exact wellFormed_one rfl wellFormed (joins different)

/-! ### Binary operators -/

theorem resolveBinary_cases {operator : BinaryOperator} {left right : DataType}
    {meaning : Option OperatorMeaning}
    (resolved : catalog.resolveBinary operator left right = .ok meaning) :
    (∃ name method, catalog.declaredOperator name [left, right] = .ok (some method) ∧
        meaning = some (.method method)) ∨
      meaning = (catalog.builtinBinary? operator left right).map .builtin := by
  unfold resolveBinary at resolved
  cases named : operator.methodName? with
  | none =>
      simp only [named, pure_bind, pure_eq_ok] at resolved
      exact .inr resolved.symm
  | some name =>
      simp only [named, bind_eq_ok] at resolved
      obtain ⟨declared, isDeclared, rest⟩ := resolved
      cases declared with
      | some method =>
          rw [pure_eq_ok] at rest
          exact .inl ⟨name, method, isDeclared, rest.symm⟩
      | none =>
          rw [pure_eq_ok] at rest
          exact .inr rest.symm

theorem resolveUnary_cases {operator : UnaryOperator} {operand : DataType}
    {meaning : Option OperatorMeaning}
    (resolved : catalog.resolveUnary operator operand = .ok meaning) :
    (∃ name method, catalog.declaredOperator name [operand] = .ok (some method) ∧
        meaning = some (.method method)) ∨
      meaning = (builtinUnary? operator operand).map .builtin := by
  unfold resolveUnary at resolved
  rw [bind_eq_ok] at resolved
  obtain ⟨declared, isDeclared, rest⟩ := resolved
  cases declared with
  | some method =>
      rw [pure_eq_ok] at rest
      exact .inl ⟨_, method, isDeclared, rest.symm⟩
  | none =>
      rw [pure_eq_ok] at rest
      exact .inr rest.symm

theorem resolveBinary_method {operator : BinaryOperator} {left right : DataType} {method : Method}
    (resolved : catalog.resolveBinary operator left right = .ok (some (.method method))) :
    (∃ owner, catalog.DeclaresMethod owner true method) ∧ method.parameters.length = 2 := by
  rcases resolveBinary_cases resolved with ⟨name, other, declared, same⟩ | builtin
  · cases same
    exact declaresMethod_of_declaredOperator declared
  · obtain ⟨result, _, impossible⟩ := Option.map_eq_some_iff.mp builtin.symm
    cases impossible

theorem resolveUnary_method {operator : UnaryOperator} {operand : DataType} {method : Method}
    (resolved : catalog.resolveUnary operator operand = .ok (some (.method method))) :
    (∃ owner, catalog.DeclaresMethod owner true method) ∧ method.parameters.length = 1 := by
  rcases resolveUnary_cases resolved with ⟨name, other, declared, same⟩ | builtin
  · cases same
    exact declaresMethod_of_declaredOperator declared
  · obtain ⟨result, _, impossible⟩ := Option.map_eq_some_iff.mp builtin.symm
    cases impossible

theorem applyBinary_wellFormed (constants : catalog.Constants constant) {refusal : TypingError}
    {operator : BinaryOperator} {left right term : Term}
    (wellFormedLeft : catalog.WellFormed constant receiver left)
    (wellFormedRight : catalog.WellFormed constant receiver right)
    (found : catalog.applyBinary refusal operator left right = .ok term) :
    catalog.WellFormed constant receiver term := by
  unfold applyBinary at found
  rw [bind_eq_ok] at found
  obtain ⟨meaning, resolved, found⟩ := found
  split at found
  · rw [pure_eq_ok] at found
    rw [← found]
    exact wellFormed_two rfl wellFormedLeft wellFormedRight resolved
  · rename_i method
    obtain ⟨⟨owner, declares⟩, binary⟩ := resolveBinary_method resolved
    rw [bind_eq_ok] at found
    obtain ⟨passed, adapted, found⟩ := found
    have wellFormedBoth : ∀ argument ∈ [left, right],
        catalog.WellFormed constant receiver argument := by
      intro argument member
      rw [List.mem_cons, List.mem_singleton] at member
      rcases member with rfl | rfl
      · exact wellFormedLeft
      · exact wellFormedRight
    obtain ⟨wellFormed, passes⟩ :=
      adaptArguments_fits constants (constants.ofMethod declares) wellFormedBoth adapted
    split at found
    · rename_i first second rest
      rw [pure_eq_ok] at found
      have exact : rest = [] := by
        have count := passes.length_eq
        rw [binary, List.length_cons, List.length_cons] at count
        exact List.length_eq_zero_iff.mp (by omega)
      subst exact
      rw [← found]
      apply wellFormed_two rfl (wellFormed first (by simp)) (wellFormed second (by simp))
      exact ⟨⟨owner, declares⟩, passes⟩
    · cases found
  · cases found

theorem builtin?_result {operator : BinaryOperator} {left right result : DataType}
    (found : operator.builtin? left right = some result) :
    (result = .boolean ∧ (operator.isComparison = true ∨ left.isBoolean = true)) ∨
      result = left := by
  unfold BinaryOperator.builtin? at found
  split at found
  · rename_i booleans
    rw [Bool.and_eq_true] at booleans
    split at found
    · cases found
      exact .inl ⟨rfl, .inr booleans.1⟩
    · cases found
  · split at found
    · split at found
      · split at found
        · cases found
          exact .inr rfl
        · cases found
      · split at found
        · cases found
        · split at found
          · rename_i comparison
            cases found
            exact .inl ⟨rfl, .inl comparison⟩
          · split at found
            · cases found
              exact .inr rfl
            · split at found
              · cases found
                exact .inr rfl
              · cases found
    · cases found

theorem unary_builtin?_result {operator : UnaryOperator} {operand result : DataType}
    (found : operator.builtin? operand = some result) : result = operand := by
  unfold UnaryOperator.builtin? at found
  obtain ⟨kind, _, applies⟩ := Option.bind_eq_some_iff.mp found
  cases operator <;>
    · dsimp only at applies
      split at applies
      · cases applies
        rfl
      · cases applies

theorem builtinBinary?_scalars {operator : BinaryOperator} {left right : Scalar}
    {result : DataType}
    (found : catalog.builtinBinary? operator (.ofScalar left) (.ofScalar right) = some result) :
    operator.builtin? (.ofScalar left) (.ofScalar right) = some result := by
  unfold builtinBinary? at found
  cases plain : operator.builtin? (.ofScalar left) (.ofScalar right) with
  | some type =>
      rw [plain] at found
      exact found
  | none =>
      have notReferences : catalog.areComparable (.ofScalar left) (.ofScalar right) = false := by
        unfold areComparable
        rw [isReferenceType_ofScalar]
        rfl
      have notMarked : (DataType.ofScalar left).isNullable = false := rfl
      simp only [plain, notReferences, notMarked, Bool.and_false, Bool.false_and,
        Bool.false_eq_true, if_false, reduceCtorEq] at found

theorem applyBinary_numbers {refusal : TypingError} {operator : BinaryOperator}
    {left right term : Term} {leftKind rightKind : Scalar}
    (leftType : left.type = .ofScalar leftKind) (rightType : right.type = .ofScalar rightKind)
    (numeric : leftKind.isNumeric = true) (notComparison : operator.isComparison = false)
    (found : catalog.applyBinary refusal operator left right = .ok term) :
    term.type = .ofScalar leftKind := by
  unfold applyBinary at found
  rw [leftType, rightType, resolveBinary_scalars, bind_eq_ok] at found
  obtain ⟨meaning, resolved, found⟩ := found
  cases resolved
  cases builtin : catalog.builtinBinary? operator (.ofScalar leftKind) (.ofScalar rightKind) with
  | none =>
      rw [builtin] at found
      cases found
  | some result =>
      simp only [builtin, Option.map_some, pure_eq_ok] at found
      rw [← found]
      rcases builtin?_result (builtinBinary?_scalars builtin) with ⟨_, comparison | boolean⟩ | same
      · rw [notComparison] at comparison
        cases comparison
      · rw [DataType.isBoolean_ofScalar, beq_iff_eq] at boolean
        rw [boolean] at numeric
        cases numeric
      · exact same

theorem isNumeric_of_promoted? {left right kind : Scalar}
    (met : left.promoted? right = some kind) : kind.isNumeric = true := by
  unfold Scalar.promoted? at met
  dsimp only at met
  split at met
  · split at met <;> cases met
    rfl
  · split at met
    · cases met
      rfl
    · split at met
      · cases met
        rfl
      · split at met
        · split at met <;> cases met
          rfl
        · split at met
          · cases met
            rfl
          · split at met
            · cases met
              split <;> rfl
            · cases met
              rfl

theorem promoteBoth_wellFormed {refusal : TypingError} {left right : Term}
    {promoted : Term × Term} (wellFormedLeft : catalog.WellFormed constant receiver left)
    (wellFormedRight : catalog.WellFormed constant receiver right)
    (found : promoteBoth refusal left right = .ok promoted) :
    catalog.WellFormed constant receiver promoted.1 ∧
      catalog.WellFormed constant receiver promoted.2 := by
  unfold promoteBoth at found
  split at found
  · rename_i leftKind rightKind isLeft isRight
    split at found
    · rename_i numeric
      rw [Bool.and_eq_true] at numeric
      split at found
      · rename_i kind met
        cases found
        have target := isNumeric_of_promoted? met
        refine ⟨convertTo_wellFormed wellFormedLeft fun _ => ?_,
          convertTo_wellFormed wellFormedRight fun _ => ?_⟩
        · rw [DataType.eq_ofScalar isLeft]
          exact explicitConversion?_scalars numeric.1 target
        · rw [DataType.eq_ofScalar isRight]
          exact explicitConversion?_scalars numeric.2 target
      · cases found
    · cases found
      exact ⟨wellFormedLeft, wellFormedRight⟩
  · cases found
    exact ⟨wellFormedLeft, wellFormedRight⟩

theorem promotedTerm_wellFormed (constants : catalog.Constants constant) {refusal : TypingError}
    {operator : BinaryOperator} {left right term : Term}
    (wellFormedLeft : catalog.WellFormed constant receiver left)
    (wellFormedRight : catalog.WellFormed constant receiver right)
    (found : catalog.promotedTerm refusal operator left right = .ok term) :
    catalog.WellFormed constant receiver term := by
  unfold promotedTerm at found
  rw [bind_eq_ok] at found
  obtain ⟨⟨first, second⟩, promoted, applied⟩ := found
  obtain ⟨wellFormedFirst, wellFormedSecond⟩ :=
    promoteBoth_wellFormed wellFormedLeft wellFormedRight promoted
  exact applyBinary_wellFormed constants wellFormedFirst wellFormedSecond applied

theorem promotedTerm_numbers {refusal : TypingError} {operator : BinaryOperator}
    {left right term : Term} {kind : Scalar} (leftType : left.type = .ofScalar kind)
    (rightType : right.type = .ofScalar kind) (numeric : kind.isNumeric = true)
    (notComparison : operator.isComparison = false)
    (found : catalog.promotedTerm refusal operator left right = .ok term) :
    ∃ result : Scalar, result.isNumeric = true ∧ term.type = .ofScalar result := by
  unfold promotedTerm promoteBoth at found
  simp only [leftType, rightType, DataType.scalar?_ofScalar, numeric, Bool.and_self, if_true]
    at found
  cases met : kind.promoted? kind with
  | none =>
      rw [met] at found
      cases found
  | some result =>
      simp only [met, bind_eq_ok, Except.ok.injEq] at found
      obtain ⟨_, rfl, applied⟩ := found
      have target := isNumeric_of_promoted? met
      exact ⟨result, target, applyBinary_numbers (left.type_convertTo _) (right.type_convertTo _)
        target notComparison applied⟩

/-! ### Shifts and enumerations -/

theorem isSmallInteger_convert {term : Term} (small : isSmallInteger term.type = true) :
    (catalog.explicitConversion? term.type .int32).isSome = true := by
  unfold isSmallInteger at small
  cases isScalar : term.type.scalar? with
  | none =>
      rw [isScalar] at small
      cases small
  | some kind =>
      rw [isScalar, Option.any_some] at small
      have numeric : kind.isNumeric = true := by
        cases kind with
        | integer kind => rfl
        | _ => cases small
      rw [DataType.eq_ofScalar isScalar]
      have wide : Scalar.int32.isNumeric = true := rfl
      exact explicitConversion?_scalars numeric wide

theorem widened_wellFormed {term : Term}
    (wellFormed : catalog.WellFormed constant receiver term) :
    catalog.WellFormed constant receiver
      (if isSmallInteger term.type then .convert term .int32 else term) := by
  split
  · rename_i small
    exact wellFormed_one rfl wellFormed (isSmallInteger_convert small)
  · exact wellFormed

theorem zeroShift_wellFormed (constants : catalog.Constants constant) {refusal : TypingError}
    {operand count shifted : Term} {signed unsigned : IntegerKind}
    (operandType : operand.type = .ofScalar (.integer signed)) (countType : count.type = .int32)
    (wellFormedOperand : catalog.WellFormed constant receiver operand)
    (wellFormedCount : catalog.WellFormed constant receiver count)
    (found : catalog.applyBinary refusal .shiftRight
      (.convert operand (.ofScalar (.integer unsigned))) count = .ok shifted) :
    catalog.WellFormed constant receiver (.convert shifted operand.type) := by
  have wellFormedUnsigned : catalog.WellFormed constant receiver
      (.convert operand (.ofScalar (.integer unsigned))) := by
    refine wellFormed_one rfl wellFormedOperand ?_
    change (catalog.explicitConversion? operand.type _).isSome = true
    rw [operandType]
    exact explicitConversion?_scalars rfl rfl
  have isInt32 : count.type = .ofScalar .int32 := countType
  have shiftedType : shifted.type = .ofScalar (.integer unsigned) :=
    applyBinary_numbers rfl isInt32 rfl rfl found
  refine wellFormed_one rfl
    (applyBinary_wellFormed constants wellFormedUnsigned wellFormedCount found) ?_
  change (catalog.explicitConversion? shifted.type operand.type).isSome = true
  rw [shiftedType, operandType]
  exact explicitConversion?_scalars rfl rfl

theorem shiftTerm_wellFormed (constants : catalog.Constants constant) {refusal : TypingError}
    {operator : BinaryOperator} {left right term : Term}
    (wellFormedLeft : catalog.WellFormed constant receiver left)
    (wellFormedRight : catalog.WellFormed constant receiver right)
    (found : catalog.shiftTerm refusal operator left right = .ok term) :
    catalog.WellFormed constant receiver term := by
  have wellFormedOperand := widened_wellFormed wellFormedLeft
  have wellFormedCount := widened_wellFormed wellFormedRight
  unfold shiftTerm at found
  dsimp only at found
  generalize (if isSmallInteger left.type then Term.convert left .int32 else left) = operand
    at found wellFormedOperand
  generalize (if isSmallInteger right.type then Term.convert right .int32 else right) = count
    at found wellFormedCount
  split at found
  · cases found
  · rename_i fits
    rw [Bool.not_eq_true, Bool.or_eq_false_iff] at fits
    have countType : count.type = .int32 := by
      simpa only [bne_eq_false_iff_eq] using fits.2
    split at found
    · rename_i kind unsigned
      rw [bind_eq_ok] at found
      obtain ⟨shifted, applied, found⟩ := found
      rw [pure_eq_ok] at found
      rw [← found]
      split at unsigned
      · rename_i isScalar
        exact zeroShift_wellFormed constants (DataType.eq_ofScalar isScalar) countType
          wellFormedOperand wellFormedCount applied
      · rename_i isScalar
        exact zeroShift_wellFormed constants (DataType.eq_ofScalar isScalar) countType
          wellFormedOperand wellFormedCount applied
      · cases unsigned
    · exact applyBinary_wellFormed constants wellFormedOperand wellFormedCount found
    · exact applyBinary_wellFormed constants wellFormedOperand wellFormedCount found

def EnumeratesIntegers (catalog : Catalog) : Prop :=
  ∀ type kind, catalog.underlying? type = some kind → kind.isInteger = true

theorem EnumeratesIntegers.of_entries
    (integers : catalog.entries.all fun entry => entry.underlying?.all Scalar.isInteger) :
    catalog.EnumeratesIntegers := by
  rw [List.all_eq_true] at integers
  intro type kind found
  unfold underlying? at found
  split at found
  · cases found
  · obtain ⟨entry, known, isKind⟩ := Option.bind_eq_some_iff.mp found
    have isInteger := integers entry (find?_mem known).1
    rwa [isKind] at isInteger

theorem isNumeric_of_isInteger {kind : Scalar} (integer : kind.isInteger = true) :
    kind.isNumeric = true := by
  cases kind with
  | integer kind => rfl
  | _ => cases integer

theorem enumerationTerm_operands {refusal : TypingError} {operator : BinaryOperator}
    {type underlying leftType rightType : DataType} {left right term : Term}
    (among : type = leftType ∨ type = rightType)
    (found : catalog.enumerationTerm refusal operator type underlying leftType rightType left
      right = .ok term) :
    (leftType = type ∨ leftType = underlying) ∧ (rightType = type ∨ rightType = underlying) := by
  unfold enumerationTerm at found
  generalize isOther : (if type == leftType then rightType else leftType) = other at found
  dsimp only at found
  by_cases refused : (leftType != rightType && other != underlying) = true
  · rw [if_pos refused] at found
    cases found
  · rw [Bool.not_eq_true, Bool.and_eq_false_iff, bne_eq_false_iff_eq, bne_eq_false_iff_eq]
      at refused
    rcases among with rfl | rfl
    · rw [beq_self_eq_true, if_pos rfl] at isOther
      subst isOther
      exact ⟨.inl rfl, refused.imp Eq.symm id⟩
    · refine ⟨?_, .inl rfl⟩
      by_cases same : type = leftType
      · exact .inl same.symm
      · rw [beq_eq_false_iff_ne.mpr same, if_neg Bool.false_ne_true] at isOther
        subst isOther
        exact refused

theorem enumerationTerm_wellFormed (constants : catalog.Constants constant)
    (enumerates : catalog.EnumeratesIntegers) {refusal : TypingError} {operator : BinaryOperator}
    {type : DataType} {left right term : Term} {kind : Scalar}
    (isEnumeration : catalog.underlying? type = some kind)
    (among : type = left.type ∨ type = right.type)
    (wellFormedLeft : catalog.WellFormed constant receiver left)
    (wellFormedRight : catalog.WellFormed constant receiver right)
    (found : catalog.enumerationTerm refusal operator type (.ofScalar kind) left.type right.type
      left right = .ok term) :
    catalog.WellFormed constant receiver term := by
  have numeric := isNumeric_of_isInteger (enumerates type kind isEnumeration)
  have typeNumber : catalog.isNumberLike type.underlying = true := by
    rw [underlying_of_underlying? isEnumeration]
    exact isNumberLike_of_underlying? isEnumeration
  have toInteger : ∀ operand : Term, operand.type = type ∨ operand.type = .ofScalar kind →
      catalog.WellFormed constant receiver operand →
      catalog.WellFormed constant receiver (operand.convertTo (.ofScalar kind)) := by
    intro operand side wellFormed
    refine convertTo_wellFormed wellFormed fun different => ?_
    rw [side.resolve_right different]
    exact explicitConversion?_numbers typeNumber (isNumberLike_ofScalar numeric)
  obtain ⟨sideLeft, sideRight⟩ := enumerationTerm_operands among found
  have wellFormedFirst := toInteger left sideLeft wellFormedLeft
  have wellFormedSecond := toInteger right sideRight wellFormedRight
  unfold enumerationTerm at found
  generalize (if type == left.type then right.type else left.type) = other at found
  dsimp only at found
  by_cases refused : (left.type != right.type && other != .ofScalar kind) = true
  · rw [if_pos refused] at found
    cases found
  · rw [if_neg refused, bind_eq_ok] at found
    obtain ⟨result, promoted, found⟩ := found
    have wellFormedResult :=
      promotedTerm_wellFormed constants wellFormedFirst wellFormedSecond promoted
    split at found
    · rw [pure_eq_ok] at found
      rw [← found]
      exact wellFormedResult
    · rename_i notComparison
      rw [pure_eq_ok] at found
      rw [← found]
      obtain ⟨resultKind, resultNumber, resultType⟩ :=
        promotedTerm_numbers (left.type_convertTo _) (right.type_convertTo _) numeric
          (Bool.eq_false_iff.mpr notComparison) promoted
      refine wellFormed_one rfl wellFormedResult ?_
      change (catalog.explicitConversion? result.type type).isSome = true
      rw [resultType]
      exact explicitConversion?_numbers (isNumberLike_ofScalar resultNumber) typeNumber

theorem retypeNulls_wellFormed (constants : catalog.Constants constant) {left right : Term}
    (wellFormedLeft : catalog.WellFormed constant receiver left)
    (wellFormedRight : catalog.WellFormed constant receiver right) :
    catalog.WellFormed constant receiver (catalog.retypeNulls left right).1 ∧
      catalog.WellFormed constant receiver (catalog.retypeNulls left right).2 := by
  unfold retypeNulls
  split
  · rename_i null
    rw [Bool.and_eq_true] at null
    exact ⟨wellFormed_constant (constants.ofNull _ null.2), wellFormedRight⟩
  · split
    · rename_i null
      rw [Bool.and_eq_true] at null
      exact ⟨wellFormedLeft, wellFormed_constant (constants.ofNull _ null.2)⟩
    · exact ⟨wellFormedLeft, wellFormedRight⟩

theorem enumeration?_spec {left right type underlying : DataType}
    (found : catalog.enumeration? left right = some (type, underlying)) :
    (type = left ∨ type = right) ∧
      ∃ kind, catalog.underlying? type = some kind ∧ underlying = .ofScalar kind := by
  unfold enumeration? at found
  obtain ⟨candidate, member, isEnumeration⟩ := List.exists_of_findSome?_eq_some found
  obtain ⟨kind, isKind, same⟩ := Option.map_eq_some_iff.mp isEnumeration
  cases same
  rw [List.mem_cons, List.mem_singleton] at member
  exact ⟨member, kind, isKind, rfl⟩

theorem acceptsNull_of_underlying? {type : DataType} {kind : Scalar}
    (found : catalog.underlying? type = some kind) : catalog.acceptsNull type = false := by
  unfold underlying? at found
  split at found
  · cases found
  · rename_i plain
    rw [Bool.not_eq_true, Bool.or_eq_false_iff] at plain
    obtain ⟨entry, known, isKind⟩ := Option.bind_eq_some_iff.mp found
    have valueType : entry.isValueType = true := by
      unfold TypeEntry.underlying? at isKind
      unfold TypeEntry.isValueType
      split at isKind
      · rename_i enumerated
        rw [enumerated]
      · cases isKind
    unfold acceptsNull isReferenceType isValueType DataType.isNullable
    rw [plain.1, plain.2, known]
    simp only [Option.any_some, valueType, Bool.and_false, Bool.or_true, Bool.not_false,
      Bool.and_self, Bool.not_true, Bool.or_false]

theorem operatorTerm_wellFormed (constants : catalog.Constants constant)
    (enumerates : catalog.EnumeratesIntegers) {refusal : TypingError} {operator : BinaryOperator}
    {left right term : Term} (wellFormedLeft : catalog.WellFormed constant receiver left)
    (wellFormedRight : catalog.WellFormed constant receiver right)
    (found : catalog.operatorTerm refusal operator left right = .ok term) :
    catalog.WellFormed constant receiver term := by
  obtain ⟨wellFormedFirst, wellFormedSecond⟩ :=
    retypeNulls_wellFormed constants wellFormedLeft wellFormedRight
  unfold operatorTerm at found
  dsimp only at found
  split at found
  · rename_i type underlying isEnumeration
    obtain ⟨among, kind, isKind, rfl⟩ := enumeration?_spec isEnumeration
    obtain ⟨sideLeft, sideRight⟩ := enumerationTerm_operands among found
    have noNull : ∀ operand : Term, operand.type = type ∨ operand.type = .ofScalar kind →
        catalog.acceptsNull operand.type = false := by
      rintro operand (ofType | ofKind)
      · rw [ofType]
        exact acceptsNull_of_underlying? isKind
      · rw [ofKind]
        exact acceptsNull_ofScalar kind
    have unchanged : catalog.retypeNulls left right = (left, right) := by
      unfold retypeNulls
      rw [noNull left sideLeft, noNull right sideRight, Bool.and_false, Bool.and_false]
      rfl
    rw [unchanged] at found
    exact enumerationTerm_wellFormed constants enumerates isKind among wellFormedLeft
      wellFormedRight found
  · split at found
    · exact shiftTerm_wellFormed constants wellFormedFirst wellFormedSecond found
    · exact promotedTerm_wellFormed constants wellFormedFirst wellFormedSecond found

/-! ### Concatenation, logic and the choice after a null -/

theorem concatOperands_wellFormed {term operand : Term}
    (wellFormed : catalog.WellFormed constant receiver term)
    (member : operand ∈ concatOperands term) : catalog.WellFormed constant receiver operand := by
  unfold concatOperands at member
  split at member
  · rename_i method arguments
    split at member
    · split at member
      · rename_i itemType items
        have array : catalog.WellFormed constant receiver (.newArray itemType items) :=
          wellFormed.child (List.mem_singleton_self _)
        exact array.child member
      · exact wellFormed.child member
    · rw [List.mem_singleton.mp member]
      exact wellFormed
  · rw [List.mem_singleton.mp member]
    exact wellFormed

theorem concatTerm_wellFormed (constants : catalog.Constants constant) {left right term : Term}
    (wellFormedLeft : catalog.WellFormed constant receiver left)
    (wellFormedRight : catalog.WellFormed constant receiver right)
    (found : catalog.concatTerm left right = .ok term) :
    catalog.WellFormed constant receiver term := by
  have wellFormedOperands : ∀ operand ∈ concatOperands left ++ concatOperands right,
      catalog.WellFormed constant receiver operand := by
    intro operand member
    rw [List.mem_append] at member
    rcases member with ofLeft | ofRight
    · exact concatOperands_wellFormed wellFormedLeft ofLeft
    · exact concatOperands_wellFormed wellFormedRight ofRight
  unfold concatTerm at found
  dsimp only at found
  generalize concatOperands left ++ concatOperands right = operands at found wellFormedOperands
  split at found
  · rename_i index form chosen
    split at found
    · rename_i method selected
      rw [bind_eq_ok] at found
      obtain ⟨passed, adapted, found⟩ := found
      rw [pure_eq_ok] at found
      rw [← found]
      have declares : catalog.DeclaresMethod .string true method :=
        declaresMethod_of_methods (List.mem_of_getElem? selected)
      obtain ⟨wellFormedPassed, passes⟩ :=
        adaptArguments_fits constants (constants.ofMethod declares) (by
          intro argument member
          split at member
          · exact wellFormedOperands argument member
          · obtain ⟨operand, isOperand, rfl⟩ := List.mem_map.mp member
            split
            · rename_i valueType
              exact wellFormed_one rfl (wellFormedOperands operand isOperand)
                (explicitConversion?_object valueType)
            · exact wellFormedOperands operand isOperand) adapted
      exact .intro ⟨⟨.string, declares⟩, passes⟩ wellFormedPassed
    · cases found
  · cases found

theorem coalesceTerm_wellFormed (constants : catalog.Constants constant) {refusal : TypingError}
    {left right term : Term} (wellFormedLeft : catalog.WellFormed constant receiver left)
    (wellFormedRight : catalog.WellFormed constant receiver right)
    (found : catalog.coalesceTerm refusal left right = .ok term) :
    catalog.WellFormed constant receiver term := by
  unfold coalesceTerm at found
  split at found
  · cases found
  · split at found
    · rename_i converted implicit
      cases found
      obtain ⟨wellFormed, serves⟩ := implicitly?_fits constants wellFormedRight implicit
      exact wellFormed_two rfl wellFormedLeft wellFormed serves
    · cases found

theorem binaryTerm_wellFormed (constants : catalog.Constants constant)
    (enumerates : catalog.EnumeratesIntegers) {operator : BinaryOperator}
    {left right term : Term} (wellFormedLeft : catalog.WellFormed constant receiver left)
    (wellFormedRight : catalog.WellFormed constant receiver right)
    (found : catalog.binaryTerm operator left right = .ok term) :
    catalog.WellFormed constant receiver term := by
  have logical : ∀ {logic : BinaryOperator} {refusal : TypingError},
      (do
        let left ← catalog.requireImplicit left .boolean
        let right ← catalog.requireImplicit right .boolean
        catalog.applyBinary refusal logic left right) = .ok term →
      catalog.WellFormed constant receiver term := by
    intro logic refusal built
    simp only [bind_eq_ok] at built
    obtain ⟨first, isFirst, second, isSecond, applied⟩ := built
    exact applyBinary_wellFormed constants
      (requireImplicit_fits constants wellFormedLeft isFirst).1
      (requireImplicit_fits constants wellFormedRight isSecond).1 applied
  unfold binaryTerm at found
  dsimp only at found
  split at found
  · exact logical found
  · exact logical found
  · exact coalesceTerm_wellFormed constants wellFormedLeft wellFormedRight found
  · split at found
    · exact concatTerm_wellFormed constants wellFormedLeft wellFormedRight found
    · exact operatorTerm_wellFormed constants enumerates wellFormedLeft wellFormedRight found
  · exact operatorTerm_wellFormed constants enumerates wellFormedLeft wellFormedRight found

end Catalog

end Formula
