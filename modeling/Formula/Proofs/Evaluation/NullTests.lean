import Formula.Proofs.Evaluation.Lifting
import Formula.Proofs.Typing.NullConstants

/-!
Whether a value is null, asked with an operator for equality and the null literal. For references
and for scalars with null added both operators are built in, on either side of the literal, and
answer by the value alone; for other value types with null added neither is.
-/

namespace Formula

namespace Catalog

variable {catalog : Catalog}

def LeavesEquality (catalog : Catalog) (type : DataType) : Prop :=
  ∀ operator : BinaryOperator, operator.isEquality = true → ∀ name,
    operator.methodName? = some name → ∀ method ∈ catalog.methods type name true,
      method.parameters.length ≠ 2

theorem LeavesEquality.of_entry {type : DataType}
    (bare : (catalog.entryFor? type).all (·.methods.isEmpty) = true) :
    catalog.LeavesEquality type := by
  intro operator _ name _ method listed
  have nothing : catalog.methods type name true = [] := by
    unfold methods declaringEntries
    cases found : catalog.entryFor? type with
    | none => rfl
    | some entry =>
        rw [found, Option.all_some, List.isEmpty_iff] at bare
        simp only [if_true, List.flatMap_cons, List.flatMap_nil, bare, List.append_nil,
          List.filter_nil, List.foldl_nil]
  rw [nothing] at listed
  cases listed

theorem mem_operatorOwners {operands : List DataType} {owner : DataType}
    (member : owner ∈ catalog.operatorOwners operands) : owner ∈ operands := by
  unfold operatorOwners at member
  have adds : ∀ (owners : List DataType) (operand : DataType),
      (if operand.scalar?.isSome || owners.any (fun owner =>
          (catalog.entryFor? owner).map TypeEntry.id ==
            (catalog.entryFor? operand).map TypeEntry.id) then owners
        else owners ++ [operand]) = owners ∨
      (if operand.scalar?.isSome || owners.any (fun owner =>
          (catalog.entryFor? owner).map TypeEntry.id ==
            (catalog.entryFor? operand).map TypeEntry.id) then owners
        else owners ++ [operand]) = owners ++ [operand] := by
    intro owners operand
    split
    · exact .inl rfl
    · exact .inr rfl
  rcases mem_of_foldl adds member with impossible | listed
  · cases impossible
  · exact listed

theorem declaredOperator_none {operator : BinaryOperator} (equality : operator.isEquality = true)
    {name : String} (named : operator.methodName? = some name) {left right : DataType}
    (leavesLeft : catalog.LeavesEquality left) (leavesRight : catalog.LeavesEquality right) :
    catalog.declaredOperator name [left, right] = .ok none := by
  have nothing : ((catalog.operatorOwners [left, right]).flatMap fun owner =>
      (catalog.methods owner name true).filter fun method =>
        method.parameters.length == [left, right].length) = [] := by
    rw [List.flatMap_eq_nil_iff]
    intro owner member
    rw [List.filter_eq_nil_iff]
    intro method listed
    rw [beq_iff_eq]
    have isOperand := mem_operatorOwners member
    simp only [List.mem_cons, List.not_mem_nil, or_false] at isOperand
    rcases isOperand with rfl | rfl
    · exact leavesLeft operator equality name named method listed
    · exact leavesRight operator equality name named method listed
  unfold declaredOperator
  rw [nothing]
  rfl

theorem resolveBinary_equality {operator : BinaryOperator} (equality : operator.isEquality = true)
    {left right : DataType} (leavesLeft : catalog.LeavesEquality left)
    (leavesRight : catalog.LeavesEquality right) :
    catalog.resolveBinary operator left right =
      .ok ((catalog.builtinBinary? operator left right).map .builtin) := by
  unfold resolveBinary
  cases operator with
  | equal | notEqual =>
      rw [show BinaryOperator.methodName? _ = some _ from rfl]
      dsimp only
      rw [declaredOperator_none equality rfl leavesLeft leavesRight]
      rfl
  | _ => cases equality

theorem underlying?_of_acceptsNull {type : DataType} (accepts : catalog.acceptsNull type = true) :
    catalog.underlying? type = none := by
  unfold underlying?
  split
  · rfl
  · rename_i unmarked
    rw [Bool.not_eq_true, Bool.or_eq_false_iff] at unmarked
    cases found : catalog.find? type.id with
    | none => rfl
    | some entry =>
        have notNullable : type.isNullable = false := by
          unfold DataType.isNullable
          rw [unmarked.2, Bool.and_false]
        unfold acceptsNull isReferenceType isValueType at accepts
        rw [notNullable, unmarked.1, found] at accepts
        simp only [Option.any_some, Bool.not_false, Bool.true_and, Bool.false_or,
          Bool.and_eq_true, Bool.not_eq_true', Bool.or_eq_false_iff] at accepts
        unfold TypeEntry.isValueType at accepts
        simp only [Option.bind_some]
        unfold TypeEntry.underlying?
        cases kind : entry.kind with
        | enumType underlying =>
            rw [kind] at accepts
            cases accepts.2.2
        | _ => rfl

theorem operatorTerm_equality {operator : BinaryOperator} (equality : operator.isEquality = true)
    {refusal : TypingError} {left right newLeft newRight : Term}
    (acceptsLeft : catalog.acceptsNull left.type = true)
    (acceptsRight : catalog.acceptsNull right.type = true)
    (retyped : catalog.retypeNulls left right = (newLeft, newRight))
    (notScalar : newLeft.type.scalar? = none) :
    catalog.operatorTerm refusal operator left right =
      catalog.applyBinary refusal operator newLeft newRight := by
  have notShift : operator.isShift = false := by
    cases operator with
    | equal | notEqual => rfl
    | _ => cases equality
  have noEnumeration : catalog.enumeration? left.type right.type = none := by
    unfold enumeration?
    simp only [List.findSome?_cons, List.findSome?_nil, underlying?_of_acceptsNull acceptsLeft,
      underlying?_of_acceptsNull acceptsRight, Option.map_none]
  have unpromoted : promoteBoth refusal newLeft newRight = .ok (newLeft, newRight) := by
    unfold promoteBoth
    rw [notScalar]
  unfold operatorTerm
  rw [retyped]
  dsimp only
  rw [noEnumeration, notShift]
  unfold promotedTerm
  rw [unpromoted]
  rfl

theorem applyBinary_equality {operator : BinaryOperator} (equality : operator.isEquality = true)
    {refusal : TypingError} {left right : Term} (leavesLeft : catalog.LeavesEquality left.type)
    (leavesRight : catalog.LeavesEquality right.type) :
    catalog.applyBinary refusal operator left right =
      match catalog.builtinBinary? operator left.type right.type with
      | some result => .ok (.binary operator left right result)
      | none => .error refusal := by
  unfold applyBinary
  rw [resolveBinary_equality equality leavesLeft leavesRight]
  cases catalog.builtinBinary? operator left.type right.type <;> rfl

theorem builtin?_of_not_scalar {operator : BinaryOperator} {left right : DataType}
    (notScalar : left.scalar? = none) : operator.builtin? left right = none := by
  have notTruth : left.isBoolean = false := by
    unfold DataType.isBoolean
    rw [beq_eq_false_iff_ne]
    rintro rfl
    cases notScalar
  unfold BinaryOperator.builtin?
  rw [notTruth, notScalar]
  rfl

theorem appliesTo_of_equality {operator : BinaryOperator} (equality : operator.isEquality = true)
    (kind : Scalar) : operator.appliesTo kind = true := by
  cases operator with
  | equal | notEqual =>
      cases kind with
      | integer kind => cases kind <;> decide
      | _ => decide
  | _ => cases equality

theorem builtinBinary?_comparable {operator : BinaryOperator}
    (equality : operator.isEquality = true) {left right : DataType}
    (comparable : catalog.areComparable left right = true) :
    catalog.builtinBinary? operator left right = some .boolean := by
  have isReference : catalog.isReferenceType left = true := by
    unfold areComparable at comparable
    simp only [Bool.and_eq_true] at comparable
    exact comparable.1.1
  have notScalar := scalar?_of_acceptsNull (acceptsNull_of_isReferenceType isReference)
  unfold builtinBinary?
  rw [builtin?_of_not_scalar notScalar, equality, comparable]
  rfl

theorem areComparable_same {type : DataType} (isReference : catalog.isReferenceType type = true) :
    catalog.areComparable type type = true := by
  unfold areComparable
  rw [isReference, isAssignable_refl]
  rfl

theorem areComparable_object (root : catalog.isReferenceType .object = true) {type : DataType}
    (isReference : catalog.isReferenceType type = true) :
    catalog.areComparable type .object = true ∧ catalog.areComparable .object type = true := by
  unfold areComparable
  rw [isReference, root, isAssignable_object]
  constructor
  · rw [Bool.or_true]
    rfl
  · rfl

/-- Equality on a value type with null added is built in if it is on the type itself. -/
theorem builtinBinary?_nullable {operator : BinaryOperator}
    (equality : operator.isEquality = true) {type : DataType}
    (isNullable : type.isNullable = true) :
    catalog.builtinBinary? operator type type =
      type.underlying.scalar?.map fun _ => .boolean := by
  have accepts : catalog.acceptsNull type = true := by
    unfold acceptsNull
    rw [isNullable, Bool.true_or]
  have notReference : catalog.isReferenceType type = false := by
    cases found : catalog.isReferenceType type with
    | false => rfl
    | true =>
        rw [isNullable_of_isReferenceType found] at isNullable
        cases isNullable
  have incomparable : catalog.areComparable type type = false := by
    unfold areComparable
    rw [notReference]
    rfl
  unfold builtinBinary?
  rw [builtin?_of_not_scalar (scalar?_of_acceptsNull accepts), incomparable, isNullable]
  simp only [Bool.and_false, Bool.false_eq_true, if_false, beq_self_eq_true, Bool.and_self,
    if_true, BinaryOperator.isComparison_of_equality equality]
  cases found : type.underlying.scalar? with
  | none =>
      rw [builtin?_of_not_scalar found]
      rfl
  | some kind =>
      rw [DataType.eq_ofScalar found, BinaryOperator.builtin?_self,
        appliesTo_of_equality equality kind]
      unfold BinaryOperator.resultOn
      rw [BinaryOperator.isComparison_of_equality equality]
      rfl

/-- The null constant that stands next to a term for equality, on either side of it: it takes on the
term's type, unless the term is null itself. -/
theorem exists_null_beside (root : catalog.isReferenceType .object = true) {term : Term}
    (accepts : catalog.acceptsNull term.type = true)
    (plain : term.isNull = true → term.type = .plain term.type.id)
    (leaves : catalog.LeavesEquality term.type)
    (bare : term.isNull = true → catalog.LeavesEquality .object)
    {operator : BinaryOperator} (equality : operator.isEquality = true) :
    ∃ type, catalog.retypeNulls term (.nullOf .object) = (term, .nullOf type) ∧
      catalog.retypeNulls (.nullOf .object) term = (.nullOf type, term) ∧
      catalog.LeavesEquality type ∧ type.scalar? = none ∧
      catalog.builtinBinary? operator term.type type =
        catalog.builtinBinary? operator type term.type ∧
      ((catalog.isReferenceType term.type = true ∨ term.type.underlying.scalar?.isSome = true →
          catalog.builtinBinary? operator term.type type = some .boolean) ∧
        (catalog.isReferenceType term.type = false → term.type.underlying.scalar? = none →
          catalog.builtinBinary? operator term.type type = none)) := by
  have literalNull : (Term.nullOf .object).isNull = true := rfl
  cases isNull : term.isNull with
  | true =>
      have isPlain := plain isNull
      have isReference : catalog.isReferenceType term.type = true := by
        unfold acceptsNull at accepts
        rw [Bool.or_eq_true] at accepts
        rcases accepts with isNullable | isReference
        · rw [isPlain] at isNullable
          cases isNullable
        · exact isReference
      obtain ⟨right, left⟩ := areComparable_object root isReference
      have built := builtinBinary?_comparable equality right
      refine ⟨.object, ?_, ?_, bare isNull, rfl,
        built.trans (builtinBinary?_comparable equality left).symm, fun _ => built, ?_⟩
      · unfold retypeNulls
        simp only [isNull, literalNull, Bool.not_true, Bool.and_false, Bool.false_and,
          Bool.false_eq_true, if_false]
      · unfold retypeNulls
        simp only [isNull, literalNull, Bool.not_true, Bool.and_false, Bool.false_and,
          Bool.false_eq_true, if_false]
      · intro notReference
        rw [isReference] at notReference
        cases notReference
  | false =>
      refine ⟨term.type, ?_, ?_, leaves, scalar?_of_acceptsNull accepts, rfl, ?_, ?_⟩
      · unfold retypeNulls
        simp only [isNull, literalNull, accepts, Bool.not_false, Bool.and_self, Bool.false_and,
          Bool.false_eq_true, if_false, if_true]
      · unfold retypeNulls
        simp only [isNull, literalNull, accepts, Bool.not_false, Bool.and_self, if_true]
      · rintro (isReference | isScalar)
        · exact builtinBinary?_comparable equality (areComparable_same isReference)
        · obtain ⟨kind, isKind⟩ := Option.isSome_iff_exists.mp isScalar
          have isNullable : term.type.isNullable = true := by
            cases marked : term.type.isNullable with
            | true => rfl
            | false =>
                rw [DataType.underlying, marked, if_neg Bool.false_ne_true,
                  scalar?_of_acceptsNull accepts] at isKind
                cases isKind
          rw [builtinBinary?_nullable equality isNullable, isKind]
          rfl
      · intro notReference notScalar
        unfold acceptsNull at accepts
        rw [notReference, Bool.or_false] at accepts
        rw [builtinBinary?_nullable equality accepts, notScalar]
        rfl

theorem binaryTerm_equality {operator : BinaryOperator} (equality : operator.isEquality = true)
    {left right : Term} :
    catalog.binaryTerm operator left right =
      catalog.operatorTerm (.binaryOperator operator.token (catalog.qualifiedName left.type)
        (catalog.qualifiedName right.type)) operator left right := by
  cases operator with
  | equal | notEqual => rfl
  | _ => cases equality

end Catalog

namespace BinaryOperator

def onAbsence (operator : BinaryOperator) (absent : Bool) : Bool :=
  if operator = equal then absent else !absent

theorem applyNull_equality {operator : BinaryOperator} (equality : operator.isEquality = true)
    (value : Value) :
    operator.applyNull value .null = .boolean (operator.onAbsence value.isNull) ∧
      operator.applyNull .null value = .boolean (operator.onAbsence value.isNull) := by
  cases operator with
  | equal | notEqual => cases value <;> exact ⟨rfl, rfl⟩
  | _ => cases equality

end BinaryOperator

namespace Setting

variable {setting : Setting}

theorem evaluate_equality_null {operator : BinaryOperator} (equality : operator.isEquality = true)
    {site : List Nat} {term : Term} {value : Value} (type result : DataType) :
    (setting.evaluate (0 :: site) term = .ok value →
      setting.evaluate site (.binary operator term (.nullOf type) result) =
        .ok (.boolean (operator.onAbsence value.isNull))) ∧
    (setting.evaluate (1 :: site) term = .ok value →
      setting.evaluate site (.binary operator (.nullOf type) term result) =
        .ok (.boolean (operator.onAbsence value.isNull))) := by
  have notAnd : operator ≠ .andAlso := by
    rintro rfl
    cases equality
  have notOr : operator ≠ .orElse := by
    rintro rfl
    cases equality
  have absent : ∀ place, setting.evaluate place (.nullOf type) = .ok .null := by
    intro place
    unfold Term.nullOf evaluate
    rfl
  obtain ⟨nullRight, nullLeft⟩ := BinaryOperator.applyNull_equality equality value
  constructor
  · intro evaluated
    rw [evaluate_operands notAnd notOr result evaluated (absent _), nullRight]
    simp [Value.isNull]
  · intro evaluated
    rw [evaluate_operands notAnd notOr result (absent _) evaluated, nullLeft]
    rfl

end Setting

namespace Scope

variable {scope : Scope}

/-- How the null tests of an expression come out: the trees of an operator for equality with the
null literal on its right and on its left. -/
structure TestsNull (scope : Scope) (operator : BinaryOperator) (expr : Expr) (term : Term) :
    Prop where
  right : ∃ tree, scope.term (.binary operator.token expr (.literal .null)) = .ok tree ∧
    tree.type = .boolean ∧ ∀ (setting : Setting) site value,
      setting.evaluate (0 :: site) term = .ok value →
        setting.evaluate site tree = .ok (.boolean (operator.onAbsence value.isNull))
  left : ∃ tree, scope.term (.binary operator.token (.literal .null) expr) = .ok tree ∧
    tree.type = .boolean ∧ ∀ (setting : Setting) site value,
      setting.evaluate (1 :: site) term = .ok value →
        setting.evaluate site tree = .ok (.boolean (operator.onAbsence value.isNull))

structure RefusesNull (scope : Scope) (operator : BinaryOperator) (expr : Expr) (term : Term) :
    Prop where
  right : scope.term (.binary operator.token expr (.literal .null)) =
    .error (.binaryOperator operator.token (scope.catalog.qualifiedName term.type)
      (scope.catalog.qualifiedName .object))
  left : scope.term (.binary operator.token (.literal .null) expr) =
    .error (.binaryOperator operator.token (scope.catalog.qualifiedName .object)
      (scope.catalog.qualifiedName term.type))

/-- Null tests of an expression whose type accepts null and declares no operator for equality. They
are built in and ask whether the value is null for references and for scalars with null added; for
other value types with null added they are refused. -/
theorem nullTests (root : scope.catalog.isReferenceType .object = true)
    (plain : scope.NamesPlain) {expr : Expr} {term : Term} (built : scope.term expr = .ok term)
    (accepts : scope.catalog.acceptsNull term.type = true)
    (leaves : scope.catalog.LeavesEquality term.type)
    (bare : term.isNull = true → scope.catalog.LeavesEquality .object)
    {operator : BinaryOperator} (equality : operator.isEquality = true) :
    (scope.catalog.isReferenceType term.type = true ∨
        term.type.underlying.scalar?.isSome = true → scope.TestsNull operator expr term) ∧
      (scope.catalog.isReferenceType term.type = false → term.type.underlying.scalar? = none →
        scope.RefusesNull operator expr term) := by
  obtain ⟨type, retypedRight, retypedLeft, leavesNull, notScalar, bothSides, builtin, refused⟩ :=
    Catalog.exists_null_beside root accepts (type_of_isNull plain expr built) leaves bare equality
  have acceptsObject : scope.catalog.acceptsNull (Term.nullOf .object).type = true :=
    Catalog.acceptsNull_of_isReferenceType root
  have leavesOther : scope.catalog.LeavesEquality (Term.nullOf type).type := leavesNull
  have literal : scope.term (.literal .null) = .ok (.nullOf .object) := by
    unfold Scope.term
    rfl
  have onRight : scope.term (.binary operator.token expr (.literal .null)) =
      match scope.catalog.builtinBinary? operator term.type type with
      | some result => .ok (.binary operator term (.nullOf type) result)
      | none => .error (.binaryOperator operator.token (scope.catalog.qualifiedName term.type)
          (scope.catalog.qualifiedName .object)) := by
    rw [term_binary operator built literal, Catalog.binaryTerm_equality equality,
      Catalog.operatorTerm_equality equality accepts acceptsObject retypedRight
        (Catalog.scalar?_of_acceptsNull accepts),
      Catalog.applyBinary_equality equality leaves leavesOther]
    rfl
  have onLeft : scope.term (.binary operator.token (.literal .null) expr) =
      match scope.catalog.builtinBinary? operator type term.type with
      | some result => .ok (.binary operator (.nullOf type) term result)
      | none => .error (.binaryOperator operator.token (scope.catalog.qualifiedName .object)
          (scope.catalog.qualifiedName term.type)) := by
    rw [term_binary operator literal built, Catalog.binaryTerm_equality equality,
      Catalog.operatorTerm_equality equality acceptsObject accepts retypedLeft notScalar,
      Catalog.applyBinary_equality equality leavesOther leaves]
    rfl
  rw [← bothSides] at onLeft
  constructor
  · intro testable
    rw [builtin testable] at onRight onLeft
    exact ⟨⟨_, onRight, rfl, fun setting _ _ => (setting.evaluate_equality_null equality _ _).1⟩,
      ⟨_, onLeft, rfl, fun setting _ _ => (setting.evaluate_equality_null equality _ _).2⟩⟩
  · intro notReference notUnderlying
    rw [refused notReference notUnderlying] at onRight onLeft
    exact ⟨onRight, onLeft⟩

end Scope

/-- A type with two properties that hold null: a number, and a value of an enumeration. -/
def Catalog.absences : Catalog :=
  let level : TypeEntry :=
    { id := ⟨2⟩, name := "Level", namespaceName := "App", kind := .enumType .int32,
      base := some .object }
  let box : TypeEntry :=
    { id := ⟨1⟩, name := "Box", namespaceName := "App", kind := .classType, base := some .object }
  ⟨primitives.entries ++
    [ level, box.addMembers
        [ .staticProperty "Count" (.orNull .int32) (.constant .null),
          .staticProperty "Level" (.orNull ⟨2⟩) (.constant .null) ] ]⟩

namespace Scope

def absences : Scope :=
  ⟨.absences, [.closed "box" ⟨1⟩], none⟩

/-- Whether the number is null can be asked, but not whether the level is. -/
theorem nullTests_absences :
    (∃ term, absences.term (.member (.reference "box") (.reference "Count")) = .ok term ∧
      absences.TestsNull .equal (.member (.reference "box") (.reference "Count")) term) ∧
    ∃ term, absences.term (.member (.reference "box") (.reference "Level")) = .ok term ∧
      absences.RefusesNull .notEqual (.member (.reference "box") (.reference "Level")) term := by
  have root : absences.catalog.isReferenceType .object = true := by decide +kernel
  have plain : absences.NamesPlain := by
    unfold NamesPlain
    decide
  have leaves : ∀ id, absences.catalog.LeavesEquality (.orNull id) := fun id =>
    .of_entry (show (absences.catalog.find? .nullable).all (·.methods.isEmpty) = true by
      decide +kernel)
  have number : (absences.term (.member (.reference "box") (.reference "Count"))).toOption.any
      (fun term => term.isNull = false ∧ term.type = .orNull .int32) = true := by
    decide +kernel
  have level : (absences.term (.member (.reference "box") (.reference "Level"))).toOption.any
      (fun term => term.isNull = false ∧ term.type = .orNull ⟨2⟩) = true := by
    decide +kernel
  constructor
  · obtain ⟨term, built, checked⟩ := ok_of_any number
    obtain ⟨notNull, isType⟩ := of_decide_eq_true checked
    refine ⟨term, built, (nullTests root plain built ?_ ?_ ?_ rfl).1 (.inr ?_)⟩
    · rw [isType]
      rfl
    · rw [isType]
      exact leaves .int32
    · intro isNull
      rw [notNull] at isNull
      cases isNull
    · rw [isType]
      decide
  · obtain ⟨term, built, checked⟩ := ok_of_any level
    obtain ⟨notNull, isType⟩ := of_decide_eq_true checked
    refine ⟨term, built, (nullTests root plain built ?_ ?_ ?_ rfl).2 ?_ ?_⟩
    · rw [isType]
      rfl
    · rw [isType]
      exact leaves ⟨2⟩
    · intro isNull
      rw [notNull] at isNull
      cases isNull
    · rw [isType]
      decide +kernel
    · rw [isType]
      decide

end Scope

end Formula
