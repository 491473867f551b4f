import Formula.Evaluation.Basic
import Formula.Proofs.Soundness.Values

/-!
What the built-in operators and casts make of values of the types they are defined for: values of
the type of the result, or a fault that is not about the tree. The one operator that is defined
for more types than it works on is the shift that fills with zeros.
-/

namespace Formula

/-! ### Outcomes that do not blame the tree -/

/-- An outcome is a good value or a fault, and where it blames the tree, this has a reason. -/
def Yields {α : Type} (good : α → Prop) (reason : Prop) : Outcome α → Prop
  | .ok value => good value
  | .error (.invalidTree _) => reason
  | .error _ => True

namespace Yields

variable {α β : Type} {good : α → Prop} {reason : Prop}

theorem mono {other : α → Prop} {wider : Prop} {outcome : Outcome α}
    (yields : Yields good reason outcome) (weaken : ∀ value, good value → other value)
    (widen : reason → wider) : Yields other wider outcome := by
  cases outcome with
  | ok value => exact weaken value yields
  | error fault =>
      cases fault with
      | invalidTree defect => exact widen yields
      | _ => trivial

theorem bind {better : β → Prop} {first : Outcome α} {next : α → Outcome β}
    (yields : Yields good reason first)
    (continues : ∀ value, good value → Yields better reason (next value)) :
    Yields better reason (first >>= next) := by
  cases first with
  | ok value => exact continues value yields
  | error fault =>
      cases fault with
      | invalidTree defect => exact yields
      | _ => trivial

theorem of_eq_ok {outcome : Outcome α} {value : α} (same : outcome = .ok value)
    (isGood : good value) : Yields good reason outcome := by
  rw [same]
  exact isGood

end Yields

/-! ### Binary operators -/

namespace BinaryOperator

theorem builtin?_ofScalar (operator : BinaryOperator) (left right : Scalar) :
    operator.builtin? (.ofScalar left) (.ofScalar right) =
      if (left == .boolean) && (right == .boolean) then
        if operator.onBooleans then some .boolean else none
      else if operator.isShift then
        if left.isInteger && right == .int32 then some (.ofScalar left) else none
      else if left != right || !left.isNumeric then none
      else if operator.isComparison then some .boolean
      else if operator.isArithmetic && left != .character then some (.ofScalar left)
      else if operator.isBitwise && left.isInteger then some (.ofScalar left)
      else none := by
  unfold builtin?
  rw [DataType.isBoolean_ofScalar, DataType.isBoolean_ofScalar, DataType.scalar?_ofScalar,
    DataType.scalar?_ofScalar]

theorem onOrder_comparison {operator : BinaryOperator} (comparison : operator.isComparison = true)
    (order : Option Ordering) : ∃ truth, operator.onOrder order = .ok (.boolean truth) := by
  cases order with
  | none => exact ⟨_, by unfold onOrder; rfl⟩
  | some order =>
      cases operator <;> first
        | exact absurd comparison Bool.false_ne_true
        | exact ⟨_, rfl⟩

theorem onTruthValues_booleans {operator : BinaryOperator} (booleans : operator.onBooleans = true)
    (left right : Bool) : ∃ truth, operator.onTruthValues left right = .ok (.boolean truth) := by
  cases operator <;> first
    | exact absurd booleans Bool.false_ne_true
    | exact ⟨_, rfl⟩

theorem isComparison_of_equality {operator : BinaryOperator}
    (equality : operator.isEquality = true) : operator.isComparison = true := by
  unfold isComparison
  rw [equality, Bool.true_or]

theorem onReferences_equality {operator : BinaryOperator} (equality : operator.isEquality = true)
    (left right : Value) : ∃ truth, operator.onReferences left right = .ok (.boolean truth) := by
  unfold onReferences
  rw [if_pos equality]
  exact ⟨_, rfl⟩

inductive Alike : Scalar → Value → Value → Prop
  | boolean (left right : Bool) : Alike .boolean (.boolean left) (.boolean right)
  | character (left right : Char) : Alike .character (.character left) (.character right)
  | integer {left right : Integer} (same : right.kind = left.kind) :
      Alike (.integer left.kind) (.integer left) (.integer right)
  | single (left right : Float32) : Alike .single (.single left) (.single right)
  | double (left right : Float) : Alike .double (.double left) (.double right)
  | decimal (left right : Decimal) : Alike .decimal (.decimal left) (.decimal right)

theorem alike_of_scalar? {kind : Scalar} {left right : Value} (isLeft : left.scalar? = some kind)
    (isRight : right.scalar? = some kind) : Alike kind left right := by
  cases left <;> simp only [Value.scalar?, Option.some.injEq, reduceCtorEq] at isLeft <;>
    subst isLeft <;> cases right <;>
    simp only [Value.scalar?, Option.some.injEq, reduceCtorEq, Scalar.integer.injEq] at isRight
  · exact .boolean _ _
  · exact .character _ _
  · exact .integer isRight
  · exact .single _ _
  · exact .double _ _
  · exact .decimal _ _

theorem onIntegers_comparison {operator : BinaryOperator}
    (comparison : operator.isComparison = true) (left right : Integer) :
    operator.onIntegers left right = operator.onOrder (some (compare left.value right.value)) := by
  cases operator <;> first
    | exact absurd comparison Bool.false_ne_true
    | rfl

theorem onDecimals_comparison {operator : BinaryOperator}
    (comparison : operator.isComparison = true) (left right : Decimal) :
    operator.onDecimals left right = operator.onOrder (some (left.order right)) := by
  cases operator <;> first
    | exact absurd comparison Bool.false_ne_true
    | rfl

theorem onScalars_comparison {operator : BinaryOperator}
    (comparison : operator.isComparison = true) {kind : Scalar} (numeric : kind.isNumeric = true)
    {left right : Value} (alike : Alike kind left right) :
    ∃ truth, operator.onScalars left right = .ok (.boolean truth) := by
  unfold onScalars
  cases alike with
  | boolean => exact absurd numeric (by decide)
  | character left right => exact onOrder_comparison comparison _
  | integer same =>
      dsimp only
      rw [if_pos same.symm, onIntegers_comparison comparison]
      exact onOrder_comparison comparison _
  | single left right =>
      cases operator <;> first
        | exact absurd comparison Bool.false_ne_true
        | exact onOrder_comparison comparison _
  | double left right =>
      cases operator <;> first
        | exact absurd comparison Bool.false_ne_true
        | exact onOrder_comparison comparison _
  | decimal left right =>
      dsimp only
      rw [onDecimals_comparison comparison]
      exact onOrder_comparison comparison _

theorem onIntegers_yields {operator : BinaryOperator}
    (computes : operator.isArithmetic = true ∨ operator.isBitwise = true) (left right : Integer) :
    Yields (fun value => value.scalar? = some (.integer left.kind)) False
      (operator.onIntegers left right) := by
  cases operator with
  | add | subtract | multiply | bitAnd | bitOr | bitXor => rfl
  | divide | remainder =>
      unfold onIntegers
      dsimp only
      split
      · trivial
      · split
        · rfl
        · trivial
  | _ => simp [isArithmetic, isBitwise] at computes

theorem onDecimals_yields {operator : BinaryOperator} (arithmetic : operator.isArithmetic = true)
    (left right : Decimal) :
    Yields (fun value => value.scalar? = some .decimal) False
      (operator.onDecimals left right) := by
  cases operator with
  | add | subtract | multiply =>
      unfold onDecimals
      dsimp only
      split
      · rfl
      · trivial
  | divide | remainder =>
      unfold onDecimals
      dsimp only
      split
      · trivial
      · split
        · rfl
        · trivial
  | _ => exact absurd arithmetic Bool.false_ne_true

theorem onScalars_yields {operator : BinaryOperator} {kind : Scalar}
    (computes : (operator.isArithmetic = true ∧ kind.isNumeric = true ∧ kind ≠ .character) ∨
      (operator.isBitwise = true ∧ kind.isInteger = true))
    {left right : Value} (alike : Alike kind left right) :
    Yields (fun value => value.scalar? = some kind) False (operator.onScalars left right) := by
  unfold onScalars
  cases alike with
  | integer same =>
      dsimp only
      rw [if_pos same.symm]
      exact onIntegers_yields (computes.imp And.left And.left) _ _
  | boolean =>
      rcases computes with ⟨_, impossible, _⟩ | ⟨_, impossible⟩ <;>
        exact absurd impossible (by decide)
  | character =>
      rcases computes with ⟨_, _, impossible⟩ | ⟨_, impossible⟩
      · exact absurd rfl impossible
      · exact absurd impossible (by decide)
  | single left right =>
      rcases computes with ⟨arithmetic, _⟩ | ⟨_, impossible⟩
      · cases operator <;> first
          | exact absurd arithmetic Bool.false_ne_true
          | rfl
      · exact absurd impossible (by decide)
  | double left right =>
      rcases computes with ⟨arithmetic, _⟩ | ⟨_, impossible⟩
      · cases operator <;> first
          | exact absurd arithmetic Bool.false_ne_true
          | rfl
      · exact absurd impossible (by decide)
  | decimal left right =>
      rcases computes with ⟨arithmetic, _⟩ | ⟨_, impossible⟩
      · exact onDecimals_yields arithmetic left right
      · exact absurd impossible (by decide)

theorem onShift_yields {operator : BinaryOperator} (shift : operator.isShift = true)
    (left : Integer) (count : Int) :
    Yields (fun value => value.scalar? = some (.integer left.kind))
      (operator = .shiftRightZero) (operator.onShift left count) := by
  cases operator with
  | shiftLeft | shiftRight | shiftRightZero => rfl
  | _ => exact absurd shift Bool.false_ne_true

theorem apply_yields {operator : BinaryOperator} {leftKind rightKind : Scalar} {result : DataType}
    (found : operator.builtin? (.ofScalar leftKind) (.ofScalar rightKind) = some result)
    {left right : Value} (isLeft : left.scalar? = some leftKind)
    (isRight : right.scalar? = some rightKind) :
    ∃ kind, result = .ofScalar kind ∧
      Yields (fun value => value.scalar? = some kind) (operator = .shiftRightZero)
        (operator.apply left right) := by
  rw [builtin?_ofScalar] at found
  unfold apply
  split at found
  · rename_i booleans
    rw [Bool.and_eq_true, beq_iff_eq, beq_iff_eq] at booleans
    obtain ⟨rfl, rfl⟩ := booleans
    split at found
    · rename_i onBooleans
      cases found
      refine ⟨.boolean, rfl, ?_⟩
      have notShift : operator.isShift = false := by
        cases operator with
        | shiftLeft | shiftRight | shiftRightZero => exact absurd onBooleans (by decide)
        | _ => rfl
      rw [if_neg (ne_true_of_eq_false notShift)]
      cases alike_of_scalar? isLeft isRight with
      | boolean left right =>
          obtain ⟨truth, gives⟩ := onTruthValues_booleans onBooleans left right
          exact .of_eq_ok gives rfl
    · cases found
  · split at found
    · rename_i shift
      rw [if_pos shift]
      split at found
      · rename_i operands
        rw [Bool.and_eq_true, beq_iff_eq] at operands
        obtain ⟨integer, rfl⟩ := operands
        cases found
        refine ⟨leftKind, rfl, ?_⟩
        cases left with
        | integer left =>
            cases right with
            | integer count =>
                cases isLeft
                have isCount : count.kind = .int32 := by
                  injection isRight with same
                  injection same
                dsimp only
                rw [if_pos isCount]
                exact onShift_yields shift left count.value
            | _ => cases isRight
        | null | text | enumeration | array | object | function => cases isLeft
        | boolean | character | single | double | decimal =>
            cases isLeft
            exact absurd integer (by decide)
      · cases found
    · rename_i notShift
      rw [if_neg notShift]
      split at found
      · cases found
      · rename_i operands
        rw [Bool.not_eq_true, Bool.or_eq_false_iff, bne_eq_false_iff_eq,
          Bool.not_eq_false'] at operands
        obtain ⟨rfl, numeric⟩ := operands
        have alike := alike_of_scalar? isLeft isRight
        split at found
        · rename_i comparison
          cases found
          obtain ⟨truth, gives⟩ := onScalars_comparison comparison numeric alike
          exact ⟨.boolean, rfl, .of_eq_ok gives rfl⟩
        · split at found
          · rename_i arithmetic
            rw [Bool.and_eq_true, bne_iff_ne] at arithmetic
            cases found
            exact ⟨leftKind, rfl,
              (onScalars_yields (.inl ⟨arithmetic.1, numeric, arithmetic.2⟩) alike).mono
                (fun _ same => same) False.elim⟩
          · split at found
            · rename_i bitwise
              rw [Bool.and_eq_true] at bitwise
              cases found
              exact ⟨leftKind, rfl, (onScalars_yields (.inr bitwise) alike).mono
                (fun _ same => same) False.elim⟩
            · cases found

theorem apply_equality {operator : BinaryOperator} (equality : operator.isEquality = true)
    (left right : Value) : ∃ truth, operator.apply left right = .ok (.boolean truth) := by
  have comparison : operator.isComparison = true := by
    unfold isComparison
    rw [equality]
    rfl
  have notShift : operator.isShift = false := by
    cases operator with
    | shiftLeft | shiftRight | shiftRightZero => exact absurd equality (by decide)
    | _ => rfl
  have onBooleans : operator.onBooleans = true := by
    cases operator with
    | equal | notEqual => rfl
    | _ => exact absurd equality Bool.false_ne_true
  unfold apply
  rw [if_neg (ne_true_of_eq_false notShift)]
  have numbers := fun {kind : Scalar} (numeric : kind.isNumeric = true) {left right : Value}
    (alike : Alike kind left right) => onScalars_comparison comparison numeric alike
  unfold onScalars at numbers ⊢
  split
  · rename_i first second
    split
    · rw [onIntegers_comparison comparison]
      exact onOrder_comparison comparison _
    · exact onReferences_equality equality _ _
  · exact numbers rfl (.single _ _)
  · exact numbers rfl (.double _ _)
  · exact numbers rfl (.decimal _ _)
  · exact onTruthValues_booleans onBooleans _ _
  · exact onOrder_comparison comparison _
  · rw [if_pos comparison]
    exact onOrder_comparison comparison _
  · exact onReferences_equality equality _ _

theorem applyNull_comparison {operator : BinaryOperator}
    (comparison : operator.isComparison = true) (left right : Value) :
    ∃ truth, operator.applyNull left right = .boolean truth := by
  cases operator <;> first
    | exact absurd comparison Bool.false_ne_true
    | exact ⟨_, rfl⟩

theorem applyNull_other {operator : BinaryOperator} (other : operator.isComparison = false)
    (left right : Value) : operator.applyNull left right = .null := by
  cases operator <;> first
    | exact absurd other.symm Bool.false_ne_true
    | rfl

end BinaryOperator

/-! ### Unary operators -/

namespace UnaryOperator

theorem apply_yields {operator : UnaryOperator} {kind : Scalar} {result : DataType}
    (found : operator.builtin? (.ofScalar kind) = some result) {value : Value}
    (isScalar : value.scalar? = some kind) :
    result = .ofScalar kind ∧
      Yields (fun value => value.scalar? = some kind) False (operator.apply value) := by
  refine ⟨Catalog.unary_builtin?_result found, ?_⟩
  unfold builtin? at found
  rw [DataType.scalar?_ofScalar] at found
  cases value <;> simp only [Value.scalar?, Option.some.injEq, reduceCtorEq] at isScalar <;>
    subst isScalar <;> cases operator <;> first
      | rfl
      | cases found

end UnaryOperator

/-! ### Casts -/

namespace Value

theorem castInt_yields (number : Int) (kind : Scalar) :
    Yields (fun value => value.scalar? = some kind) False (castInt number kind) := by
  cases kind with
  | single | double | integer | character => rfl
  | boolean => trivial
  | decimal =>
      unfold castInt orOverflow
      dsimp only
      split
      · rfl
      · trivial

theorem clampDouble_kind (kind : IntegerKind) (number : Float) :
    (clampDouble kind number).kind = kind := by
  have clamp : ∀ value : Int, (Integer.clamp kind value).kind = kind := by
    intro value
    unfold Integer.clamp
    split
    · rfl
    · split <;> rfl
  unfold clampDouble
  split
  · exact clamp 0
  · split <;> rfl
  · exact clamp _

theorem castDouble_yields (number : Float) (kind : Scalar) :
    Yields (fun value => value.scalar? = some kind) False (castDouble number kind) := by
  cases kind with
  | single | double => rfl
  | boolean => trivial
  | decimal =>
      unfold castDouble orOverflow
      dsimp only
      split
      · rfl
      · trivial
  | character => exact castInt_yields _ _
  | integer kind =>
      cases kind with
      | uint64 =>
          exact congrArg (fun kind => some (Scalar.integer kind)) (clampDouble_kind .uint64 number)
      | _ => exact castInt_yields _ _

theorem castDecimal_yields (number : Decimal) (kind : Scalar) :
    Yields (fun value => value.scalar? = some kind) False (castDecimal number kind) := by
  have checked : Yields (fun value : Value => value.scalar? = some kind) False
      (do
        let result ← castInt number.toInt kind
        if result.toInt? = some number.toInt then return result else throw .overflow) := by
    refine (castInt_yields number.toInt kind).bind fun value isScalar => ?_
    split
    · exact isScalar
    · trivial
  cases kind with
  | single | double => rfl
  | boolean => trivial
  | _ => exact checked

theorem toKind_yields (value : Value) (kind : Scalar) :
    Yields (fun value => value.scalar? = some kind) False (value.toKind kind) := by
  unfold toKind
  split
  · assumption
  · split
    · exact castInt_yields _ kind
    · split
      · exact castDouble_yields _ kind
      · exact castDouble_yields _ kind
      · exact castDecimal_yields _ kind
      · trivial

end Value

namespace Catalog

variable {catalog : Catalog} {genuine : Value → Prop}

theorem castToScalar_yields (value : Value) (target : DataType) (kind : Scalar) :
    Yields (fun value => value.scalar? = some kind) False
      (catalog.castToScalar value target kind) := by
  have yields := value.toKind_yields kind
  unfold castToScalar
  split
  · trivial
  · exact yields

theorem castToEnumeration_yields (value : Value) (target : DataType) (kind : Scalar) :
    Yields (fun value => ∃ bits, value = .enumeration target.id bits) False
      (catalog.castToEnumeration value target kind) := by
  unfold castToEnumeration
  refine (value.toKind_yields kind).bind fun number _ => ?_
  split
  · exact ⟨_, rfl⟩
  · trivial

theorem cast_yields {value : Value} (proper : catalog.Proper genuine value)
    (source target : DataType) :
    Yields (catalog.Admits genuine target) False (catalog.cast value source target) := by
  unfold cast
  split
  · unfold castNull
    split
    · rename_i accepts
      exact ⟨.null, carries_null accepts⟩
    · split <;> trivial
  · dsimp only
    split
    · rename_i isReference
      split
      · rename_i assignable
        refine ⟨proper, ?_⟩
        have carries : catalog.Carries target.underlying value :=
          Conforms.carries (.reference isReference assignable)
        by_cases marked : target.isNullable = true
        · exact carries.step ⟨isReference, isAssignable_marked marked⟩
        · unfold DataType.underlying at carries
          rwa [if_neg marked] at carries
      · trivial
    · split
      · trivial
      · split
        · rename_i kind underlying
          refine (castToEnumeration_yields value target.underlying kind).mono ?_ id
          rintro result ⟨bits, rfl⟩
          have plain := plain_of_underlying? underlying
          have declared : catalog.isEnumeration (.plain target.underlying.id) = true := by
            unfold isEnumeration
            rw [← plain, underlying]
            rfl
          exact ⟨.enumeration bits declared, Conforms.carries (.same plain.symm)⟩
        · split
          · rename_i kind isScalar
            refine (castToScalar_yields value target.underlying kind).mono ?_ id
            intro result ofKind
            refine ⟨.scalar ofKind, Conforms.carries (.same ?_)⟩
            rw [type_of_scalar? ofKind, DataType.eq_ofScalar isScalar]
          · split
            · rename_i same
              exact ⟨proper, Conforms.carries (.same (eq_of_beq same))⟩
            · trivial

/-! ### Operators on types -/

theorem builtin?_scalars {operator : BinaryOperator} {left right result : DataType}
    (found : operator.builtin? left right = some result) :
    ∃ leftKind rightKind, left = .ofScalar leftKind ∧ right = .ofScalar rightKind := by
  unfold BinaryOperator.builtin? at found
  split at found
  · rename_i booleans
    rw [Bool.and_eq_true] at booleans
    exact ⟨.boolean, .boolean, eq_of_beq booleans.1, eq_of_beq booleans.2⟩
  · split at found
    · rename_i leftKind rightKind isLeft isRight
      exact ⟨leftKind, rightKind, DataType.eq_ofScalar isLeft, DataType.eq_ofScalar isRight⟩
    · cases found

theorem admits_orNull {value : Value} {kind : Scalar} (isScalar : value.scalar? = some kind) :
    catalog.Admits genuine (.orNull (DataType.ofScalar kind).id) value :=
  ⟨.scalar isScalar, Conforms.carries (.same (type_of_scalar? isScalar))⟩

theorem admits_null_orNull (id : TypeId) : catalog.Admits genuine (.orNull id) .null :=
  ⟨.null, carries_null rfl⟩

theorem admits_boolean (truth : Bool) : catalog.Admits genuine .boolean (.boolean truth) :=
  show catalog.Admits genuine (.ofScalar .boolean) (.boolean truth) from admits_scalar rfl

theorem builtin?_comparison {operator : BinaryOperator}
    (comparison : operator.isComparison = true) {left right result : DataType}
    (found : operator.builtin? left right = some result) : result = .boolean := by
  obtain ⟨leftKind, rightKind, rfl, rfl⟩ := builtin?_scalars found
  rw [BinaryOperator.builtin?_ofScalar] at found
  split at found
  · split at found <;> cases found
    rfl
  · split at found
    · cases operator <;> contradiction
    · split at found
      · cases found
      · cases found
        rfl

def liftedResult (operator : BinaryOperator) (result : DataType) : DataType :=
  if operator.isComparison then result else .orNull result.id

theorem builtinBinary?_cases {operator : BinaryOperator} {left right result : DataType}
    (found : catalog.builtinBinary? operator left right = some result) :
    operator.builtin? left right = some result ∨
      (operator.isEquality = true ∧ result = .boolean) ∨
      (left.isNullable = true ∧ right = left ∧ ∃ plain,
        operator.builtin? left.underlying left.underlying = some plain ∧
          result = liftedResult operator plain) := by
  unfold builtinBinary? at found
  cases plain : operator.builtin? left right with
  | some type =>
      rw [plain] at found
      exact .inl found
  | none =>
      rw [plain] at found
      dsimp only at found
      split at found
      · rename_i comparable
        rw [Bool.and_eq_true] at comparable
        cases found
        exact .inr (.inl ⟨comparable.1, rfl⟩)
      · split at found
        · rename_i lifted
          rw [Bool.and_eq_true, beq_iff_eq] at lifted
          obtain ⟨type, isPlain, same⟩ := Option.map_eq_some_iff.mp found
          exact .inr (.inr ⟨lifted.1, lifted.2.symm, type, isPlain, same.symm⟩)
        · cases found

theorem builtinBinary?_yields (holds : catalog.HoldsPrimitives)
    (references : catalog.ReferencesAbove) {operator : BinaryOperator}
    {left right result : DataType}
    (found : catalog.builtinBinary? operator left right = some result) {first second : Value}
    (admitsFirst : catalog.Admits genuine left first)
    (admitsSecond : catalog.Admits genuine right second) :
    Yields (catalog.Admits genuine result) (operator = .shiftRightZero)
      (if first.isNull || second.isNull then .ok (operator.applyNull first second)
        else operator.apply first second) := by
  rcases builtinBinary?_cases found with plain | ⟨equality, rfl⟩ |
    ⟨marked, rfl, plain, isPlain, rfl⟩
  · obtain ⟨leftKind, rightKind, rfl, rfl⟩ := builtin?_scalars plain
    have isFirst := admitsFirst.scalar? holds references
    have isSecond := admitsSecond.scalar? holds references
    rw [Value.isNull_of_scalar? isFirst, Value.isNull_of_scalar? isSecond]
    obtain ⟨kind, rfl, yields⟩ := BinaryOperator.apply_yields plain isFirst isSecond
    exact yields.mono (fun _ isScalar => admits_scalar isScalar) id
  · have comparison : operator.isComparison = true := by
      unfold BinaryOperator.isComparison
      rw [equality]
      rfl
    split
    · obtain ⟨truth, gives⟩ := BinaryOperator.applyNull_comparison comparison first second
      exact .of_eq_ok (congrArg _ gives) (admits_boolean truth)
    · obtain ⟨truth, gives⟩ := BinaryOperator.apply_equality equality first second
      exact .of_eq_ok gives (admits_boolean truth)
  · obtain ⟨leftKind, rightKind, isLeft, isRight⟩ := builtin?_scalars isPlain
    have sameKind : leftKind = rightKind := DataType.ofScalar_injective (isLeft.symm.trans isRight)
    subst sameKind
    rw [isLeft] at isPlain
    have isFirst := admitsFirst.scalar?_orNull holds references marked isLeft
    have isSecond := admitsSecond.scalar?_orNull holds references marked isLeft
    unfold liftedResult
    by_cases someNull : (first.isNull || second.isNull) = true
    · rw [if_pos someNull]
      by_cases comparison : operator.isComparison = true
      · rw [if_pos comparison, builtin?_comparison comparison isPlain]
        obtain ⟨truth, gives⟩ := BinaryOperator.applyNull_comparison comparison first second
        exact .of_eq_ok (congrArg _ gives) (admits_boolean truth)
      · rw [if_neg comparison]
        rw [Bool.not_eq_true] at comparison
        rw [BinaryOperator.applyNull_other comparison]
        exact admits_null_orNull plain.id
    · rw [if_neg someNull]
      rw [Bool.not_eq_true, Bool.or_eq_false_iff] at someNull
      have scalarOf : ∀ value : Value, value.isNull = false →
          value = .null ∨ value.scalar? = some leftKind → value.scalar? = some leftKind := by
        rintro value notNull (rfl | isScalar)
        · cases notNull
        · exact isScalar
      obtain ⟨kind, rfl, yields⟩ := BinaryOperator.apply_yields isPlain
        (scalarOf first someNull.1 isFirst) (scalarOf second someNull.2 isSecond)
      refine yields.mono (fun value isScalar => ?_) id
      split
      · exact admits_scalar isScalar
      · exact admits_orNull isScalar

/-! ### Operators that evaluate what they need -/

theorem builtin?_logical {operator : BinaryOperator}
    (logical : operator = .andAlso ∨ operator = .orElse) {left right : Scalar} {result : DataType}
    (found : operator.builtin? (.ofScalar left) (.ofScalar right) = some result) :
    left = .boolean ∧ right = .boolean ∧ result = .boolean := by
  rw [BinaryOperator.builtin?_ofScalar] at found
  split at found
  · rename_i booleans
    rw [Bool.and_eq_true, beq_iff_eq, beq_iff_eq] at booleans
    split at found
    · cases found
      exact ⟨booleans.1, booleans.2, rfl⟩
    · cases found
  · rcases logical with rfl | rfl <;>
      · simp only [BinaryOperator.isShift, BinaryOperator.isComparison,
          BinaryOperator.isEquality, BinaryOperator.isRelational, BinaryOperator.isArithmetic,
          BinaryOperator.isBitwise, Bool.or_self, Bool.false_and, Bool.false_eq_true, if_false,
          ite_self, reduceCtorEq] at found

theorem builtinBinary?_logical (holds : catalog.HoldsPrimitives)
    (references : catalog.ReferencesAbove) {operator : BinaryOperator}
    (logical : operator = .andAlso ∨ operator = .orElse) {left right result : DataType}
    (found : catalog.builtinBinary? operator left right = some result) :
    (∀ value, catalog.Admits genuine left value ∨ catalog.Admits genuine right value →
      value = .null ∨ value.scalar? = some .boolean) ∧
    ∀ truth, catalog.Admits genuine result (.boolean truth) := by
  rcases builtinBinary?_cases found with plain | ⟨equality, _⟩ |
    ⟨marked, rfl, plain, isPlain, rfl⟩
  · obtain ⟨leftKind, rightKind, rfl, rfl⟩ := builtin?_scalars plain
    obtain ⟨rfl, rfl, rfl⟩ := builtin?_logical logical plain
    refine ⟨?_, admits_boolean⟩
    rintro value (admits | admits) <;> exact .inr (admits.scalar? holds references)
  · rcases logical with rfl | rfl <;> cases equality
  · obtain ⟨kind, _, isKind, _⟩ := builtin?_scalars isPlain
    rw [isKind] at isPlain
    obtain ⟨rfl, _, rfl⟩ := builtin?_logical logical isPlain
    have notComparison : operator.isComparison = false := by
      rcases logical with rfl | rfl <;> rfl
    refine ⟨?_, fun truth => ?_⟩
    · rintro value (admits | admits) <;>
        exact admits.scalar?_orNull holds references marked isKind
    · unfold liftedResult
      rw [if_neg (ne_true_of_eq_false notComparison)]
      exact admits_orNull (show (Value.boolean truth).scalar? = some .boolean from rfl)

theorem builtinUnary?_yields (holds : catalog.HoldsPrimitives)
    (references : catalog.ReferencesAbove) {operator : UnaryOperator}
    {operand result : DataType} (found : builtinUnary? operator operand = some result)
    {value : Value} (admits : catalog.Admits genuine operand value) :
    Yields (catalog.Admits genuine result) False
      (if value.isNull then .ok .null else operator.apply value) := by
  have isScalarType : ∀ {type result : DataType}, operator.builtin? type = some result →
      ∃ kind, type = .ofScalar kind := by
    intro type result isPlain
    unfold UnaryOperator.builtin? at isPlain
    obtain ⟨kind, isScalar, _⟩ := Option.bind_eq_some_iff.mp isPlain
    exact ⟨kind, DataType.eq_ofScalar isScalar⟩
  unfold builtinUnary? at found
  cases plain : operator.builtin? operand with
  | some type =>
      simp only [plain, Option.some.injEq] at found
      subst found
      obtain ⟨kind, rfl⟩ := isScalarType plain
      have isScalar := admits.scalar? holds references
      rw [Value.isNull_of_scalar? isScalar]
      obtain ⟨rfl, yields⟩ := UnaryOperator.apply_yields plain isScalar
      exact yields.mono (fun _ isScalar => admits_scalar isScalar) id
  | none =>
      rw [plain] at found
      dsimp only at found
      split at found
      · rename_i marked
        obtain ⟨type, isPlain, rfl⟩ := Option.map_eq_some_iff.mp found
        obtain ⟨kind, isKind⟩ := isScalarType isPlain
        rw [isKind] at isPlain
        rcases admits.scalar?_orNull holds references marked isKind with rfl | isScalar
        · exact admits_null_orNull type.id
        · rw [Value.isNull_of_scalar? isScalar]
          obtain ⟨rfl, yields⟩ := UnaryOperator.apply_yields isPlain isScalar
          exact yields.mono (fun _ isScalar => admits_orNull isScalar) id
      · cases found

end Catalog

end Formula
