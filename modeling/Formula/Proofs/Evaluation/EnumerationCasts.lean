import Formula.Proofs.Evaluation.DecimalCasts
import Formula.Proofs.Evaluation.Enumerations
import Formula.Proofs.Number.Sign

/-!
Casts of the values of an enumeration to numbers, right away or by way of the integers behind
them. Both read the same number out of the bits, with one exception: the widest unsigned integers
are kept as signed ones, so that from half of their range on a cast right away starts from a
negative number. Casts to integers and characters only look at the residue and do not tell;
decimal and floating point numbers do.
-/

namespace Formula

namespace IntegerKind

variable {kind : IntegerKind} {number : Int}

theorem le_of_holds (holds : kind.Holds number) : -2 ^ 63 ≤ number := by
  have least : -2 ^ 63 ≤ kind.least := by cases kind <;> decide
  exact least.trans holds.1

theorem toInt_ofInt_of_lt (holds : kind.Holds number) (low : number < 2 ^ 63) :
    (Int64.ofInt number).toInt = number := by
  have congruent := (toInt_ofInt_modEq number).eq
  have upper := (Int64.ofInt number).toInt_lt
  have lower := (Int64.ofInt number).le_toInt
  have least := le_of_holds holds
  omega

theorem toInt_ofInt_neg (holds : kind.Holds number) (high : 2 ^ 63 ≤ number) :
    (Int64.ofInt number).toInt < 0 := by
  have congruent := (toInt_ofInt_modEq number).eq
  have upper := (Int64.ofInt number).toInt_lt
  have magnitude := natAbs_lt_of_holds holds
  omega

end IntegerKind

namespace Value

variable {kind : Scalar} {left right : Int}

theorem castInt_isOk (numeric : kind.isNumeric = true) {number : Int}
    (fits : number.natAbs < 2 ^ 64) : ∃ result, castInt number kind = .ok result := by
  by_cases isDecimal : kind = .decimal
  · subst isDecimal
    obtain ⟨decimal, cast, -⟩ := castInt_decimal fits
    exact ⟨_, cast⟩
  · have notTruth : kind ≠ .boolean := by
      rintro rfl
      cases numeric
    obtain ⟨result, cast, -⟩ := castInt_ok number notTruth isDecimal
    exact ⟨result, cast⟩

theorem castInt_congr (integral : kind.isIntegral = true)
    (congruent : left ≡ right [ZMOD 2 ^ 64]) : castInt left kind = castInt right kind := by
  rcases Scalar.eq_of_isIntegral integral with rfl | ⟨own, rfl⟩
  · have unit : left % 65536 = right % 65536 := congruent.of_dvd (by decide)
    unfold castInt wrapInt?
    simp only [unit]
  · have narrowed := congruent.of_dvd (pow_dvd_pow 2 own.width_le)
    unfold castInt wrapInt?
    simp only [Integer.wrap_congr narrowed]

theorem castInt_ne (numeric : kind.isNumeric = true) (fractional : kind.isIntegral = false)
    (leftFits : left.natAbs < 2 ^ 64) (rightFits : right.natAbs < 2 ^ 64) (negative : left < 0)
    (nonneg : 0 ≤ right) : castInt left kind ≠ castInt right kind := by
  cases kind with
  | integer | character => cases fractional
  | boolean => cases numeric
  | single =>
      intro same
      exact Number.singleOfInt_ne negative nonneg (single.inj (Except.ok.inj same))
  | double =>
      intro same
      exact Number.doubleOfInt_ne negative nonneg (double.inj (Except.ok.inj same))
  | decimal =>
      intro same
      obtain ⟨first, castLeft, isLeft⟩ := castInt_decimal leftFits
      obtain ⟨second, castRight, isRight⟩ := castInt_decimal rightFits
      rw [castLeft, castRight, Except.ok.injEq, decimal.injEq] at same
      rw [same, isRight, Int.cast_inj] at isLeft
      omega

theorem toKind_wrapped {own : IntegerKind} {number : Int} (holds : own.Holds number)
    (kind : Scalar) : toKind (.integer (.wrap own number)) kind = castInt number kind := by
  have denotes := denotes_wrap holds
  by_cases same : kind = .integer own
  · subst same
    rw [toKind_same denotes.scalar_eq]
    rfl
  · unfold toKind
    rw [denotes.scalar_eq, if_neg fun equal => same (Option.some.inj equal).symm,
      denotes.toInt_eq]

/-- The value of an enumeration and the integer behind it become numbers, and the same one but
for the exception. -/
theorem toKind_enumerated_iff {own : IntegerKind} {number : Int} (holds : own.Holds number)
    (type : DataType) (numeric : kind.isNumeric = true) :
    ∃ direct staged, toKind (.enumerated type number) kind = .ok direct ∧
      toKind (.integer (.wrap own number)) kind = .ok staged ∧
      (direct = staged ↔ kind.isIntegral = true ∨ number < 2 ^ 63) := by
  have bits : IntegerKind.int64.Holds (Int64.ofInt number).toInt := by
    have upper := (Int64.ofInt number).toInt_lt
    have lower := (Int64.ofInt number).le_toInt
    exact ⟨lower, Int.le_of_lt_add_one upper⟩
  have bitsFit := IntegerKind.natAbs_lt_of_holds bits
  have numberFits := IntegerKind.natAbs_lt_of_holds holds
  obtain ⟨direct, fromBits⟩ := castInt_isOk numeric bitsFit
  obtain ⟨staged, fromNumber⟩ := castInt_isOk numeric numberFits
  rw [toKind_enumerated, toKind_wrapped holds]
  refine ⟨direct, staged, fromBits, fromNumber, ?_⟩
  rw [← Except.ok.injEq, ← fromBits, ← fromNumber]
  by_cases integral : kind.isIntegral = true
  · exact iff_of_true (castInt_congr integral (IntegerKind.toInt_ofInt_modEq number))
      (.inl integral)
  · by_cases low : number < 2 ^ 63
    · rw [IntegerKind.toInt_ofInt_of_lt holds low]
      exact iff_of_true rfl (.inr low)
    · rw [Int.not_lt] at low
      have negative := IntegerKind.toInt_ofInt_neg holds low
      refine iff_of_false ?_ (not_or.mpr ⟨integral, Int.not_lt.mpr low⟩)
      exact castInt_ne numeric (Bool.eq_false_of_not_eq_true integral) bitsFit numberFits negative
        (by omega)

end Value

namespace Catalog

variable {catalog : Catalog} {narrow kind : Scalar}

theorem castTerm_convertTo (fromNumber : narrow.isNumeric = true)
    (toNumber : kind.isNumeric = true)
    (undeclared : catalog.implicitOperator? (.ofScalar narrow) (.ofScalar kind) = none)
    (name : String) {operand : Term} (operandType : operand.type = .ofScalar narrow) :
    catalog.castTerm name (.ofScalar kind) operand = .ok (operand.convertTo (.ofScalar kind)) := by
  by_cases same : narrow = kind
  · subst same
    rw [operand.convertTo_self operandType]
    unfold castTerm
    simp only [operandType, beq_self_eq_true, Bool.true_or, if_true]
  · have different : DataType.ofScalar narrow ≠ .ofScalar kind := fun equal =>
      same (DataType.ofScalar_injective equal)
    unfold Term.convertTo
    rw [if_neg (by rwa [operandType])]
    exact castTerm_convert different (isReferenceType_ofScalar narrow) (acceptsNull_ofScalar kind)
      (isNumberLike_ofScalar fromNumber) (isNumberLike_ofScalar toNumber) undeclared name
      operandType

end Catalog

namespace Setting

variable {setting : Setting} {kind : Scalar} {site : List Nat} {term : Term} {value result : Value}

theorem evaluate_toKind (holds : setting.catalog.HoldsPrimitives)
    (isValue : setting.catalog.isReferenceType term.type = false)
    (evaluated : setting.evaluate (0 :: site) term = .ok value) (present : value.isNull = false)
    (cast : value.toKind kind = .ok result) :
    setting.evaluate site (.convert term (.ofScalar kind)) = .ok result := by
  unfold evaluate
  rw [evaluated]
  exact Catalog.cast_toScalar holds present isValue rfl cast

theorem evaluate_convertTo_toKind (holds : setting.catalog.HoldsPrimitives) {narrow : Scalar}
    (termType : term.type = .ofScalar narrow)
    (evaluated : setting.evaluate (term.siteUnder (.ofScalar kind) site) term = .ok value)
    (isScalar : value.scalar? = some narrow) (cast : value.toKind kind = .ok result) :
    setting.evaluate site (term.convertTo (.ofScalar kind)) = .ok result := by
  unfold Term.siteUnder at evaluated
  by_cases same : term.type = .ofScalar kind
  · have sameKind : narrow = kind := DataType.ofScalar_injective (termType.symm.trans same)
    subst sameKind
    rw [Value.toKind_same isScalar] at cast
    cases cast
    rwa [if_pos same, ← term.convertTo_self same] at evaluated
  · rw [if_neg same] at evaluated
    unfold Term.convertTo
    rw [if_neg same]
    refine evaluate_toKind holds ?_ evaluated (Value.isNull_of_scalar? isScalar) cast
    rw [termType]
    exact Catalog.isReferenceType_ofScalar narrow

end Setting

namespace Scope

variable {scope : Scope} {type : DataType} {own : IntegerKind} {kind : Scalar}

/-- Casts of an operand that is a value of an enumeration to numbers, right away and by way of the
integers behind it: both are built, both give a number, and it is the same one but for the upper
half of the widest unsigned integers as decimal or floating point numbers. -/
def CastsEnumeration (scope : Scope) (type : DataType) (own : IntegerKind) (kind : Scalar) :
    Prop :=
  ∀ (target through : String) {expr : Expr} {operand : Term}, scope.term expr = .ok operand →
    operand.type = type → scope.typeNamed? target = some (.ofScalar kind) →
    scope.typeNamed? through = some (.ofScalar (.integer own)) →
    ∃ direct staged, scope.term (.cast target expr) = .ok direct ∧
      scope.term (.cast target (.cast through expr)) = .ok staged ∧
      direct.type = .ofScalar kind ∧ staged.type = .ofScalar kind ∧
      ∀ (setting : Setting) (site : List Nat) (number : Int), setting.catalog = scope.catalog →
        own.Holds number →
        setting.evaluate (0 :: site) operand = .ok (.enumerated type number) →
        setting.evaluate (0 :: 0 :: site) operand = .ok (.enumerated type number) →
        ∃ first second, setting.evaluate site direct = .ok first ∧
          setting.evaluate site staged = .ok second ∧
          (first = second ↔ kind.isIntegral = true ∨ number < 2 ^ 63)

/-- Casts of a value of an enumeration come out as those of the integer behind it, where no
conversion is declared: one that is comes first. -/
theorem castsEnumeration (holds : scope.catalog.HoldsPrimitives)
    (isEnumeration : scope.catalog.underlying? type = some (.integer own))
    (numeric : kind.isNumeric = true)
    (noneDirect : scope.catalog.implicitOperator? type (.ofScalar kind) = none)
    (noneThrough : scope.catalog.implicitOperator? type (.ofScalar (.integer own)) = none)
    (noneOnward : scope.catalog.implicitOperator? (.ofScalar (.integer own)) (.ofScalar kind) =
      none) : scope.CastsEnumeration type own kind := by
  intro target through expr operand built operandType namedTarget namedThrough
  have direct := (term_cast built namedTarget).trans
    (Catalog.castTerm_ofEnumeration holds isEnumeration numeric noneDirect target operandType)
  have middle := (term_cast built namedThrough).trans
    (Catalog.castTerm_ofEnumeration holds isEnumeration rfl noneThrough through operandType)
  have staged := (term_cast middle namedTarget).trans
    (Catalog.castTerm_convertTo rfl numeric noneOnward target rfl)
  refine ⟨_, _, direct, staged, rfl, Term.type_convertTo _ _, ?_⟩
  intro setting site number sameCatalog inRange evaluatedDirect evaluatedStaged
  rw [← sameCatalog] at holds isEnumeration
  rw [← operandType] at isEnumeration
  have isValue := Catalog.isReferenceType_of_underlying? isEnumeration
  obtain ⟨first, second, fromBits, fromNumber, same_iff⟩ :=
    Value.toKind_enumerated_iff inRange type numeric
  refine ⟨first, second, ?_, ?_, same_iff⟩
  · exact Setting.evaluate_toKind holds isValue evaluatedDirect rfl fromBits
  · have between : ∀ {place}, setting.evaluate (0 :: place) operand =
        .ok (.enumerated type number) →
        setting.evaluate place (.convert operand (.ofScalar (.integer own))) =
          .ok (.integer (.wrap own number)) := fun evaluated =>
      Setting.evaluate_toKind holds isValue evaluated rfl
        (Value.toKind_enumerated_integer type number own)
    refine Setting.evaluate_convertTo_toKind holds rfl ?_ rfl fromNumber
    unfold Term.siteUnder
    split
    · exact between evaluatedDirect
    · exact between evaluatedStaged

/-- The least number in the upper half, as a floating point number. -/
theorem castsEnumeration_upper :
    ∃ direct staged, (onLevels .uint64 []).term
          (.cast "double" (.literal (.enumerated (.plain ⟨1⟩) (2 ^ 63)))) = .ok direct ∧
      (onLevels .uint64 []).term (.cast "double" (.cast "ulong"
          (.literal (.enumerated (.plain ⟨1⟩) (2 ^ 63))))) = .ok staged ∧
      ∃ first second,
        Setting.evaluate { catalog := (onLevels .uint64 []).catalog } [] direct = .ok first ∧
        Setting.evaluate { catalog := (onLevels .uint64 []).catalog } [] staged = .ok second ∧
        first ≠ second := by
  have holds : (onLevels .uint64 []).catalog.HoldsPrimitives := by
    unfold Catalog.HoldsPrimitives
    decide +kernel
  have isEnumeration : (onLevels .uint64 []).catalog.underlying? (.plain ⟨1⟩) =
      some (.integer .uint64) := by decide +kernel
  have built : (onLevels .uint64 []).term (.literal (.enumerated (.plain ⟨1⟩) (2 ^ 63))) =
      .ok (.ofValue (.enumerated (.plain ⟨1⟩) (2 ^ 63))) := by
    unfold Scope.term
    rfl
  have evaluated : ∀ site, Setting.evaluate { catalog := (onLevels .uint64 []).catalog } site
      (.ofValue (.enumerated (.plain ⟨1⟩) (2 ^ 63))) =
        .ok (.enumerated (.plain ⟨1⟩) (2 ^ 63)) := by
    intro site
    unfold Term.ofValue Setting.evaluate
    rfl
  obtain ⟨direct, staged, builtDirect, builtStaged, -, -, results⟩ :=
    castsEnumeration holds isEnumeration
      (show Scalar.isNumeric .double = true from rfl) (by decide +kernel) (by decide +kernel)
      (by decide +kernel) "double" "ulong" built rfl (by decide +kernel) (by decide +kernel)
  obtain ⟨first, second, gives, givesStaged, same_iff⟩ := results
    { catalog := (onLevels .uint64 []).catalog } [] (2 ^ 63) rfl (by decide) (evaluated _)
    (evaluated _)
  refine ⟨direct, staged, builtDirect, builtStaged, first, second, gives, givesStaged, ?_⟩
  intro same
  exact absurd (same_iff.mp same) (by decide)

end Scope

end Formula
