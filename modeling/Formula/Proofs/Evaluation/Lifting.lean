import Formula.Proofs.Evaluation.IntegerOperators
import Formula.Proofs.Soundness.Expressions
import Formula.Proofs.Typing.Lifting

/-!
Built-in operators on scalars with null added, next to the same operators on the plain scalars.
Null is compared and passed on; on values the two agree where they work in the same kind. They
part where plain operands are first taken to a wider kind and operands with null added are not:
small integers wrap and overflow in their own kind, the negation of 32 bits without a sign wraps,
and the shift that fills with zeros is not defined at all.
-/

namespace Formula

/-- The integer of a value cut down to a kind; other values as they are. -/
def Value.narrowed (kind : IntegerKind) : Value → Value
  | .integer number => .integer (.wrap kind number.value)
  | value => value

def AgreeNumerically (first second : Outcome Value) : Prop :=
  first = second ∨
    ∃ one other : Integer, first = .ok (.integer one) ∧ second = .ok (.integer other) ∧
      one.value = other.value

namespace IntegerKind

theorem width_le_int32 {kind : IntegerKind} (small : kind.isSmall = true) :
    kind.width ≤ int32.width :=
  Nat.le_of_lt (of_decide_eq_true small)

theorem covers_self (kind : IntegerKind) : kind.covers (.integer kind) = true := by
  cases kind <;> decide

theorem holds_int32 {kind : IntegerKind} (small : kind.isSmall = true) {number : Int}
    (holds : kind.Holds number) : int32.least < number ∧ number ≤ int32.greatest := by
  have bounds : int32.least < kind.least ∧ kind.greatest ≤ int32.greatest := by
    cases kind with
    | int8 | uint8 | int16 | uint16 => decide
    | _ => cases small
  unfold Holds at holds
  omega

theorem setWidth_ofInt {narrow wide : Nat} (fits : narrow ≤ wide) (number : Int) :
    (BitVec.ofInt wide number).setWidth narrow = BitVec.ofInt narrow number := by
  apply BitVec.eq_of_toNat_eq
  rw [BitVec.toNat_setWidth, BitVec.toNat_ofInt, BitVec.toNat_ofInt, ← Int.natCast_inj]
  push_cast
  rw [Int.toNat_of_nonneg (Int.emod_nonneg _ (by positivity)),
    Int.toNat_of_nonneg (Int.emod_nonneg _ (by positivity))]
  exact Int.emod_emod_of_dvd number (pow_dvd_pow 2 fits)

theorem modEq_of_ofInt {width : Nat} {left right : Int}
    (same : BitVec.ofInt width left = BitVec.ofInt width right) : left ≡ right [ZMOD 2 ^ width] := by
  have naturals := congrArg BitVec.toNat same
  rw [BitVec.toNat_ofInt, BitVec.toNat_ofInt, ← Int.natCast_inj] at naturals
  push_cast at naturals
  rwa [Int.toNat_of_nonneg (Int.emod_nonneg _ (by positivity)),
    Int.toNat_of_nonneg (Int.emod_nonneg _ (by positivity))] at naturals

theorem Wraps.eq_ok {kind : IntegerKind} {exact : Int} {outcome : Outcome Value}
    (wraps : kind.Wraps exact outcome) : outcome = .ok (.integer (.wrap kind exact)) := by
  obtain ⟨result, gives, sameKind, congruent⟩ := wraps
  subst sameKind
  have same : result.kind.wrap exact = result.value :=
    wrap_eq_of_modEq result.holds congruent.symm
  rw [gives]
  unfold Integer.wrap
  simp only [same]

/-! ### Results in a small kind and in 32 bits -/

theorem Wraps.narrowed_of_modEq {kind : IntegerKind} {exact : Int} {lifted : Outcome Value}
    (narrow : kind.Wraps exact lifted) {result : Integer}
    (residue : result.value ≡ exact [ZMOD 2 ^ kind.width]) :
    lifted = .ok (Value.narrowed kind (.integer result)) :=
  Wraps.eq_ok (narrow.imp fun _ found => ⟨found.1, found.2.1, found.2.2.trans residue.symm⟩)

theorem Wraps.narrowed {kind wider : IntegerKind} (fits : kind.width ≤ wider.width) {exact : Int}
    {lifted plain : Outcome Value} (narrow : kind.Wraps exact lifted)
    (wide : wider.Wraps exact plain) : lifted = plain.map (Value.narrowed kind) := by
  obtain ⟨result, gives, sameKind, congruent⟩ := wide
  subst sameKind
  rw [gives]
  exact narrow.narrowed_of_modEq (congruent.of_dvd (pow_dvd_pow 2 fits))

theorem Gives.narrowed {kind wider : IntegerKind} {exact : Int} {lifted plain : Outcome Value}
    (narrow : kind.Gives exact lifted) (wide : wider.Gives exact plain) :
    lifted = plain.map (Value.narrowed kind) := by
  obtain ⟨result, gives, sameKind, isExact⟩ := narrow
  obtain ⟨other, givesOther, _, isOther⟩ := wide
  subst sameKind
  have same : Value.narrowed result.kind (.integer other) = .integer result := by
    rw [Value.narrowed, isOther, ← isExact, Integer.wrap_value]
  rw [gives, givesOther]
  exact congrArg Except.ok same.symm

theorem HasBits.narrowed {kind wider : IntegerKind} (fits : kind.width ≤ wider.width)
    {bits : BitVec kind.width} {wideBits : BitVec wider.width}
    (truncates : wideBits.setWidth kind.width = bits) {lifted plain : Outcome Value}
    (narrow : kind.HasBits bits lifted) (wide : wider.HasBits wideBits plain) :
    lifted = plain.map (Value.narrowed kind) := by
  obtain ⟨result, gives, sameKind, isBits⟩ := narrow
  obtain ⟨other, givesOther, _, isOther⟩ := wide
  have sameBits : BitVec.ofInt kind.width result.value = BitVec.ofInt kind.width other.value := by
    rw [isBits, ← truncates, ← isOther, setWidth_ofInt fits]
  rw [givesOther]
  exact Wraps.eq_ok ⟨result, gives, sameKind, modEq_of_ofInt sameBits⟩

theorem Divides.narrowed {kind : IntegerKind} (small : kind.isSmall = true) {left right : Int}
    (holdsLeft : kind.Holds left) {exact : Int} {lifted plain : Outcome Value}
    (narrow : kind.Divides left right exact lifted)
    (wide : int32.Divides left right exact plain) :
    (kind.DivisionOverflows left right →
        lifted = .error .overflow ∧ int32.Gives exact plain) ∧
      (¬kind.DivisionOverflows left right → lifted = plain.map (Value.narrowed kind)) := by
  have noOverflow : ¬int32.DivisionOverflows left right := by
    rintro ⟨_, isLeast, _⟩
    have above := (holds_int32 small holdsLeft).1
    omega
  constructor
  · intro overflows
    have nonzero : right ≠ 0 := by
      obtain ⟨_, _, minusOne⟩ := overflows
      omega
    exact ⟨narrow.overflow_iff.mpr overflows, wide.gives nonzero noOverflow⟩
  · intro fits
    by_cases zero : right = 0
    · rw [narrow.divideByZero_iff.mpr zero, wide.divideByZero_iff.mpr zero]
      rfl
    · exact (narrow.gives zero fits).narrowed (wide.gives zero noOverflow)

end IntegerKind

theorem Tells.unique {statement : Prop} {first second : Outcome Value}
    (one : Tells statement first) (other : Tells statement second) : first = second := by
  obtain ⟨truth, tells, means⟩ := one
  obtain ⟨otherTruth, otherTells, otherMeans⟩ := other
  have same : truth = otherTruth := Bool.eq_iff_iff.mpr (means.trans otherMeans.symm)
  rw [tells, otherTells, same]

theorem Tells.narrowed {statement : Prop} (kind : IntegerKind) {lifted plain : Outcome Value}
    (narrow : Tells statement lifted) (wide : Tells statement plain) :
    lifted = plain.map (Value.narrowed kind) := by
  rw [narrow.unique wide]
  obtain ⟨truth, tells, _⟩ := wide
  rw [tells]
  rfl

namespace BinaryOperator

/-- A division whose quotient or remainder the kind does not give, though 32 bits do. -/
def OverflowsIn (operator : BinaryOperator) (kind : IntegerKind) (left right : Int) : Prop :=
  (operator = .divide ∨ operator = .remainder) ∧ kind.DivisionOverflows left right

/-- How the outcome of an operator on values that may be null compares with its outcome on the
plain values. -/
structure LiftsTo (operator : BinaryOperator) (kind : Scalar) (left right : Value)
    (lifted plain : Outcome Value) : Prop where
  zeroFill : operator = .shiftRightZero →
    lifted = .error (.invalidTree (.binary .shiftRightZero "shift")) ∧
      ∃ result : Integer, plain = .ok (.integer result)
  alike : operator ≠ .shiftRightZero → kind.isSmallInteger = false → lifted = plain
  overflows : ∀ {own : IntegerKind} {a b : Int}, kind = .integer own → own.isSmall = true →
    left.toInt? = some a → right.toInt? = some b → operator.OverflowsIn own a b →
    lifted = .error .overflow ∧ ∃ result : Integer, plain = .ok (.integer result)
  wraps : ∀ {own : IntegerKind} {a b : Int}, kind = .integer own → own.isSmall = true →
    left.toInt? = some a → right.toInt? = some b → ¬operator.OverflowsIn own a b →
    lifted = plain.map (Value.narrowed own) ∧
      ((∀ result : Integer, plain = .ok (.integer result) → own.Holds result.value) →
        AgreeNumerically lifted plain)

/-- An operator on two operands of which one is null. -/
structure PassesNull (operator : BinaryOperator) (left right : Value)
    (outcome : Outcome Value) : Prop where
  equal : operator = .equal → outcome = .ok (.boolean (left.isNull == right.isNull))
  notEqual : operator = .notEqual → outcome = .ok (.boolean (left.isNull != right.isNull))
  relational : operator.isRelational = true → outcome = .ok (.boolean false)
  other : operator.isComparison = false → outcome = .ok .null

theorem passesNull_applyNull {operator : BinaryOperator} {left right : Value}
    (absent : (left.isNull || right.isNull) = true) :
    operator.PassesNull left right (.ok (operator.applyNull left right)) where
  equal same := by
    subst same
    have both : (left.isNull && right.isNull) = (left.isNull == right.isNull) := by
      revert absent
      cases left.isNull <;> cases right.isNull <;> decide
    rw [← both]
    rfl
  notEqual same := by
    subst same
    rfl
  relational relational := by
    cases operator <;> first
      | rfl
      | cases relational
  other uncompared := by
    cases operator <;> first
      | rfl
      | cases uncompared

theorem narrowed_of_computes {operator : BinaryOperator} {kind : IntegerKind}
    (small : kind.isSmall = true) {left right : Int} (holdsLeft : kind.Holds left)
    {lifted plain : Outcome Value} (narrow : operator.Computes kind left right lifted)
    (wide : operator.Computes .int32 left right plain) :
    (operator.OverflowsIn kind left right →
        lifted = .error .overflow ∧ ∃ result : Integer, plain = .ok (.integer result)) ∧
      (¬operator.OverflowsIn kind left right → lifted = plain.map (Value.narrowed kind)) := by
  have fits := IntegerKind.width_le_int32 small
  have divided : ∀ exact : Int, kind.Divides left right exact lifted →
      IntegerKind.int32.Divides left right exact plain →
      operator = .divide ∨ operator = .remainder →
      (operator.OverflowsIn kind left right →
          lifted = .error .overflow ∧ ∃ result : Integer, plain = .ok (.integer result)) ∧
        (¬operator.OverflowsIn kind left right → lifted = plain.map (Value.narrowed kind)) := by
    intro exact narrow wide divides
    obtain ⟨tooLarge, within⟩ := narrow.narrowed small holdsLeft wide
    refine ⟨fun overflows => ?_, fun fine => within fun overflows => fine ⟨divides, overflows⟩⟩
    obtain ⟨isOverflow, result, gives, _⟩ := tooLarge overflows.2
    exact ⟨isOverflow, result, gives⟩
  have undivided : operator ≠ .divide → operator ≠ .remainder →
      lifted = plain.map (Value.narrowed kind) →
      (operator.OverflowsIn kind left right →
          lifted = .error .overflow ∧ ∃ result : Integer, plain = .ok (.integer result)) ∧
        (¬operator.OverflowsIn kind left right → lifted = plain.map (Value.narrowed kind)) := by
    intro notQuotient notRemainder same
    refine ⟨fun overflows => ?_, fun _ => same⟩
    rcases overflows.1 with quotient | remainder
    · exact absurd quotient notQuotient
    · exact absurd remainder notRemainder
  cases operator with
  | add | subtract | multiply =>
      exact undivided (by decide) (by decide) (IntegerKind.Wraps.narrowed fits narrow wide)
  | divide => exact divided _ narrow wide (.inl rfl)
  | remainder => exact divided _ narrow wide (.inr rfl)
  | bitAnd =>
      refine undivided (by decide) (by decide) (IntegerKind.HasBits.narrowed fits ?_ narrow wide)
      rw [BitVec.setWidth_and, IntegerKind.setWidth_ofInt fits, IntegerKind.setWidth_ofInt fits]
  | bitOr =>
      refine undivided (by decide) (by decide) (IntegerKind.HasBits.narrowed fits ?_ narrow wide)
      rw [BitVec.setWidth_or, IntegerKind.setWidth_ofInt fits, IntegerKind.setWidth_ofInt fits]
  | bitXor =>
      refine undivided (by decide) (by decide) (IntegerKind.HasBits.narrowed fits ?_ narrow wide)
      rw [BitVec.setWidth_xor, IntegerKind.setWidth_ofInt fits, IntegerKind.setWidth_ofInt fits]
  | equal | notEqual | less | lessEqual | greater | greaterEqual =>
      exact undivided (by decide) (by decide) (Tells.narrowed kind narrow wide)
  | shiftLeft | shiftRight | shiftRightZero | andAlso | orElse | coalesce => exact narrow.elim

theorem agree_of_narrowed {kind : IntegerKind} {lifted plain : Outcome Value}
    (narrowed : lifted = plain.map (Value.narrowed kind))
    (fits : ∀ result : Integer, plain = .ok (.integer result) → kind.Holds result.value) :
    AgreeNumerically lifted plain := by
  cases plain with
  | error cause => exact .inl narrowed
  | ok value =>
      cases value with
      | integer result =>
          exact .inr ⟨_, result, narrowed, rfl, IntegerKind.wrap_of_holds (fits result rfl)⟩
      | _ => exact .inl narrowed

/-- Two outcomes that an integer operator computes in one kind are the same. -/
theorem comparison_unique {operator : BinaryOperator} (comparison : operator.isComparison = true)
    {kind other : IntegerKind} {left right : Int} {first second : Outcome Value}
    (one : operator.Computes kind left right first)
    (same : operator.Computes other left right second) : first = second := by
  cases operator with
  | equal | notEqual | less | lessEqual | greater | greaterEqual => exact Tells.unique one same
  | _ => cases comparison

end BinaryOperator

namespace Value

theorem denotes_of_integer {value : Value} {kind : IntegerKind}
    (isScalar : value.scalar? = some (.integer kind)) :
    ∃ number, value.Denotes (.integer kind) number := by
  cases value with
  | integer number => exact ⟨number.value, isScalar, rfl⟩
  | _ => cases isScalar

theorem denotes_of_character {value : Value} (isScalar : value.scalar? = some .character) :
    ∃ letter : Char, value = .character letter ∧ value.Denotes .character letter.toNat := by
  cases value with
  | character letter => exact ⟨letter, rfl, rfl, rfl⟩
  | _ => cases isScalar

end Value

namespace Setting

variable {setting : Setting}

def Holds (setting : Setting) (term : Term) (value : Value) : Prop :=
  ∀ site, setting.evaluate site term = .ok value

theorem Holds.denotes {term : Term} {value : Value} {kind : Scalar} {number : Int}
    (holds : setting.Holds term value) (denotes : value.Denotes kind number) (site : List Nat) :
    setting.Denotes site term kind number :=
  ⟨value, holds site, denotes⟩

theorem evaluate_present {operator : BinaryOperator} (notAnd : operator ≠ .andAlso)
    (notOr : operator ≠ .orElse) {site : List Nat} {left right : Term} (type : DataType)
    {first second : Value} (evaluatedLeft : setting.evaluate (0 :: site) left = .ok first)
    (evaluatedRight : setting.evaluate (1 :: site) right = .ok second)
    (firstPresent : first.isNull = false) (secondPresent : second.isNull = false) :
    setting.evaluate site (.binary operator left right type) = operator.apply first second := by
  rw [evaluate_operands notAnd notOr type evaluatedLeft evaluatedRight, firstPresent,
    secondPresent]
  rfl

end Setting

namespace BinaryOperator

theorem eq_int32_of_shift {operator : BinaryOperator} (shift : operator.isShift = true)
    {kind : Scalar} (applies : operator.appliesTo kind = true) : kind = .integer .int32 := by
  revert applies
  cases operator with
  | shiftLeft | shiftRight | shiftRightZero =>
      cases kind with
      | integer kind => cases kind <;> decide
      | _ => decide
  | _ => cases shift

theorem promotes_of_appliesTo {operator : BinaryOperator} (notShift : operator.isShift = false)
    {kind : Scalar} (numeric : kind.isNumeric = true) (applies : operator.appliesTo kind = true) :
    operator.promotes = true := by
  revert applies numeric
  cases operator with
  | shiftLeft | shiftRight | shiftRightZero => cases notShift
  | andAlso | orElse | coalesce =>
      cases kind with
      | integer kind => cases kind <;> decide
      | _ => decide
  | _ => exact fun _ _ => rfl

theorem isComparison_of_appliesTo {operator : BinaryOperator}
    (applies : operator.appliesTo .character = true) : operator.isComparison = true := by
  revert applies
  cases operator <;> decide

theorem apply_characters {operator : BinaryOperator} (comparison : operator.isComparison = true)
    (left right : Char) :
    operator.Computes .int32 left.toNat right.toNat
      (operator.apply (.character left) (.character right)) := by
  have notShift : operator.isShift = false := by
    cases operator with
    | shiftLeft | shiftRight | shiftRightZero => cases comparison
    | _ => rfl
  have sameOrder : compare left.toNat right.toNat =
      compare (left.toNat : Int) (right.toNat : Int) := by
    rcases Nat.lt_trichotomy left.toNat right.toNat with below | same | above
    · rw [Nat.compare_eq_lt.mpr below, Int.compare_eq_lt.mpr (by omega)]
    · rw [Nat.compare_eq_eq.mpr same, Int.compare_eq_eq.mpr (by omega)]
    · rw [Nat.compare_eq_gt.mpr above, Int.compare_eq_gt.mpr (by omega)]
  unfold apply
  rw [if_neg (ne_true_of_eq_false notShift)]
  unfold onScalars
  dsimp only
  rw [sameOrder]
  exact computes_onOrder comparison .int32 _ _

end BinaryOperator

namespace Scalar

theorem met_of_small {kind : IntegerKind} (small : kind.isSmall = true) :
    (integer kind).met = .integer .int32 := by
  cases kind with
  | int8 | uint8 | int16 | uint16 => rfl
  | _ => cases small

theorem covers_of_small {kind : IntegerKind} (small : kind.isSmall = true) :
    IntegerKind.int32.covers (.integer kind) = true := by
  cases kind with
  | int8 | uint8 | int16 | uint16 => decide
  | _ => cases small

end Scalar

/-- A term that may be null and a plain one that stand for one value of a scalar kind. -/
structure Setting.Matches (setting : Setting) (kind : Scalar) (site : List Nat)
    (marked plain : Term) (value : Value) : Prop where
  scalar : value.scalar? = some kind
  evaluated : setting.evaluate site marked = .ok value
  plainType : plain.type = .ofScalar kind
  holds : setting.Holds plain value

namespace BinaryOperator

theorem LiftsTo.of_same {operator : BinaryOperator} {kind : Scalar} {left right : Value}
    {lifted plain : Outcome Value} (notZeroFill : operator ≠ .shiftRightZero)
    (notSmall : kind.isSmallInteger = false) (same : lifted = plain) :
    operator.LiftsTo kind left right lifted plain where
  zeroFill zeroFill := absurd zeroFill notZeroFill
  alike _ _ := same
  overflows isOwn small := by
    subst isOwn
    exact absurd small (ne_true_of_eq_false notSmall)
  wraps isOwn small := by
    subst isOwn
    exact absurd small (ne_true_of_eq_false notSmall)

theorem LiftsTo.of_computes {operator : BinaryOperator} (notZeroFill : operator ≠ .shiftRightZero)
    {kind : IntegerKind} (small : kind.isSmall = true) {left right : Value} {m n : Int}
    (denotesLeft : left.Denotes (.integer kind) m) (denotesRight : right.toInt? = some n)
    {lifted plain : Outcome Value} (narrow : operator.Computes kind m n lifted)
    (wide : operator.Computes .int32 m n plain) :
    operator.LiftsTo (.integer kind) left right lifted plain := by
  obtain ⟨tooLarge, within⟩ := narrowed_of_computes small
    (IntegerKind.holds_of_denotes kind.covers_self denotesLeft) narrow wide
  have numbers : ∀ {a b : Int}, left.toInt? = some a → right.toInt? = some b → a = m ∧ b = n := by
    intro a b isLeft isRight
    exact ⟨Option.some.inj (isLeft.symm.trans denotesLeft.toInt_eq),
      Option.some.inj (isRight.symm.trans denotesRight)⟩
  refine ⟨fun zeroFill => absurd zeroFill notZeroFill, fun _ wide => ?_, ?_, ?_⟩
  · exact absurd small (ne_true_of_eq_false wide)
  · intro own a b isOwn _ isLeft isRight overflows
    cases isOwn
    obtain ⟨rfl, rfl⟩ := numbers isLeft isRight
    exact tooLarge overflows
  · intro own a b isOwn _ isLeft isRight fine
    cases isOwn
    obtain ⟨rfl, rfl⟩ := numbers isLeft isRight
    exact ⟨within fine, agree_of_narrowed (within fine)⟩

variable {setting : Setting} {operator : BinaryOperator} {kind : Scalar}
  {first second plainFirst plainSecond : Term} {a b : Value} {site : List Nat}

theorem evaluate_marked (notAnd : operator ≠ .andAlso) (notOr : operator ≠ .orElse)
    (left : setting.Matches kind (0 :: site) first plainFirst a)
    (right : setting.Matches kind (1 :: site) second plainSecond b) (type : DataType) :
    setting.evaluate site (.binary operator first second type) = operator.apply a b :=
  Setting.evaluate_present notAnd notOr type left.evaluated right.evaluated
    (Value.isNull_of_scalar? left.scalar) (Value.isNull_of_scalar? right.scalar)

theorem evaluate_unmarked (notAnd : operator ≠ .andAlso) (notOr : operator ≠ .orElse)
    (left : setting.Matches kind (0 :: site) first plainFirst a)
    (right : setting.Matches kind (1 :: site) second plainSecond b) (type : DataType) :
    setting.evaluate site (.binary operator plainFirst plainSecond type) = operator.apply a b :=
  Setting.evaluate_present notAnd notOr type (left.holds _) (right.holds _)
    (Value.isNull_of_scalar? left.scalar) (Value.isNull_of_scalar? right.scalar)

theorem liftsTo_promoted (holds : setting.catalog.HoldsPrimitives) (notAnd : operator ≠ .andAlso)
    (notOr : operator ≠ .orElse) (notShift : operator.isShift = false)
    (applies : operator.appliesTo kind = true)
    (left : setting.Matches kind (0 :: site) first plainFirst a)
    (right : setting.Matches kind (1 :: site) second plainSecond b) (type plainType : DataType) :
    operator.LiftsTo kind a b (setting.evaluate site (.binary operator first second type))
      (setting.evaluate site (.binary operator (plainFirst.convertTo (.ofScalar kind.met))
        (plainSecond.convertTo (.ofScalar kind.met)) plainType)) := by
  have notZeroFill : operator ≠ .shiftRightZero := by
    rintro rfl
    cases notShift
  rw [evaluate_marked notAnd notOr left right type]
  cases small : kind.isSmallInteger with
  | true =>
      cases kind with
      | integer own =>
          have promotes := promotes_of_appliesTo notShift rfl applies
          obtain ⟨m, isLeft⟩ := Value.denotes_of_integer left.scalar
          obtain ⟨n, isRight⟩ := Value.denotes_of_integer right.scalar
          have covers := Scalar.covers_of_small small
          rw [Scalar.met_of_small small]
          refine .of_computes notZeroFill small isLeft isRight.toInt_eq ?_
            (Setting.computes_converted holds promotes left.plainType right.plainType covers covers
              (left.holds.denotes isLeft _) (right.holds.denotes isRight _) plainType)
          rw [Value.eq_of_denotes isLeft, Value.eq_of_denotes isRight]
          exact computes_wrapped promotes (IntegerKind.holds_of_denotes own.covers_self isLeft)
            (IntegerKind.holds_of_denotes own.covers_self isRight)
      | _ => cases small
  | false =>
      refine .of_same notZeroFill small ?_
      by_cases character : kind = .character
      · subst character
        have comparison := isComparison_of_appliesTo applies
        have promotes := promotes_of_appliesTo notShift rfl applies
        obtain ⟨letter, rfl, isLeft⟩ := Value.denotes_of_character left.scalar
        obtain ⟨other, rfl, isRight⟩ := Value.denotes_of_character right.scalar
        exact comparison_unique comparison (apply_characters comparison letter other)
          (Setting.computes_converted holds promotes left.plainType right.plainType (by decide)
            (by decide) (left.holds.denotes isLeft _) (right.holds.denotes isRight _) plainType)
      · have stays : kind.met = kind := by
          unfold Scalar.met
          rw [small, Bool.false_or, if_neg (by simpa using character)]
        rw [stays, plainFirst.convertTo_self left.plainType,
          plainSecond.convertTo_self right.plainType]
        exact (evaluate_unmarked notAnd notOr left right plainType).symm

theorem liftsTo_zeroFill (holds : setting.catalog.HoldsPrimitives)
    (left : setting.Matches (.integer .int32) (0 :: site) first plainFirst a)
    (right : setting.Matches (.integer .int32) (1 :: site) second plainSecond b)
    (type : DataType) :
    shiftRightZero.LiftsTo (.integer .int32) a b
      (setting.evaluate site (.binary .shiftRightZero first second type))
      (setting.evaluate site (.convert (.binary .shiftRight
        (.convert plainFirst (.ofScalar (.integer .uint32))) plainSecond
        (.ofScalar (.integer .uint32))) (.ofScalar (.integer .int32)))) := by
  obtain ⟨m, isLeft⟩ := Value.denotes_of_integer left.scalar
  obtain ⟨n, isRight⟩ := Value.denotes_of_integer right.scalar
  have lifted : setting.evaluate site (.binary .shiftRightZero first second type) =
      .error (.invalidTree (.binary .shiftRightZero "shift")) := by
    rw [evaluate_marked (by decide) (by decide) left right type, Value.eq_of_denotes isLeft,
      Value.eq_of_denotes isRight]
    rfl
  have unsigned := Setting.evaluate_convert holds left.plainType .uint32
    (left.holds (0 :: 0 :: 0 :: site)) isLeft
  have count := right.holds (1 :: 0 :: site)
  rw [Value.eq_of_denotes isRight] at count
  have shifted := Setting.evaluate_present (show shiftRight ≠ .andAlso by decide) (by decide)
    (.ofScalar (.integer .uint32)) unsigned count rfl rfl
  have plain := Setting.evaluate_convert holds
    (show (Term.binary .shiftRight (.convert plainFirst (.ofScalar (.integer .uint32)))
      plainSecond (.ofScalar (.integer .uint32))).type = _ from rfl) .int32 shifted ⟨rfl, rfl⟩
  refine ⟨fun _ => ⟨lifted, _, plain⟩, fun other => absurd rfl other, ?_, ?_⟩
  · intro own _ _ isOwn small
    cases isOwn
    cases small
  · intro own _ _ isOwn small
    cases isOwn
    cases small

theorem liftsTo_shift (holds : setting.catalog.HoldsPrimitives) (shift : operator.isShift = true)
    (left : setting.Matches (.integer .int32) (0 :: site) first plainFirst a)
    (right : setting.Matches (.integer .int32) (1 :: site) second plainSecond b)
    (type : DataType) :
    operator.LiftsTo (.integer .int32) a b (setting.evaluate site (.binary operator first second type))
      (setting.evaluate site (if operator = .shiftRightZero then
        .convert (.binary .shiftRight (.convert plainFirst (.ofScalar (.integer .uint32)))
          plainSecond (.ofScalar (.integer .uint32))) (.ofScalar (.integer .int32))
      else .binary operator plainFirst plainSecond (.ofScalar (.integer .int32)))) := by
  have notAnd : operator ≠ .andAlso := by
    rintro rfl
    cases shift
  have notOr : operator ≠ .orElse := by
    rintro rfl
    cases shift
  by_cases zeroFill : operator = .shiftRightZero
  · subst zeroFill
    rw [if_pos rfl]
    exact liftsTo_zeroFill holds left right type
  · rw [if_neg zeroFill]
    refine .of_same zeroFill rfl ?_
    rw [evaluate_marked notAnd notOr left right type, evaluate_unmarked notAnd notOr left right]

end BinaryOperator

/-! ### Unary operators -/

namespace UnaryOperator

/-- How the outcome of an operator on a value that may be null compares with its outcome on the
plain value. -/
structure LiftsTo (operator : UnaryOperator) (kind : Scalar) (lifted plain : Outcome Value) :
    Prop where
  alike : kind.isSmallInteger = false → ¬(operator = .negate ∧ kind = .integer .uint32) →
    lifted = plain
  wraps : ∀ {own : IntegerKind}, kind = .integer own →
    lifted = plain.map (Value.narrowed own) ∧
      ((∀ result : Integer, plain = .ok (.integer result) → own.Holds result.value) →
        AgreeNumerically lifted plain)

theorem LiftsTo.of_same {operator : UnaryOperator} {kind : Scalar}
    (notInteger : kind.isInteger = false) {lifted plain : Outcome Value} (same : lifted = plain) :
    operator.LiftsTo kind lifted plain where
  alike _ _ := same
  wraps isOwn := by
    subst isOwn
    cases notInteger

theorem LiftsTo.of_wraps {operator : UnaryOperator} {kind working : IntegerKind}
    (fits : kind.width ≤ working.width) {exact : Int} {lifted plain : Outcome Value}
    (narrow : kind.Wraps exact lifted) (wide : working.Wraps exact plain)
    (stays : kind.isSmall = false → working = kind) :
    operator.LiftsTo (.integer kind) lifted plain where
  alike notSmall _ := by
    have same : working = kind := stays notSmall
    subst same
    rw [narrow.eq_ok, wide.eq_ok]
  wraps isOwn := by
    cases isOwn
    have narrowed := narrow.narrowed fits wide
    exact ⟨narrowed, BinaryOperator.agree_of_narrowed narrowed⟩

theorem LiftsTo.of_negated {exact : Int} {kind : IntegerKind} {lifted plain : Outcome Value}
    (narrow : IntegerKind.uint32.Wraps exact lifted) (gives : kind.Gives exact plain) :
    negate.LiftsTo (.integer .uint32) lifted plain where
  alike _ other := absurd ⟨rfl, rfl⟩ other
  wraps isOwn := by
    cases isOwn
    obtain ⟨result, rfl, _, isExact⟩ := gives
    have residue : result.value ≡ exact [ZMOD 2 ^ IntegerKind.uint32.width] := by
      rw [isExact]
    have narrowed := narrow.narrowed_of_modEq residue
    exact ⟨narrowed, BinaryOperator.agree_of_narrowed narrowed⟩

end UnaryOperator

theorem Catalog.negatedLiteral?_eq_none {operand : Term} (faithful : operand.Faithful)
    (other : ∀ kind, operand.type ≠ .ofScalar (.integer kind)) : negatedLiteral? operand = none := by
  unfold negatedLiteral?
  split
  · rename_i integer type
    rcases faithful _ _ rfl with impossible | same
    · cases impossible
    · exact absurd same (other integer.kind)
  · rfl

namespace Scope

structure Builds (scope : Scope) (expr : Expr) (term : Term) (type : DataType) : Prop where
  built : scope.term expr = .ok term
  type_eq : term.type = type

variable {scope : Scope}

theorem Builds.noLiteral {expr : Expr} {term : Term} {type : DataType}
    (builds : scope.Builds expr term type)
    (other : ∀ kind, type ≠ .ofScalar (.integer kind)) : Catalog.negatedLiteral? term = none :=
  Catalog.negatedLiteral?_eq_none (term_root expr builds.built).faithful
    (builds.type_eq ▸ other)

theorem lifts_unary_integer (holds : scope.catalog.HoldsPrimitives) {operator : UnaryOperator}
    {kind : IntegerKind} (applies : operator.appliesTo (.integer kind) = true) (token : String)
    {plain : Expr} {operand : Term}
    (builds : scope.Builds plain operand (.ofScalar (.integer kind))) :
    ∃ tree, scope.term (.unary operator token plain) = .ok tree ∧
      ∀ (setting : Setting) (site : List Nat) (value : Value),
        setting.catalog = scope.catalog → value.scalar? = some (.integer kind) →
        setting.Holds operand value →
        operator.LiftsTo (.integer kind) (operator.apply value) (setting.evaluate site tree) := by
  have isOperand : scope.Operand plain operand (.integer kind) :=
    ⟨builds.built, builds.type_eq, rfl⟩
  have narrow : ∀ {value : Value} {number : Int}, value.Denotes (.integer kind) number →
      kind.Wraps (operator.exact number) (operator.apply value) := by
    intro value number denotes
    have wraps := operator.wraps_apply (.wrap kind number)
    have fits : kind.wrap number = number :=
      IntegerKind.wrap_of_holds (IntegerKind.holds_of_denotes kind.covers_self denotes)
    change kind.Wraps (operator.exact (kind.wrap number)) _ at wraps
    rwa [fits, ← Value.eq_of_denotes denotes] at wraps
  by_cases negated : operator = .negate ∧ kind = .uint32
  · obtain ⟨rfl, rfl⟩ := negated
    obtain ⟨result, tree, built, _, gives⟩ := @negate_exact scope holds token plain operand isOperand
    refine ⟨tree, built, fun setting site value sameCatalog isScalar holdsValue => ?_⟩
    obtain ⟨number, denotes⟩ := Value.denotes_of_integer isScalar
    exact .of_negated (narrow denotes)
      (gives setting site number sameCatalog (holdsValue.denotes denotes _))
  · have ordinary : ¬(operator = .negate ∧ (kind = .uint32 ∨ kind = .uint64)) := by
      rintro ⟨rfl, rfl | rfl⟩
      · exact negated ⟨rfl, rfl⟩
      · cases applies
    obtain ⟨tree, built, _, wraps⟩ :=
      @unary_computes scope holds operator token plain operand kind isOperand ordinary
    refine ⟨tree, built, fun setting site value sameCatalog isScalar holdsValue => ?_⟩
    obtain ⟨number, denotes⟩ := Value.denotes_of_integer isScalar
    refine .of_wraps ?_ (narrow denotes)
      (wraps setting site number sameCatalog (holdsValue.denotes denotes _)) ?_
    · split
      · rename_i small
        exact IntegerKind.width_le_int32 small
      · exact Nat.le_refl _
    · intro notSmall
      rw [notSmall, if_neg Bool.false_ne_true]

/-- The builder accepts a built-in unary operator on an operand of a scalar type with null
added. -/
structure TakesMarked (scope : Scope) (operator : UnaryOperator) (token : String) (kind : Scalar)
    (marked : Expr) (operand tree : Term) : Prop where
  undeclared : scope.catalog.declaredOperator operator.methodName [.orNull (.ofScalar kind)] =
    .ok none
  builds : scope.Builds marked operand (.orNull (.ofScalar kind))
  accepted : scope.term (.unary operator token marked) = .ok tree

/-- The builder accepts a built-in binary operator on two operands of a scalar type with null
added. The choice after a null is no operator on the values. -/
structure TakesBothMarked (scope : Scope) (operator : BinaryOperator) (kind : Scalar)
    (left right : Expr) (first second tree : Term) : Prop where
  notChoice : operator ≠ .coalesce
  undeclared : ∀ name, operator.methodName? = some name →
    scope.catalog.declaredOperator name [.orNull (.ofScalar kind), .orNull (.ofScalar kind)] =
      .ok none
  buildsLeft : scope.Builds left first (.orNull (.ofScalar kind))
  buildsRight : scope.Builds right second (.orNull (.ofScalar kind))
  accepted : scope.term (.binary operator.token left right) = .ok tree

/-- Built-in operators on operands of a scalar type with null added. What the builder accepts it
accepts on plain operands as well; null is compared and passed on, and values compare with what
plain operands that hold them give. -/
structure LiftsOperators (scope : Scope) : Prop where
  unary : ∀ {operator : UnaryOperator} {token : String} {kind : Scalar} {marked plain : Expr}
    {operand plainOperand tree : Term},
    scope.TakesMarked operator token kind marked operand tree →
    scope.Builds plain plainOperand (.ofScalar kind) →
    ∃ plainTree, scope.term (.unary operator token plain) = .ok plainTree ∧
      ∀ (setting : Setting) (site : List Nat) (value : Value), setting.catalog = scope.catalog →
        setting.Matches kind (0 :: site) operand plainOperand value →
        operator.LiftsTo kind (setting.evaluate site tree) (setting.evaluate site plainTree)
  unary_null : ∀ {operator : UnaryOperator} {token : String} {kind : Scalar} {marked : Expr}
    {operand tree : Term}, scope.TakesMarked operator token kind marked operand tree →
    ∀ (setting : Setting) (site : List Nat),
      setting.evaluate (0 :: site) operand = .ok .null → setting.evaluate site tree = .ok .null
  binary : ∀ {operator : BinaryOperator} {kind : Scalar} {left right plainLeft plainRight : Expr}
    {first second plainFirst plainSecond tree : Term},
    scope.TakesBothMarked operator kind left right first second tree →
    scope.Builds plainLeft plainFirst (.ofScalar kind) →
    scope.Builds plainRight plainSecond (.ofScalar kind) →
    ∃ plainTree, scope.term (.binary operator.token plainLeft plainRight) = .ok plainTree ∧
      ∀ (setting : Setting) (site : List Nat) (a b : Value), setting.catalog = scope.catalog →
        setting.Matches kind (0 :: site) first plainFirst a →
        setting.Matches kind (1 :: site) second plainSecond b →
        operator.LiftsTo kind a b (setting.evaluate site tree) (setting.evaluate site plainTree)
  binary_null : ∀ {operator : BinaryOperator} {kind : Scalar} {left right : Expr}
    {first second tree : Term}, scope.TakesBothMarked operator kind left right first second tree →
    ∀ (setting : Setting) (site : List Nat) (a b : Value),
      setting.evaluate (0 :: site) first = .ok a →
      setting.evaluate (1 :: site) second = .ok b → (a.isNull || b.isNull) = true →
      operator.PassesNull a b (setting.evaluate site tree)

theorem TakesMarked.applies {operator : UnaryOperator} {token : String} {kind : Scalar}
    {marked : Expr} {operand tree : Term}
    (takes : scope.TakesMarked operator token kind marked operand tree) :
    operator.appliesTo kind = true ∧ tree = .unary operator operand (.orNull (.ofScalar kind)) := by
  have accepted := takes.accepted
  have noLiteral := takes.builds.noLiteral fun _ same =>
    Bool.noConfusion (congrArg DataType.nullable same)
  rw [term_unary operator token takes.builds.built] at accepted
  exact Catalog.unaryTerm_orNull takes.undeclared takes.builds.type_eq noLiteral accepted

theorem TakesBothMarked.applies (references : scope.catalog.ReferencesAbove)
    {operator : BinaryOperator} {kind : Scalar} {left right : Expr} {first second tree : Term}
    (takes : scope.TakesBothMarked operator kind left right first second tree) :
    operator ≠ .andAlso ∧ operator ≠ .orElse ∧ operator.appliesTo kind = true ∧
      tree = .binary operator first second (operator.resultOn (.orNull (.ofScalar kind))) := by
  have accepted := takes.accepted
  rw [term_binary operator takes.buildsLeft.built takes.buildsRight.built] at accepted
  exact Catalog.binaryTerm_orNull references takes.notChoice takes.undeclared takes.buildsLeft.type_eq
    takes.buildsRight.type_eq accepted

theorem lifts_unary (holds : scope.catalog.HoldsPrimitives) {operator : UnaryOperator}
    {token : String} {kind : Scalar} {marked plain : Expr} {operand plainOperand tree : Term}
    (takes : scope.TakesMarked operator token kind marked operand tree)
    (builds : scope.Builds plain plainOperand (.ofScalar kind)) :
    ∃ plainTree, scope.term (.unary operator token plain) = .ok plainTree ∧
      ∀ (setting : Setting) (site : List Nat) (value : Value), setting.catalog = scope.catalog →
        setting.Matches kind (0 :: site) operand plainOperand value →
        operator.LiftsTo kind (setting.evaluate site tree) (setting.evaluate site plainTree) := by
  obtain ⟨applies, rfl⟩ := takes.applies
  have lifted : ∀ {setting : Setting} {site : List Nat} {value : Value},
      setting.Matches kind (0 :: site) operand plainOperand value →
      setting.evaluate site (.unary operator operand (.orNull (.ofScalar kind))) =
        operator.apply value := by
    intro setting site value same
    exact Setting.evaluate_unary operator site operand _ same.evaluated
      (Value.isNull_of_scalar? same.scalar)
  cases kind with
  | integer own =>
      obtain ⟨plainTree, built, lifts⟩ := lifts_unary_integer holds applies token builds
      refine ⟨plainTree, built, fun setting site value sameCatalog same => ?_⟩
      rw [lifted same]
      exact lifts setting site value sameCatalog same.scalar same.holds
  | boolean | character | single | double | decimal =>
      have noLiteral := builds.noLiteral fun own same =>
        nomatch DataType.ofScalar_injective same
      rw [term_unary operator token builds.built,
        Catalog.unaryTerm_scalar holds rfl applies builds.type_eq noLiteral]
      refine ⟨_, rfl, fun setting site value _ same => .of_same rfl ?_⟩
      rw [lifted same, Setting.evaluate_unary operator site plainOperand _ (same.holds _)
        (Value.isNull_of_scalar? same.scalar)]

theorem lifts_binary (holds : scope.catalog.HoldsPrimitives)
    (references : scope.catalog.ReferencesAbove) {operator : BinaryOperator} {kind : Scalar}
    {left right plainLeft plainRight : Expr} {first second plainFirst plainSecond tree : Term}
    (takes : scope.TakesBothMarked operator kind left right first second tree)
    (buildsLeft : scope.Builds plainLeft plainFirst (.ofScalar kind))
    (buildsRight : scope.Builds plainRight plainSecond (.ofScalar kind)) :
    ∃ plainTree, scope.term (.binary operator.token plainLeft plainRight) = .ok plainTree ∧
      ∀ (setting : Setting) (site : List Nat) (a b : Value), setting.catalog = scope.catalog →
        setting.Matches kind (0 :: site) first plainFirst a →
        setting.Matches kind (1 :: site) second plainSecond b →
        operator.LiftsTo kind a b (setting.evaluate site tree)
          (setting.evaluate site plainTree) := by
  obtain ⟨notAnd, notOr, applies, rfl⟩ := takes.applies references
  rw [term_binary operator buildsLeft.built buildsRight.built]
  cases shift : operator.isShift with
  | true =>
      have isInt32 := BinaryOperator.eq_int32_of_shift shift applies
      subst isInt32
      rw [Catalog.binaryTerm_shift holds shift buildsLeft.type_eq buildsRight.type_eq]
      refine ⟨_, rfl, fun setting site a b sameCatalog left right => ?_⟩
      rw [← sameCatalog] at holds
      exact BinaryOperator.liftsTo_shift holds shift left right _
  | false =>
      rw [Catalog.binaryTerm_alike holds notAnd notOr takes.notChoice shift applies
        buildsLeft.type_eq buildsRight.type_eq]
      refine ⟨_, rfl, fun setting site a b sameCatalog left right => ?_⟩
      rw [← sameCatalog] at holds
      exact BinaryOperator.liftsTo_promoted holds notAnd notOr shift applies left right _ _

theorem liftsOperators (scope : Scope) (holds : scope.catalog.HoldsPrimitives)
    (references : scope.catalog.ReferencesAbove) : scope.LiftsOperators where
  unary := lifts_unary holds
  unary_null takes setting site evaluated := by
    obtain ⟨_, rfl⟩ := takes.applies
    unfold Setting.evaluate
    rw [evaluated]
    rfl
  binary := lifts_binary holds references
  binary_null takes setting site a b evaluatedLeft evaluatedRight absent := by
    obtain ⟨notAnd, notOr, _, rfl⟩ := takes.applies references
    rw [Setting.evaluate_operands notAnd notOr _ evaluatedLeft evaluatedRight, if_pos absent]
    exact BinaryOperator.passesNull_applyNull absent

end Scope

/-! ### A quotient that only 32 bits hold -/

/-- A type with two properties that may be null: the least of the smallest integers, and minus
one. -/
def Catalog.boxedBytes : Catalog :=
  let box : TypeEntry :=
    { id := ⟨1⟩, name := "Box", namespaceName := "App", kind := .classType, base := some .object }
  ⟨primitives.entries ++
    [ box.addMembers
        [ .staticProperty "Least" (.orNull .int8) (.constant (.integer (.wrap .int8 (-128)))),
          .staticProperty "MinusOne" (.orNull .int8) (.constant (.integer (.wrap .int8 (-1)))) ] ]⟩

namespace Scope

def boxedBytes : Scope :=
  ⟨.boxedBytes, [.closed "box" ⟨1⟩], none⟩

def boxedBytesSetting : Setting :=
  { catalog := .boxedBytes }

def boxedProperty (name : String) : Expr :=
  .member (.reference "box") (.reference name)

def boxes (name : String) (number : Int) (site : List Nat) : Bool :=
  (boxedBytes.term (boxedProperty name)).toOption.any fun term =>
    term.type = .orNull .int8 ∧
      (boxedBytesSetting.evaluate site term).toOption.any fun value =>
        value.scalar? = some (.integer .int8) ∧ value.toInt? = some number

theorem boxes_spec {name : String} {number : Int} {site : List Nat}
    (boxes : boxes name number site = true) :
    ∃ term, boxedBytes.Builds (boxedProperty name) term (.orNull .int8) ∧
      boxedBytesSetting.Matches (.integer .int8) site term
        (.ofValue (.integer (.wrap .int8 number))) (.integer (.wrap .int8 number)) := by
  obtain ⟨term, built, checked⟩ := ok_of_any boxes
  obtain ⟨termType, evaluates⟩ := of_decide_eq_true checked
  obtain ⟨value, evaluated, checked⟩ := ok_of_any evaluates
  obtain ⟨isScalar, isInt⟩ := of_decide_eq_true checked
  have isNumber := Value.eq_of_denotes ⟨isScalar, isInt⟩
  refine ⟨term, ⟨built, termType⟩, rfl, isNumber ▸ evaluated, rfl, fun site => ?_⟩
  unfold Term.ofValue Setting.evaluate
  rfl

/-- Divided by minus one, the least of the smallest integers overflows where it may be null. -/
theorem liftsOperators_boxedBytes :
    boxedBytes.LiftsOperators ∧
      ∃ tree plainTree,
        boxedBytes.term (.binary "/" (boxedProperty "Least") (boxedProperty "MinusOne")) = .ok tree ∧
        boxedBytes.term (.binary "/" (.literal (.integer (.wrap .int8 (-128))))
          (.literal (.integer (.wrap .int8 (-1))))) = .ok plainTree ∧
        boxedBytesSetting.evaluate [] tree = .error .overflow ∧
        ∃ result : Integer, boxedBytesSetting.evaluate [] plainTree = .ok (.integer result) := by
  have holds : boxedBytes.catalog.HoldsPrimitives := by
    unfold Catalog.HoldsPrimitives
    decide +kernel
  have flat : boxedBytes.catalog.Flat := .of_entries (by decide +kernel)
  have lifts := liftsOperators boxedBytes holds (flat.referencesAbove holds)
  obtain ⟨first, buildsLeft, matchesLeft⟩ :=
    boxes_spec (show boxes "Least" (-128) [0] = true by decide +kernel)
  obtain ⟨second, buildsRight, matchesRight⟩ :=
    boxes_spec (show boxes "MinusOne" (-1) [1] = true by decide +kernel)
  have undeclared : ((boxedBytes.catalog.declaredOperator "op_Division"
      [.orNull .int8, .orNull .int8]).toOption.any Option.isNone) = true := by
    decide +kernel
  obtain ⟨declared, isDeclared, noMethod⟩ := ok_of_any undeclared
  have accepted : (boxedBytes.term (.binary "/" (boxedProperty "Least")
      (boxedProperty "MinusOne"))).toOption.any (fun tree => tree.type = .orNull .int8) = true := by
    decide +kernel
  obtain ⟨tree, built, _⟩ := ok_of_any accepted
  have takes : boxedBytes.TakesBothMarked .divide (.integer .int8) (boxedProperty "Least")
      (boxedProperty "MinusOne") first second tree := by
    refine ⟨by decide, ?_, buildsLeft, buildsRight, built⟩
    intro name named
    cases named
    rw [Option.isNone_iff_eq_none.mp noMethod] at isDeclared
    exact isDeclared
  have literal : ∀ number : Int, boxedBytes.Builds (.literal (.integer (.wrap .int8 number)))
      (.ofValue (.integer (.wrap .int8 number))) (.ofScalar (.integer .int8)) := by
    intro number
    exact ⟨by unfold Scope.term; rfl, rfl⟩
  obtain ⟨plainTree, plainBuilt, compares⟩ := lifts.binary takes (literal (-128)) (literal (-1))
  have outcomes := compares boxedBytesSetting [] _ _ rfl matchesLeft matchesRight
  have overflows : BinaryOperator.divide.OverflowsIn .int8 (-128) (-1) :=
    ⟨.inl rfl, rfl, by decide, rfl⟩
  obtain ⟨lifted, plain⟩ := outcomes.overflows rfl rfl (by decide) (by decide) overflows
  exact ⟨lifts, tree, plainTree, built, plainBuilt, lifted, plain⟩

end Scope

end Formula
