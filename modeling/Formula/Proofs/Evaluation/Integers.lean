import Formula.Evaluation.Expression
import Formula.Proofs.Number.Integer
import Formula.Proofs.Typing.Integers

/-!
Integer operators compute with integers. Operands of different kinds are first cast to a kind
that holds both, so the result is the exact one as far as that kind has it: congruent to it for
what wraps, equal to it for quotients, remainders and comparisons.
-/

namespace Formula

namespace IntegerKind

/-- The outcome is the integer of the kind that is congruent to an exact result. -/
def Wraps (kind : IntegerKind) (exact : Int) (outcome : Outcome Value) : Prop :=
  ∃ result : Integer, outcome = .ok (.integer result) ∧ result.kind = kind ∧
    result.value ≡ exact [ZMOD 2 ^ kind.width]

def Gives (kind : IntegerKind) (exact : Int) (outcome : Outcome Value) : Prop :=
  ∃ result : Integer, outcome = .ok (.integer result) ∧ result.kind = kind ∧
    result.value = exact

/-- The outcome is the integer of the kind with these bits in two's complement. -/
def HasBits (kind : IntegerKind) (bits : BitVec kind.width) (outcome : Outcome Value) : Prop :=
  ∃ result : Integer, outcome = .ok (.integer result) ∧ result.kind = kind ∧
    BitVec.ofInt kind.width result.value = bits

/-- The one pair of operands whose quotient the kind does not hold. -/
def DivisionOverflows (kind : IntegerKind) (left right : Int) : Prop :=
  kind.isSigned = true ∧ left = kind.least ∧ right = -1

structure Divides (kind : IntegerKind) (left right exact : Int) (outcome : Outcome Value) :
    Prop where
  divideByZero_iff : outcome = .error .divideByZero ↔ right = 0
  overflow_iff : outcome = .error .overflow ↔ kind.DivisionOverflows left right
  gives : right ≠ 0 → ¬kind.DivisionOverflows left right → kind.Gives exact outcome

end IntegerKind

def Tells (statement : Prop) (outcome : Outcome Value) : Prop :=
  ∃ truth : Bool, outcome = .ok (.boolean truth) ∧ (truth = true ↔ statement)

namespace BinaryOperator

/-- What a promoting operator should make of two integers that meet in a kind. -/
def Computes (operator : BinaryOperator) (kind : IntegerKind) (left right : Int)
    (outcome : Outcome Value) : Prop :=
  match operator with
  | add => kind.Wraps (left + right) outcome
  | subtract => kind.Wraps (left - right) outcome
  | multiply => kind.Wraps (left * right) outcome
  | divide => kind.Divides left right (left.tdiv right) outcome
  | remainder => kind.Divides left right (left.tmod right) outcome
  | bitAnd => kind.HasBits (BitVec.ofInt _ left &&& BitVec.ofInt _ right) outcome
  | bitOr => kind.HasBits (BitVec.ofInt _ left ||| BitVec.ofInt _ right) outcome
  | bitXor => kind.HasBits (BitVec.ofInt _ left ^^^ BitVec.ofInt _ right) outcome
  | equal => Tells (left = right) outcome
  | notEqual => Tells (left ≠ right) outcome
  | less => Tells (left < right) outcome
  | lessEqual => Tells (left ≤ right) outcome
  | greater => Tells (left > right) outcome
  | greaterEqual => Tells (left ≥ right) outcome
  | _ => False

theorem wraps_wrap (kind : IntegerKind) (exact : Int) :
    kind.Wraps exact (.ok (.integer (.wrap kind exact))) :=
  ⟨_, rfl, rfl, kind.wrap_modEq exact⟩

theorem divides_onIntegers {operator : BinaryOperator} {left right : Integer} {exact : Int}
    (sameKind : right.kind = left.kind)
    (unfolded : operator.onIntegers left right =
      if right.value = 0 then .error .divideByZero
      else if left.kind.Holds (left.value.tdiv right.value) then
        .ok (.integer (.wrap left.kind exact))
      else .error .overflow)
    (holdsExact : right.value ≠ 0 → left.kind.Holds (left.value.tdiv right.value) →
      left.kind.Holds exact) :
    left.kind.Divides left.value right.value exact (operator.onIntegers left right) := by
  have holdsRight : left.kind.Holds right.value := by
    rw [← sameKind]
    exact right.holds
  rw [unfolded]
  by_cases zero : right.value = 0
  · rw [if_pos zero]
    have noOverflow : ¬left.kind.DivisionOverflows left.value right.value := by
      rintro ⟨_, _, minusOne⟩
      omega
    exact ⟨iff_of_true rfl zero, iff_of_false (by simp) noOverflow, fun nonzero =>
      absurd zero nonzero⟩
  · rw [if_neg zero]
    have fits := IntegerKind.holds_tdiv_iff left.holds holdsRight zero
    by_cases holds : left.kind.Holds (left.value.tdiv right.value)
    · rw [if_pos holds]
      have noOverflow := fits.mp holds
      refine ⟨iff_of_false (by simp) zero, iff_of_false (by simp) noOverflow, fun _ _ => ?_⟩
      refine ⟨_, rfl, rfl, ?_⟩
      exact IntegerKind.wrap_of_holds (holdsExact zero holds)
    · rw [if_neg holds]
      have overflows : left.kind.DivisionOverflows left.value right.value := by
        by_contra fine
        exact holds (fits.mpr fine)
      exact ⟨iff_of_false (by simp) zero, iff_of_true rfl overflows, fun _ fine =>
        absurd overflows fine⟩

theorem computes_onOrder {operator : BinaryOperator} (comparison : operator.isComparison = true)
    (kind : IntegerKind) (left right : Int) :
    operator.Computes kind left right (operator.onOrder (some (compare left right))) := by
  rcases Int.lt_trichotomy left right with below | same | above
  · rw [Int.compare_eq_lt.mpr below]
    cases operator <;> first
      | exact absurd comparison Bool.false_ne_true
      | exact ⟨_, rfl, iff_of_true rfl (by omega)⟩
      | exact ⟨_, rfl, iff_of_false Bool.false_ne_true (by omega)⟩
  · rw [Int.compare_eq_eq.mpr same]
    cases operator <;> first
      | exact absurd comparison Bool.false_ne_true
      | exact ⟨_, rfl, iff_of_true rfl (by omega)⟩
      | exact ⟨_, rfl, iff_of_false Bool.false_ne_true (by omega)⟩
  · rw [Int.compare_eq_gt.mpr above]
    cases operator <;> first
      | exact absurd comparison Bool.false_ne_true
      | exact ⟨_, rfl, iff_of_true rfl (by omega)⟩
      | exact ⟨_, rfl, iff_of_false Bool.false_ne_true (by omega)⟩

theorem computes_onIntegers {operator : BinaryOperator} (promotes : operator.promotes = true)
    {left right : Integer} (sameKind : right.kind = left.kind) :
    operator.Computes left.kind left.value right.value (operator.onIntegers left right) := by
  have holdsRight : left.kind.Holds right.value := by
    rw [← sameKind]
    exact right.holds
  cases operator with
  | shiftLeft | shiftRight | shiftRightZero | andAlso | orElse | coalesce =>
      exact absurd promotes (by decide)
  | add | subtract | multiply => exact wraps_wrap left.kind _
  | divide => exact divides_onIntegers sameKind rfl fun _ fits => fits
  | remainder =>
      exact divides_onIntegers sameKind rfl fun nonzero _ =>
        IntegerKind.holds_tmod left.holds holdsRight nonzero
  | bitAnd => exact ⟨_, rfl, rfl, Integer.bitwise_ofInt BitVec.toNat_and sameKind⟩
  | bitOr => exact ⟨_, rfl, rfl, Integer.bitwise_ofInt BitVec.toNat_or sameKind⟩
  | bitXor => exact ⟨_, rfl, rfl, Integer.bitwise_ofInt BitVec.toNat_xor sameKind⟩
  | equal | notEqual | less | lessEqual | greater | greaterEqual =>
      exact computes_onOrder rfl left.kind left.value right.value

theorem apply_integers {operator : BinaryOperator} (promotes : operator.promotes = true)
    {left right : Integer} (sameKind : left.kind = right.kind) :
    operator.apply (.integer left) (.integer right) = operator.onIntegers left right := by
  have notShift : operator.isShift = false := by
    cases operator with
    | shiftLeft | shiftRight | shiftRightZero => exact absurd promotes (by decide)
    | _ => rfl
  unfold apply
  rw [if_neg (ne_true_of_eq_false notShift)]
  unfold onScalars
  dsimp only
  rw [if_pos sameKind]

end BinaryOperator

namespace Value

theorem isNull_of_denotes {value : Value} {kind : Scalar} {number : Int}
    (denotes : value.Denotes kind number) : value.isNull = false :=
  isNull_of_scalar? denotes.scalar_eq

theorem eq_of_denotes {value : Value} {kind : IntegerKind} {number : Int}
    (denotes : value.Denotes (.integer kind) number) :
    value = .integer (.wrap kind number) := by
  obtain ⟨isScalar, isInt⟩ := denotes
  cases value <;> simp only [scalar?, toInt?, Option.some.injEq, reduceCtorEq,
    Scalar.integer.injEq] at isScalar isInt
  subst isScalar isInt
  rw [Integer.wrap_value]

theorem denotes_wrap {kind : IntegerKind} {number : Int} (holds : kind.Holds number) :
    (Value.integer (.wrap kind number)).Denotes (.integer kind) number :=
  ⟨rfl, congrArg some (IntegerKind.wrap_of_holds holds)⟩

theorem toKind_integer {value : Value} {operand : Scalar} {number : Int}
    (denotes : value.Denotes operand number) (kind : IntegerKind) :
    value.toKind (.integer kind) = .ok (.integer (.wrap kind number)) := by
  unfold toKind
  split
  · rename_i same
    have asKind : value.Denotes (.integer kind) number := ⟨same, denotes.toInt_eq⟩
    rw [eq_of_denotes asKind]
  · rw [denotes.toInt_eq]
    rfl

end Value

namespace Catalog

variable {catalog : Catalog}

theorem cast_integral (holds : catalog.HoldsPrimitives) {value : Value} {operand : Scalar}
    {number : Int} (denotes : value.Denotes operand number) (kind : IntegerKind) :
    catalog.cast value (.ofScalar operand) (.ofScalar (.integer kind)) =
      .ok (.integer (.wrap kind number)) := by
  have plain : (DataType.ofScalar (.integer kind)).underlying = .ofScalar (.integer kind) := rfl
  unfold cast
  simp only [Value.isNull_of_denotes denotes, plain, isReferenceType_ofScalar,
    holds.underlying?_ofScalar, DataType.scalar?_ofScalar, Bool.false_eq_true, if_false,
    Bool.false_and]
  unfold castToScalar
  rw [Value.toKind_integer denotes]

end Catalog

namespace Term

/-- The path to a term once it has been converted to a type, from the path to the conversion. -/
def siteUnder (term : Term) (target : DataType) (site : List Nat) : List Nat :=
  if term.type = target then site else 0 :: site

end Term

namespace Setting

variable {setting : Setting}

theorem evaluate_convert (holds : setting.catalog.HoldsPrimitives) {term : Term}
    {operand : Scalar} (termType : term.type = .ofScalar operand) (kind : IntegerKind)
    {site : List Nat} {value : Value} {number : Int}
    (evaluated : setting.evaluate (0 :: site) term = .ok value)
    (denotes : value.Denotes operand number) :
    setting.evaluate site (.convert term (.ofScalar (.integer kind))) =
      .ok (.integer (.wrap kind number)) := by
  unfold evaluate
  rw [evaluated, termType]
  exact Catalog.cast_integral holds denotes kind

/-- A converted operand gives the integer it stood for, as far as the new kind has it. -/
theorem evaluate_convertTo (holds : setting.catalog.HoldsPrimitives) {term : Term}
    {operand : Scalar} (termType : term.type = .ofScalar operand) {kind : IntegerKind}
    {site : List Nat} {value : Value} {number : Int}
    (evaluated : setting.evaluate (term.siteUnder (.ofScalar (.integer kind)) site) term =
      .ok value)
    (denotes : value.Denotes operand number) :
    setting.evaluate site (term.convertTo (.ofScalar (.integer kind))) =
      .ok (.integer (.wrap kind number)) := by
  unfold Term.siteUnder at evaluated
  unfold Term.convertTo
  by_cases same : term.type = .ofScalar (.integer kind)
  · rw [if_pos same] at evaluated
    rw [if_pos same, evaluated]
    have sameKind : operand = .integer kind := by
      rw [termType] at same
      exact DataType.ofScalar_injective same
    subst sameKind
    rw [Value.eq_of_denotes denotes]
  · rw [if_neg same] at evaluated
    rw [if_neg same]
    exact evaluate_convert holds termType kind evaluated denotes

theorem evaluate_operands {operator : BinaryOperator} (notAnd : operator ≠ .andAlso)
    (notOr : operator ≠ .orElse) {site : List Nat} {left right : Term} (type : DataType)
    {first second : Value} (evaluatedLeft : setting.evaluate (0 :: site) left = .ok first)
    (evaluatedRight : setting.evaluate (1 :: site) right = .ok second) :
    setting.evaluate site (.binary operator left right type) =
      if first.isNull || second.isNull then .ok (operator.applyNull first second)
      else operator.apply first second := by
  cases operator with
  | andAlso => exact absurd rfl notAnd
  | orElse => exact absurd rfl notOr
  | _ =>
      unfold evaluate
      simp only [evaluatedLeft, evaluatedRight, bind, Except.bind]
      rfl

theorem evaluate_binary {operator : BinaryOperator} (promotes : operator.promotes = true)
    (site : List Nat) (left right : Term) (type : DataType) {first second : Value}
    (evaluatedLeft : setting.evaluate (0 :: site) left = .ok first)
    (evaluatedRight : setting.evaluate (1 :: site) right = .ok second)
    (firstPresent : first.isNull = false) (secondPresent : second.isNull = false) :
    setting.evaluate site (.binary operator left right type) = operator.apply first second := by
  rw [evaluate_operands (by rintro rfl; cases promotes) (by rintro rfl; cases promotes) type
    evaluatedLeft evaluatedRight, firstPresent, secondPresent]
  rfl

theorem evaluate_unary (operator : UnaryOperator) (site : List Nat) (operand : Term)
    (type : DataType) {value : Value}
    (evaluated : setting.evaluate (0 :: site) operand = .ok value)
    (present : value.isNull = false) :
    setting.evaluate site (.unary operator operand type) = operator.apply value := by
  unfold evaluate
  simp only [evaluated, bind, Except.bind, present, Bool.false_eq_true, if_false]

end Setting

end Formula
