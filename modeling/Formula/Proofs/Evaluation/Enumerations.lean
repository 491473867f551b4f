import Formula.Proofs.Soundness.Conversions
import Formula.Proofs.Typing.Enumerations

/-!
Operators on the values of an enumeration are arithmetic on the integers behind them. Whatever
kind these are of, the result is the exact one wrapped to that kind, for small kinds too, though
they are computed with in 32 bits: so only kinds of 32 bits and more overflow under a division.
The bits of the widest unsigned integers are kept as signed ones, and read back without loss.
-/

namespace Formula

namespace Value

def enumerated (type : DataType) (number : Int) : Value :=
  .enumeration type.id (.ofInt number)

theorem toKind_enumerated (type : DataType) (number : Int) (kind : Scalar) :
    toKind (.enumerated type number) kind = castInt (Int64.ofInt number).toInt kind := rfl

/-- A cast to an integer kind does not tell the bits from the number that they were made of. -/
theorem toKind_enumerated_integer (type : DataType) (number : Int) (own : IntegerKind) :
    toKind (.enumerated type number) (.integer own) = .ok (.integer (.wrap own number)) := by
  have congruent : (Int64.ofInt number).toInt ≡ number [ZMOD 2 ^ own.width] :=
    (IntegerKind.toInt_ofInt_modEq number).of_dvd (pow_dvd_pow 2 own.width_le)
  rw [toKind_enumerated, ← Integer.wrap_congr congruent]
  rfl

def asEnumeration (type : DataType) (own : IntegerKind) : Value → Value
  | .integer number => .enumerated type (own.wrap number.value)
  | value => value

def InRange (type : DataType) (own : IntegerKind) (value : Value) : Prop :=
  ∃ number, own.Holds number ∧ value = .enumerated type number

end Value

namespace IntegerKind

variable {kind wide : IntegerKind} {exact : Int} {plain : Outcome Value}

def WrapsTo (kind : IntegerKind) (type : DataType) (exact : Int) (outcome : Outcome Value) :
    Prop :=
  outcome = .ok (.enumerated type (kind.wrap exact))

def HasBitsTo (kind : IntegerKind) (type : DataType) (bits : BitVec kind.width)
    (outcome : Outcome Value) : Prop :=
  ∃ number, kind.Holds number ∧ BitVec.ofInt kind.width number = bits ∧
    outcome = .ok (.enumerated type number)

/-- The operands whose quotient is too large, which is so in 32 and 64 bits only. -/
def QuotientOverflows (kind : IntegerKind) (left right : Int) : Prop :=
  (kind = .int32 ∨ kind = .int64) ∧ left = kind.least ∧ right = -1

structure DividesTo (kind : IntegerKind) (type : DataType) (left right exact : Int)
    (outcome : Outcome Value) : Prop where
  divideByZero_iff : outcome = .error .divideByZero ↔ right = 0
  overflow_iff : outcome = .error .overflow ↔ kind.QuotientOverflows left right
  gives : right ≠ 0 → ¬kind.QuotientOverflows left right → kind.WrapsTo type exact outcome

theorem divisionOverflows_widened {left : Int} (holdsLeft : kind.Holds left) (right : Int) :
    kind.widened.DivisionOverflows left right ↔ kind.QuotientOverflows left right := by
  have within : kind.isSmall = true → left ≠ int32.least := by
    intro small same
    have above := (holds_int32 small holdsLeft).1
    omega
  cases kind with
  | int8 | uint8 | int16 | uint16 =>
      refine iff_of_false (fun overflows => within rfl overflows.2.1) ?_
      rintro ⟨impossible | impossible, _⟩ <;> cases impossible
  | uint32 | uint64 =>
      refine iff_of_false (fun overflows => by cases overflows.1) ?_
      rintro ⟨impossible | impossible, _⟩ <;> cases impossible
  | int32 => exact ⟨fun overflows => ⟨.inl rfl, overflows.2⟩, fun overflows => ⟨rfl, overflows.2⟩⟩
  | int64 => exact ⟨fun overflows => ⟨.inr rfl, overflows.2⟩, fun overflows => ⟨rfl, overflows.2⟩⟩

theorem WrapsTo.inRange {type : DataType} {outcome : Outcome Value}
    (wraps : kind.WrapsTo type exact outcome) {value : Value} (gives : outcome = .ok value) :
    value.InRange type kind := by
  unfold WrapsTo at wraps
  rw [wraps] at gives
  cases gives
  exact ⟨_, kind.holds_wrap exact, rfl⟩

theorem Wraps.enumerated (type : DataType) (fits : kind.width ≤ wide.width)
    (wraps : wide.Wraps exact plain) :
    kind.WrapsTo type exact (plain.map (Value.asEnumeration type kind)) := by
  obtain ⟨result, gives, rfl, congruent⟩ := wraps
  have same : kind.wrap result.value = kind.wrap exact :=
    wrap_congr (congruent.of_dvd (pow_dvd_pow 2 fits))
  rw [gives]
  unfold WrapsTo
  rw [← same]
  rfl

theorem HasBits.enumerated (type : DataType) (fits : kind.width ≤ wide.width)
    {bits : BitVec wide.width} (hasBits : wide.HasBits bits plain) :
    kind.HasBitsTo type (bits.setWidth kind.width)
      (plain.map (Value.asEnumeration type kind)) := by
  obtain ⟨result, gives, rfl, isBits⟩ := hasBits
  refine ⟨kind.wrap result.value, kind.holds_wrap _, ?_, by rw [gives]; rfl⟩
  rw [Integer.ofInt_wrap, ← isBits, setWidth_ofInt fits]

theorem Divides.enumerated (type : DataType) {left right : Int} (holdsLeft : kind.Holds left)
    (divides : kind.widened.Divides left right exact plain) :
    kind.DividesTo type left right exact (plain.map (Value.asEnumeration type kind)) := by
  have tooLarge := divisionOverflows_widened holdsLeft right
  by_cases zero : right = 0
  · have noOverflow : ¬kind.QuotientOverflows left right := by
      rintro ⟨_, _, minusOne⟩
      omega
    rw [divides.divideByZero_iff.mpr zero]
    exact ⟨iff_of_true rfl zero, iff_of_false (by simp [Except.map]) noOverflow,
      fun nonzero => absurd zero nonzero⟩
  · by_cases overflows : kind.QuotientOverflows left right
    · rw [divides.overflow_iff.mpr (tooLarge.mpr overflows)]
      exact ⟨iff_of_false (by simp [Except.map]) zero, iff_of_true rfl overflows,
        fun _ fine => absurd overflows fine⟩
    · obtain ⟨result, gives, sameKind, isExact⟩ :=
        divides.gives zero fun impossible => overflows (tooLarge.mp impossible)
      rw [gives]
      refine ⟨iff_of_false (by simp [Except.map]) zero,
        iff_of_false (by simp [Except.map]) overflows, fun _ _ => ?_⟩
      unfold WrapsTo
      rw [← isExact]
      rfl

end IntegerKind

namespace BinaryOperator

def Enumerates (operator : BinaryOperator) (type : DataType) (own : IntegerKind)
    (left right : Int) (outcome : Outcome Value) : Prop :=
  match operator with
  | add => own.WrapsTo type (left + right) outcome
  | subtract => own.WrapsTo type (left - right) outcome
  | multiply => own.WrapsTo type (left * right) outcome
  | divide => own.DividesTo type left right (left.tdiv right) outcome
  | remainder => own.DividesTo type left right (left.tmod right) outcome
  | bitAnd => own.HasBitsTo type (BitVec.ofInt _ left &&& BitVec.ofInt _ right) outcome
  | bitOr => own.HasBitsTo type (BitVec.ofInt _ left ||| BitVec.ofInt _ right) outcome
  | bitXor => own.HasBitsTo type (BitVec.ofInt _ left ^^^ BitVec.ofInt _ right) outcome
  | equal => Tells (left = right) outcome
  | notEqual => Tells (left ≠ right) outcome
  | less => Tells (left < right) outcome
  | lessEqual => Tells (left ≤ right) outcome
  | greater => Tells (left > right) outcome
  | greaterEqual => Tells (left ≥ right) outcome
  | _ => False

variable {operator : BinaryOperator} {type : DataType} {own : IntegerKind} {left right : Int}
  {plain outcome : Outcome Value}

theorem enumerates_of_computes (type : DataType) (calculates : operator.isComparison = false)
    (holdsLeft : own.Holds left) (computes : operator.Computes own.widened left right plain) :
    operator.Enumerates type own left right (plain.map (Value.asEnumeration type own)) := by
  have fits := own.width_widened
  cases operator with
  | add | subtract | multiply => exact IntegerKind.Wraps.enumerated type fits computes
  | divide | remainder => exact IntegerKind.Divides.enumerated type holdsLeft computes
  | bitAnd =>
      have bits := IntegerKind.HasBits.enumerated type fits computes
      rwa [BitVec.setWidth_and, IntegerKind.setWidth_ofInt fits, IntegerKind.setWidth_ofInt fits]
        at bits
  | bitOr =>
      have bits := IntegerKind.HasBits.enumerated type fits computes
      rwa [BitVec.setWidth_or, IntegerKind.setWidth_ofInt fits, IntegerKind.setWidth_ofInt fits]
        at bits
  | bitXor =>
      have bits := IntegerKind.HasBits.enumerated type fits computes
      rwa [BitVec.setWidth_xor, IntegerKind.setWidth_ofInt fits, IntegerKind.setWidth_ofInt fits]
        at bits
  | equal | notEqual | less | lessEqual | greater | greaterEqual => cases calculates
  | shiftLeft | shiftRight | shiftRightZero | andAlso | orElse | coalesce => exact computes.elim

theorem enumerates_comparison (comparison : operator.isComparison = true)
    {kind : IntegerKind} (computes : operator.Computes kind left right outcome) :
    operator.Enumerates type own left right outcome := by
  cases operator with
  | equal | notEqual | less | lessEqual | greater | greaterEqual => exact computes
  | _ => cases comparison

theorem Computes.isInteger (calculates : operator.isComparison = false) {kind : IntegerKind}
    (computes : operator.Computes kind left right outcome) {value : Value}
    (gives : outcome = .ok value) : ∃ integer, value = .integer integer := by
  have ofDivision : ∀ {exact : Int}, kind.Divides left right exact outcome →
      ∃ integer, value = .integer integer := by
    intro exact divides
    have nonzero : right ≠ 0 := by
      intro zero
      rw [divides.divideByZero_iff.mpr zero] at gives
      cases gives
    have fits : ¬kind.DivisionOverflows left right := by
      intro overflows
      rw [divides.overflow_iff.mpr overflows] at gives
      cases gives
    obtain ⟨integer, found, _⟩ := divides.gives nonzero fits
    rw [found] at gives
    cases gives
    exact ⟨integer, rfl⟩
  cases operator with
  | add | subtract | multiply | bitAnd | bitOr | bitXor =>
      obtain ⟨integer, found, _⟩ := computes
      rw [found] at gives
      cases gives
      exact ⟨integer, rfl⟩
  | divide | remainder => exact ofDivision computes
  | equal | notEqual | less | lessEqual | greater | greaterEqual => cases calculates
  | shiftLeft | shiftRight | shiftRightZero | andAlso | orElse | coalesce => exact computes.elim

theorem Enumerates.inRange (calculates : operator.isComparison = false)
    (enumerates : operator.Enumerates type own left right outcome) {value : Value}
    (gives : outcome = .ok value) : value.InRange type own := by
  have ofDivision : ∀ {exact : Int}, own.DividesTo type left right exact outcome →
      value.InRange type own := by
    intro exact divides
    by_cases zero : right = 0
    · rw [divides.divideByZero_iff.mpr zero] at gives
      cases gives
    · by_cases overflows : own.QuotientOverflows left right
      · rw [divides.overflow_iff.mpr overflows] at gives
        cases gives
      · exact (divides.gives zero overflows).inRange gives
  cases operator with
  | add | subtract | multiply => exact IntegerKind.WrapsTo.inRange enumerates gives
  | divide | remainder => exact ofDivision enumerates
  | bitAnd | bitOr | bitXor =>
      obtain ⟨number, holds, _, found⟩ := enumerates
      rw [found] at gives
      cases gives
      exact ⟨number, holds, rfl⟩
  | equal | notEqual | less | lessEqual | greater | greaterEqual => cases calculates
  | shiftLeft | shiftRight | shiftRightZero | andAlso | orElse | coalesce => exact enumerates.elim

end BinaryOperator

namespace Catalog

variable {catalog : Catalog} {type : DataType} {own : IntegerKind}

theorem cast_enumerated (holds : catalog.HoldsPrimitives) (type source : DataType)
    (isValue : catalog.isReferenceType source = false) (number : Int) :
    catalog.cast (.enumerated type number) source (.ofScalar (.integer own)) =
      .ok (.integer (.wrap own number)) :=
  cast_toScalar holds rfl isValue rfl (Value.toKind_enumerated_integer type number own)

theorem cast_toEnumeration (isEnumeration : catalog.underlying? type = some (.integer own))
    {source : DataType} (isValue : catalog.isReferenceType source = false) (integer : Integer) :
    catalog.cast (.integer integer) source type =
      .ok (Value.asEnumeration type own (.integer integer)) := by
  have same := underlying_of_underlying? isEnumeration
  rw [cast_value rfl isValue (by rw [same]; exact isReferenceType_of_underlying? isEnumeration),
    same, isEnumeration]
  have denotes : (Value.integer integer).Denotes (.integer integer.kind) integer.value :=
    ⟨rfl, rfl⟩
  change catalog.castToEnumeration (.integer integer) type (.integer own) = _
  unfold castToEnumeration
  rw [Value.toKind_integer denotes own]
  rfl

end Catalog

namespace Term

def siteAsInteger (term : Term) (own : IntegerKind) (site : List Nat) : List Nat :=
  term.siteUnder (.ofScalar (.integer own))
    ((term.convertTo (.ofScalar (.integer own))).siteUnder (.ofScalar (.integer own.widened))
      site)

end Term

namespace Setting

/-- The value of a term at a place stands for a number of the kind: as a value of the enumeration
or as an integer, by what the type of the term is. -/
structure Counts (setting : Setting) (site : List Nat) (term : Term) (type : DataType)
    (own : IntegerKind) (number : Int) : Prop where
  holds : own.Holds number
  ofEnumeration : term.type = type →
    setting.evaluate site term = .ok (.enumerated type number)
  ofInteger : term.type = .ofScalar (.integer own) →
    setting.evaluate site term = .ok (.integer (.wrap own number))

variable {setting : Setting} {type : DataType} {own : IntegerKind}

theorem evaluate_asInteger (holds : setting.catalog.HoldsPrimitives)
    (isEnumeration : setting.catalog.underlying? type = some (.integer own)) {term : Term}
    (side : term.type = type ∨ term.type = .ofScalar (.integer own)) {site : List Nat}
    {number : Int} (counts : setting.Counts (term.siteAsInteger own site) term type own number) :
    setting.evaluate site (term.asInteger own) = .ok (.integer (.wrap own.widened number)) := by
  have plain : setting.evaluate
      ((term.convertTo (.ofScalar (.integer own))).siteUnder (.ofScalar (.integer own.widened))
        site) (term.convertTo (.ofScalar (.integer own))) = .ok (.integer (.wrap own number)) := by
    have place := counts.ofEnumeration
    have ofInteger := counts.ofInteger
    unfold Term.siteAsInteger at place ofInteger
    generalize (term.convertTo (.ofScalar (.integer own))).siteUnder
      (.ofScalar (.integer own.widened)) site = below at place ofInteger
    unfold Term.siteUnder at place ofInteger
    rcases side with ofType | ofKind
    · have different : term.type ≠ .ofScalar (.integer own) := by
        rw [ofType]
        exact Catalog.ne_ofScalar_of_underlying? holds isEnumeration _
      rw [if_neg different] at place
      unfold Term.convertTo
      rw [if_neg different]
      unfold evaluate
      rw [place ofType, ofType]
      exact Catalog.cast_enumerated holds type type
        (Catalog.isReferenceType_of_underlying? isEnumeration) number
    · rw [if_pos ofKind] at ofInteger
      rw [term.convertTo_self ofKind, ofInteger ofKind]
  exact evaluate_convertTo holds (term.type_convertTo _) plain
    (Value.denotes_wrap counts.holds)

theorem evaluate_recast (isEnumeration : setting.catalog.underlying? type = some (.integer own))
    {tree : Term} {scalar : Scalar} (treeType : tree.type = .ofScalar scalar) {site : List Nat}
    (integers : ∀ value, setting.evaluate (0 :: site) tree = .ok value →
      ∃ integer, value = .integer integer) :
    setting.evaluate site (.convert tree type) =
      (setting.evaluate (0 :: site) tree).map (Value.asEnumeration type own) := by
  conv_lhs => unfold evaluate
  cases result : setting.evaluate (0 :: site) tree with
  | error cause => rfl
  | ok value =>
      obtain ⟨integer, rfl⟩ := integers value result
      rw [treeType]
      exact Catalog.cast_toEnumeration isEnumeration (Catalog.isReferenceType_ofScalar scalar)
        integer

theorem computes_asInteger (holds : setting.catalog.HoldsPrimitives)
    (isEnumeration : setting.catalog.underlying? type = some (.integer own))
    {operator : BinaryOperator} (promotes : operator.promotes = true) {left right : Term}
    (meet : DataType.Meet type (.ofScalar (.integer own)) left.type right.type) {site : List Nat}
    {a b : Int} (countsLeft : setting.Counts (left.siteAsInteger own (0 :: site)) left type own a)
    (countsRight : setting.Counts (right.siteAsInteger own (1 :: site)) right type own b)
    (result : DataType) :
    operator.Computes own.widened a b (setting.evaluate site
      (.binary operator (left.asInteger own) (right.asInteger own) result)) := by
  have widens : ∀ {number : Int}, own.Holds number → own.widened.Holds number := fun inRange =>
    IntegerKind.holds_of_denotes own.covers_widened (Value.denotes_wrap inRange)
  rw [evaluate_binary promotes site _ _ result
    (evaluate_asInteger holds isEnumeration meet.left_or countsLeft)
    (evaluate_asInteger holds isEnumeration meet.right_or countsRight) rfl rfl]
  exact BinaryOperator.computes_wrapped promotes (widens countsLeft.holds)
    (widens countsRight.holds)

end Setting

namespace Scope

variable {scope : Scope} {type : DataType} {own : IntegerKind}

/-- A cast to the integers behind an enumeration and back gives the value it began with. -/
def RoundTrips (scope : Scope) (type : DataType) (own : IntegerKind) : Prop :=
  ∀ (there back : String) {expr : Expr} {operand : Term}, scope.term expr = .ok operand →
    operand.type = type → scope.typeNamed? there = some (.ofScalar (.integer own)) →
    scope.typeNamed? back = some type →
    ∃ tree, scope.term (.cast back (.cast there expr)) = .ok tree ∧ tree.type = type ∧
      ∀ (setting : Setting) (site : List Nat) (number : Int), setting.catalog = scope.catalog →
        own.Holds number →
        setting.evaluate (0 :: 0 :: site) operand = .ok (.enumerated type number) →
        setting.evaluate site tree = .ok (.enumerated type number)

def operatorSite (operator : BinaryOperator) (site : List Nat) : List Nat :=
  if operator.isComparison then site else 0 :: site

/-- Operators on values of an enumeration are those of the integers behind them. -/
structure ComputesEnumeration (scope : Scope) (type : DataType) (own : IntegerKind) : Prop where
  binary_computes : ∀ {operator : BinaryOperator} {left right : Expr} {first second : Term},
    operator.promotes = true → scope.term left = .ok first → scope.term right = .ok second →
    DataType.Meet type (.ofScalar (.integer own)) first.type second.type →
    ∃ tree, scope.term (.binary operator.token left right) = .ok tree ∧
      tree.type = (if operator.isComparison then .boolean else type) ∧
      ∀ (setting : Setting) (site : List Nat) (a b : Int), setting.catalog = scope.catalog →
        setting.Counts (first.siteAsInteger own (0 :: operatorSite operator site)) first type own
          a →
        setting.Counts (second.siteAsInteger own (1 :: operatorSite operator site)) second type
          own b →
        operator.Enumerates type own a b (setting.evaluate site tree) ∧
          (operator.isComparison = false → ∀ result,
            setting.evaluate site tree = .ok result → result.InRange type own)
  binary_refused : ∀ {operator : BinaryOperator} {left right : Expr} {first second : Term},
    operator.promotes = true → scope.term left = .ok first → scope.term right = .ok second →
    first.type = type ∨ second.type = type →
    ¬DataType.Meet type (.ofScalar (.integer own)) first.type second.type →
    (first.type.isString || second.type.isString) = false →
    scope.term (.binary operator.token left right) =
      .error (.binaryOperator operator.token (scope.catalog.qualifiedName first.type)
        (scope.catalog.qualifiedName second.type))
  complement_computes : ∀ {token : String} {expr : Expr} {operand : Term},
    scope.term expr = .ok operand → operand.type = type →
    ∃ tree, scope.term (.unary .complement token expr) = .ok tree ∧ tree.type = type ∧
      ∀ (setting : Setting) (site : List Nat) (a : Int), setting.catalog = scope.catalog →
        setting.Counts (operand.siteAsInteger own (0 :: 0 :: site)) operand type own a →
        own.WrapsTo type (-a - 1) (setting.evaluate site tree) ∧
          ∀ result, setting.evaluate site tree = .ok result → result.InRange type own
  roundTrips : scope.catalog.implicitOperator? type (.ofScalar (.integer own)) = none →
    scope.catalog.implicitOperator? (.ofScalar (.integer own)) type = none →
    scope.RoundTrips type own

theorem binary_computes (holds : scope.catalog.HoldsPrimitives)
    (isEnumeration : scope.catalog.underlying? type = some (.integer own))
    {operator : BinaryOperator} {left right : Expr} {first second : Term}
    (promotes : operator.promotes = true) (builtLeft : scope.term left = .ok first)
    (builtRight : scope.term right = .ok second)
    (meet : DataType.Meet type (.ofScalar (.integer own)) first.type second.type) :
    ∃ tree, scope.term (.binary operator.token left right) = .ok tree ∧
      tree.type = (if operator.isComparison then .boolean else type) ∧
      ∀ (setting : Setting) (site : List Nat) (a b : Int), setting.catalog = scope.catalog →
        setting.Counts (first.siteAsInteger own (0 :: operatorSite operator site)) first type own
          a →
        setting.Counts (second.siteAsInteger own (1 :: operatorSite operator site)) second type
          own b →
        operator.Enumerates type own a b (setting.evaluate site tree) ∧
          (operator.isComparison = false → ∀ result,
            setting.evaluate site tree = .ok result → result.InRange type own) := by
  have built := (term_binary operator builtLeft builtRight).trans
    (Catalog.binaryTerm_enumeration holds isEnumeration promotes meet)
  unfold operatorSite
  cases comparison : operator.isComparison with
  | true =>
      rw [comparison, if_pos rfl] at built
      refine ⟨_, built, rfl, ?_⟩
      intro setting site a b sameCatalog countsLeft countsRight
      rw [← sameCatalog] at holds isEnumeration
      rw [if_pos rfl] at countsLeft countsRight
      have computes := Setting.computes_asInteger holds isEnumeration promotes meet countsLeft
        countsRight .boolean
      exact ⟨BinaryOperator.enumerates_comparison comparison computes, fun impossible => by
        cases impossible⟩
  | false =>
      rw [comparison, if_neg Bool.false_ne_true] at built
      refine ⟨_, built, rfl, ?_⟩
      intro setting site a b sameCatalog countsLeft countsRight
      rw [← sameCatalog] at holds isEnumeration
      rw [if_neg Bool.false_ne_true] at countsLeft countsRight
      have computes := Setting.computes_asInteger holds isEnumeration promotes meet countsLeft
        countsRight (.ofScalar (.integer own.widened))
      rw [Setting.evaluate_recast isEnumeration rfl fun value gives =>
        computes.isInteger comparison gives]
      have enumerates := BinaryOperator.enumerates_of_computes type comparison countsLeft.holds
        computes
      exact ⟨enumerates, fun _ result gives => enumerates.inRange comparison gives⟩

theorem complement_computes (holds : scope.catalog.HoldsPrimitives)
    (isEnumeration : scope.catalog.underlying? type = some (.integer own)) {token : String}
    {expr : Expr} {operand : Term} (built : scope.term expr = .ok operand)
    (operandType : operand.type = type) :
    ∃ tree, scope.term (.unary .complement token expr) = .ok tree ∧ tree.type = type ∧
      ∀ (setting : Setting) (site : List Nat) (a : Int), setting.catalog = scope.catalog →
        setting.Counts (operand.siteAsInteger own (0 :: 0 :: site)) operand type own a →
        own.WrapsTo type (-a - 1) (setting.evaluate site tree) ∧
          ∀ result, setting.evaluate site tree = .ok result → result.InRange type own := by
  refine ⟨_, (term_unary .complement token built).trans
    (Catalog.unaryTerm_complement isEnumeration token operandType), rfl, ?_⟩
  intro setting site a sameCatalog counts
  rw [← sameCatalog] at holds isEnumeration
  have evaluated := Setting.evaluate_asInteger holds isEnumeration (.inl operandType) counts
  have wraps : own.widened.Wraps (-a - 1) (setting.evaluate (0 :: site)
      (.unary .complement (operand.asInteger own) (.ofScalar (.integer own.widened)))) := by
    have widened : own.widened.wrap a = a := IntegerKind.wrap_of_holds
      (IntegerKind.holds_of_denotes own.covers_widened (Value.denotes_wrap counts.holds))
    have result := UnaryOperator.complement.wraps_apply (.wrap own.widened a)
    rw [Setting.evaluate_unary .complement (0 :: site) _ _ evaluated rfl]
    change own.widened.Wraps (-own.widened.wrap a - 1) _ at result
    rwa [widened] at result
  have recast : own.WrapsTo type (-a - 1) (setting.evaluate site
      (.convert (.unary .complement (operand.asInteger own) (.ofScalar (.integer own.widened)))
        type)) := by
    rw [Setting.evaluate_recast isEnumeration rfl fun value gives => by
      obtain ⟨integer, found, _⟩ := wraps
      rw [found] at gives
      cases gives
      exact ⟨integer, rfl⟩]
    exact wraps.enumerated type own.width_widened
  exact ⟨recast, fun result gives => recast.inRange gives⟩

theorem roundTrips (holds : scope.catalog.HoldsPrimitives)
    (isEnumeration : scope.catalog.underlying? type = some (.integer own))
    (noneThere : scope.catalog.implicitOperator? type (.ofScalar (.integer own)) = none)
    (noneBack : scope.catalog.implicitOperator? (.ofScalar (.integer own)) type = none) :
    scope.RoundTrips type own := by
  intro there back expr operand built operandType namedThere namedBack
  have different := Catalog.ne_ofScalar_of_underlying? holds isEnumeration (.integer own)
  have typeNumber : scope.catalog.isNumberLike type.underlying = true := by
    rw [Catalog.underlying_of_underlying? isEnumeration]
    exact Catalog.isNumberLike_of_underlying? isEnumeration
  have kindNumber : scope.catalog.isNumberLike
      (DataType.ofScalar (.integer own)).underlying = true :=
    Catalog.isNumberLike_ofScalar rfl
  have noReference := Catalog.isReferenceType_of_underlying? isEnumeration
  have outward := Catalog.castTerm_ofEnumeration holds isEnumeration rfl noneThere there
    operandType
  have homeward := Catalog.castTerm_convert different.symm (Catalog.isReferenceType_ofScalar _)
    (Catalog.acceptsNull_of_underlying? isEnumeration) kindNumber typeNumber noneBack back
    (show (Term.convert operand (.ofScalar (.integer own))).type = _ from rfl)
  refine ⟨.convert (.convert operand (.ofScalar (.integer own))) type, ?_, rfl, ?_⟩
  · exact (term_cast ((term_cast built namedThere).trans outward) namedBack).trans homeward
  · intro setting site number sameCatalog inRange evaluated
    rw [← sameCatalog] at holds isEnumeration noReference
    have middle : setting.evaluate (0 :: site) (.convert operand (.ofScalar (.integer own))) =
        .ok (.integer (.wrap own number)) := by
      unfold Setting.evaluate
      rw [evaluated, operandType]
      exact Catalog.cast_enumerated holds type type noReference number
    rw [Setting.evaluate_recast isEnumeration rfl fun value gives => by
      rw [middle] at gives
      cases gives
      exact ⟨_, rfl⟩, middle]
    change Except.ok (Value.enumerated type (own.wrap (own.wrap number))) = _
    rw [IntegerKind.wrap_of_holds inRange, IntegerKind.wrap_of_holds inRange]

theorem computesEnumeration (scope : Scope) (holds : scope.catalog.HoldsPrimitives)
    {type : DataType} {own : IntegerKind}
    (isEnumeration : scope.catalog.underlying? type = some (.integer own)) :
    scope.ComputesEnumeration type own where
  binary_computes := binary_computes holds isEnumeration
  binary_refused {operator left right first second} promotes builtLeft builtRight among foreign
      notText := by
    rw [term_binary operator builtLeft builtRight]
    exact Catalog.binaryTerm_foreign holds isEnumeration promotes among foreign notText
  complement_computes := complement_computes holds isEnumeration
  roundTrips := roundTrips holds isEnumeration

def onLevels (kind : IntegerKind) (methods : List Method) : Scope :=
  let level : TypeEntry := TypeEntry.addMethods
    { id := ⟨1⟩, name := "Level", namespaceName := "App", kind := .enumType (.integer kind),
      base := some .object } methods
  ⟨⟨Catalog.primitives.entries ++ [level]⟩, [⟨"level", .plain ⟨1⟩, false⟩], none⟩

theorem computesEnumeration_narrow :
    (onLevels .uint8 []).ComputesEnumeration (.plain ⟨1⟩) .uint8 ∧
      ∃ tree : Term, (onLevels .uint8 []).term
          (.binary "*" (.literal (.enumerated (.plain ⟨1⟩) 200))
            (.literal (.integer (.wrap .uint8 2)))) = .ok tree ∧
        tree.type = .plain ⟨1⟩ ∧
        Setting.evaluate { catalog := (onLevels .uint8 []).catalog } [] tree =
          .ok (.enumerated (.plain ⟨1⟩) 144) := by
  have holds : (onLevels .uint8 []).catalog.HoldsPrimitives := by
    unfold Catalog.HoldsPrimitives
    decide +kernel
  have isEnumeration : (onLevels .uint8 []).catalog.underlying? (.plain ⟨1⟩) =
      some (.integer .uint8) := by decide +kernel
  have computes := computesEnumeration (onLevels .uint8 []) holds isEnumeration
  refine ⟨computes, ?_⟩
  obtain ⟨tree, built, type, result⟩ := computes.binary_computes
    (show BinaryOperator.multiply.promotes = true from rfl)
    (show (onLevels .uint8 []).term (.literal (.enumerated (.plain ⟨1⟩) 200)) =
      .ok (.ofValue (.enumerated (.plain ⟨1⟩) 200)) by unfold Scope.term; rfl)
    (show (onLevels .uint8 []).term (.literal (.integer (.wrap .uint8 2))) =
      .ok (.ofValue (.integer (.wrap .uint8 2))) by unfold Scope.term; rfl)
    (.inl ⟨rfl, .inr rfl⟩)
  refine ⟨tree, built, type, ?_⟩
  let setting : Setting := { catalog := (onLevels .uint8 []).catalog }
  have first : ∀ site, setting.Counts site (.ofValue (.enumerated (.plain ⟨1⟩) 200)) (.plain ⟨1⟩)
      .uint8 200 := by
    refine fun site => ⟨by decide, fun _ => ?_, fun impossible => by cases impossible⟩
    unfold Term.ofValue Setting.evaluate
    rfl
  have second : ∀ site, setting.Counts site (.ofValue (.integer (.wrap .uint8 2))) (.plain ⟨1⟩)
      .uint8 2 := by
    refine fun site => ⟨by decide, fun impossible => (by cases impossible), fun _ => ?_⟩
    unfold Term.ofValue Setting.evaluate
    rfl
  exact (result setting [] 200 2 rfl (first _) (second _)).1

def towardsFive : Method :=
  .onType Catalog.implicitName [.of "level" (.plain ⟨1⟩)] (.ofScalar (.integer .int32))
    (.constant (.int32 5))

/-- A cast uses the conversion that an enumeration declares, whatever that gives. -/
theorem not_roundTrips :
    (onLevels .int32 [towardsFive]).catalog.HoldsPrimitives ∧
      (onLevels .int32 [towardsFive]).catalog.underlying? (.plain ⟨1⟩) = some (.integer .int32) ∧
      ¬(onLevels .int32 [towardsFive]).RoundTrips (.plain ⟨1⟩) .int32 := by
  refine ⟨by unfold Catalog.HoldsPrimitives; decide +kernel, by decide +kernel, fun trips => ?_⟩
  have built : (onLevels .int32 [towardsFive]).term (.literal (.enumerated (.plain ⟨1⟩) 8)) =
      .ok (.ofValue (.enumerated (.plain ⟨1⟩) 8)) := by
    unfold Scope.term
    rfl
  obtain ⟨tree, cast, _, returns⟩ := trips "int" "Level" built rfl (by decide +kernel)
    (by decide +kernel)
  have eight := returns { catalog := (onLevels .int32 [towardsFive]).catalog } [] 8 rfl (by decide)
    (by unfold Term.ofValue Setting.evaluate; rfl)
  have actual : (do
      let tree ← ((onLevels .int32 [towardsFive]).term (.cast "Level" (.cast "int"
        (.literal (.enumerated (.plain ⟨1⟩) 8))))).toOption
      let value ← (Setting.evaluate { catalog := (onLevels .int32 [towardsFive]).catalog } []
        tree).toOption
      value.toInt?) = some 5 := by decide +kernel
  rw [cast] at actual
  simp only [Except.toOption, Option.bind_eq_bind, Option.bind_some, eight] at actual
  exact absurd actual (by decide)

end Scope

end Formula
