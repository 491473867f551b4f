import Formula.Proofs.Evaluation.Integers
import Formula.Proofs.Typing.Roots

/-!
Expressions that apply an operator to integers or characters, from the builder to the value.
Operands are evaluated where they stand in the tree, below the conversions to the kind in which
the operator works.
-/

namespace Formula

namespace Term

/-- An integer literal, or what the builder makes of one without converting it. -/
def IsLiteral (term : Term) (kind : IntegerKind) (number : Int) : Prop :=
  ∃ integer : Integer, integer.kind = kind ∧ integer.value = number ∧
    term = .ofValue (.integer integer)

end Term

/-- An operator on integers of a kind computes with the numbers that they are. -/
theorem BinaryOperator.computes_wrapped {operator : BinaryOperator}
    (promotes : operator.promotes = true) {kind : IntegerKind} {a b : Int}
    (holdsLeft : kind.Holds a) (holdsRight : kind.Holds b) :
    operator.Computes kind a b
      (operator.apply (.integer (.wrap kind a)) (.integer (.wrap kind b))) := by
  have sameKind : (Integer.wrap kind b).kind = (Integer.wrap kind a).kind := rfl
  have computes := computes_onIntegers promotes sameKind
  change operator.Computes kind (kind.wrap a) (kind.wrap b) _ at computes
  rw [IntegerKind.wrap_of_holds holdsLeft, IntegerKind.wrap_of_holds holdsRight] at computes
  rw [apply_integers promotes sameKind.symm]
  exact computes

namespace Setting

def Denotes (setting : Setting) (site : List Nat) (term : Term) (kind : Scalar) (number : Int) :
    Prop :=
  ∃ value, setting.evaluate site term = .ok value ∧ value.Denotes kind number

theorem Denotes.of_literal {setting : Setting} {site : List Nat} {term : Term}
    {kind : IntegerKind} {literal number : Int}
    (denotes : setting.Denotes site term (.integer kind) number)
    (isLiteral : term.IsLiteral kind literal) : number = literal := by
  obtain ⟨integer, _, sameValue, rfl⟩ := isLiteral
  obtain ⟨value, evaluated, isNumber⟩ := denotes
  unfold Term.ofValue evaluate at evaluated
  cases evaluated
  have isInt := isNumber.toInt_eq
  unfold Value.toInt? at isInt
  injection isInt with same
  rw [← same, sameValue]

theorem computes_converted {setting : Setting} (holds : setting.catalog.HoldsPrimitives)
    {operator : BinaryOperator} (promotes : operator.promotes = true) {first second : Term}
    {leftKind rightKind : Scalar} {kind : IntegerKind} (firstType : first.type = .ofScalar leftKind)
    (secondType : second.type = .ofScalar rightKind) (coversLeft : kind.covers leftKind = true)
    (coversRight : kind.covers rightKind = true) {site : List Nat} {a b : Int}
    (leftDenotes : setting.Denotes (first.siteUnder (.ofScalar (.integer kind)) (0 :: site)) first
      leftKind a)
    (rightDenotes : setting.Denotes (second.siteUnder (.ofScalar (.integer kind)) (1 :: site))
      second rightKind b) (type : DataType) :
    operator.Computes kind a b
      (setting.evaluate site (.binary operator (first.convertTo (.ofScalar (.integer kind)))
        (second.convertTo (.ofScalar (.integer kind))) type)) := by
  obtain ⟨firstValue, evaluatedFirst, isFirst⟩ := leftDenotes
  obtain ⟨secondValue, evaluatedSecond, isSecond⟩ := rightDenotes
  rw [evaluate_binary promotes site _ _ type
    (evaluate_convertTo holds firstType evaluatedFirst isFirst)
    (evaluate_convertTo holds secondType evaluatedSecond isSecond) rfl rfl]
  exact BinaryOperator.computes_wrapped promotes (IntegerKind.holds_of_denotes coversLeft isFirst)
    (IntegerKind.holds_of_denotes coversRight isSecond)

end Setting

namespace UnaryOperator

def exact (operator : UnaryOperator) (operand : Int) : Int :=
  match operator with
  | negate => -operand
  | plus => operand
  | not | complement => -operand - 1

theorem wraps_apply (operator : UnaryOperator) (operand : Integer) :
    operand.kind.Wraps (operator.exact operand.value) (operator.apply (.integer operand)) := by
  cases operator with
  | negate => exact ⟨_, rfl, rfl, operand.kind.wrap_modEq _⟩
  | plus => exact ⟨operand, rfl, rfl, Int.ModEq.refl _⟩
  | not => exact ⟨_, rfl, rfl, operand.kind.wrap_modEq _⟩
  | complement => exact ⟨_, rfl, rfl, operand.kind.wrap_modEq _⟩

end UnaryOperator

namespace Catalog

/-- Only two literals are negated before they are a number at all. -/
theorem negatedLiteral?_eq_some {operand literal : Term} {kind : IntegerKind}
    (faithful : operand.Faithful) (operandType : operand.type = .ofScalar (.integer kind))
    (negated : negatedLiteral? operand = some literal) :
    ∃ signed : IntegerKind,
      (kind = .uint32 ∧ signed = .int32 ∨ kind = .uint64 ∧ signed = .int64) ∧
        operand.IsLiteral kind (-signed.least) ∧
        literal = .ofValue (.integer (.least signed)) := by
  unfold negatedLiteral? at negated
  split at negated
  · rename_i integer type
    have ofInteger : type = (Value.integer integer).type := by
      rcases faithful _ _ rfl with impossible | same
      · cases impossible
      · exact same
    subst ofInteger
    have sameKind : integer.kind = kind := by
      have kinds : Scalar.integer integer.kind = .integer kind :=
        DataType.ofScalar_injective operandType
      injection kinds
    split at negated
    · rename_i isLeast
      cases negated
      exact ⟨.int32, .inl ⟨sameKind ▸ isLeast.1, rfl⟩, ⟨integer, sameKind, isLeast.2, rfl⟩, rfl⟩
    · split at negated
      · rename_i isLeast
        cases negated
        exact ⟨.int64, .inr ⟨sameKind ▸ isLeast.1, rfl⟩, ⟨integer, sameKind, isLeast.2, rfl⟩,
          rfl⟩
      · cases negated
  · cases negated

theorem negatedLiteral?_least {operand : Term}
    (literal : operand.IsLiteral .uint64 (-IntegerKind.int64.least)) :
    negatedLiteral? operand = some (.ofValue (.integer (.least .int64))) := by
  obtain ⟨integer, sameKind, sameValue, rfl⟩ := literal
  unfold negatedLiteral? Term.ofValue
  dsimp only
  rw [if_neg (by rw [sameKind]; simp), if_pos ⟨sameKind, sameValue⟩]

end Catalog

namespace Scope

/-- The expression builds a tree whose type is an integer kind or the characters. -/
structure Operand (scope : Scope) (expr : Expr) (term : Term) (kind : Scalar) : Prop where
  built : scope.term expr = .ok term
  type_eq : term.type = .ofScalar kind
  integral : kind.isIntegral = true

/-- Operators on integers compute with the integers that their operands stand for. -/
structure ComputesIntegers (scope : Scope) : Prop where
  binary_refused_iff : ∀ {operator : BinaryOperator} {left right : Expr} {first second : Term}
    {leftKind rightKind : Scalar}, operator.promotes = true →
    scope.Operand left first leftKind → scope.Operand right second rightKind →
    (scope.term (.binary operator.token left right) =
      .error (.binaryOperator operator.token (scope.catalog.qualifiedName first.type)
        (scope.catalog.qualifiedName second.type)) ↔ leftKind.Clash rightKind)
  binary_computes : ∀ {operator : BinaryOperator} {left right : Expr} {first second : Term}
    {leftKind rightKind : Scalar}, operator.promotes = true →
    scope.Operand left first leftKind → scope.Operand right second rightKind →
    ¬leftKind.Clash rightKind →
    ∃ (kind : IntegerKind) (tree : Term),
      leftKind.promoted? rightKind = some (.integer kind) ∧
      IntegerKind.meeting? leftKind rightKind = some kind ∧
      scope.term (.binary operator.token left right) = .ok tree ∧
      tree.type = operator.integerResult kind ∧
      ∀ (setting : Setting) (site : List Nat) (a b : Int), setting.catalog = scope.catalog →
        setting.Denotes (first.siteUnder (.ofScalar (.integer kind)) (0 :: site)) first
          leftKind a →
        setting.Denotes (second.siteUnder (.ofScalar (.integer kind)) (1 :: site)) second
          rightKind b →
        operator.Computes kind a b (setting.evaluate site tree)
  negate_refused_iff : ∀ {token : String} {expr : Expr} {operand : Term},
    scope.Operand expr operand (.integer .uint64) →
    (scope.term (.unary .negate token expr) =
      .error (.unaryOperator token (scope.catalog.qualifiedName operand.type)) ↔
        ¬operand.IsLiteral .uint64 (2 ^ 63))
  negate_least : ∀ {token : String} {expr : Expr} {operand : Term},
    scope.Operand expr operand (.integer .uint64) → operand.IsLiteral .uint64 (2 ^ 63) →
    ∃ tree, scope.term (.unary .negate token expr) = .ok tree ∧
      tree.type = .ofScalar (.integer .int64) ∧
      ∀ (setting : Setting) (site : List Nat),
        IntegerKind.int64.Gives (-2 ^ 63) (setting.evaluate site tree)
  negate_exact : ∀ {token : String} {expr : Expr} {operand : Term},
    scope.Operand expr operand (.integer .uint32) →
    ∃ (kind : IntegerKind) (tree : Term),
      scope.term (.unary .negate token expr) = .ok tree ∧
      tree.type = .ofScalar (.integer kind) ∧
      ∀ (setting : Setting) (site : List Nat) (a : Int), setting.catalog = scope.catalog →
        setting.Denotes (operand.siteUnder (.ofScalar (.integer .int64)) (0 :: site)) operand
          (.integer .uint32) a →
        kind.Gives (-a) (setting.evaluate site tree)
  unary_computes : ∀ {operator : UnaryOperator} {token : String} {expr : Expr} {operand : Term}
    {kind : IntegerKind}, scope.Operand expr operand (.integer kind) →
    ¬(operator = .negate ∧ (kind = .uint32 ∨ kind = .uint64)) →
    ∃ tree, scope.term (.unary operator token expr) = .ok tree ∧
      tree.type = .ofScalar (.integer (if kind.isSmall then .int32 else kind)) ∧
      ∀ (setting : Setting) (site : List Nat) (a : Int), setting.catalog = scope.catalog →
        setting.Denotes (operand.siteUnder
          (.ofScalar (.integer (if kind.isSmall then .int32 else kind))) (0 :: site)) operand
          (.integer kind) a →
        (if kind.isSmall then IntegerKind.int32 else kind).Wraps (operator.exact a)
          (setting.evaluate site tree)

variable {scope : Scope}

theorem term_binary {left right : Expr} {first second : Term} (operator : BinaryOperator)
    (builtLeft : scope.term left = .ok first) (builtRight : scope.term right = .ok second) :
    scope.term (.binary operator.token left right) =
      scope.catalog.binaryTerm operator first second := by
  unfold Scope.term
  rw [builtLeft, builtRight, BinaryOperator.ofToken?_token]
  rfl

theorem term_unary {expr : Expr} {operand : Term} (operator : UnaryOperator) (token : String)
    (built : scope.term expr = .ok operand) :
    scope.term (.unary operator token expr) =
      scope.catalog.unaryTerm operator token operand := by
  unfold Scope.term
  rw [built]
  rfl

theorem term_cast {expr : Expr} {operand : Term} {name : String} {target : DataType}
    (built : scope.term expr = .ok operand) (named : scope.typeNamed? name = some target) :
    scope.term (.cast name expr) = scope.catalog.castTerm name target operand := by
  conv_lhs => unfold Scope.term
  rw [built, named]
  rfl

/-- What the builder makes of a promoting operator, by the kind where its operands meet. -/
theorem Operand.term_binary (holds : scope.catalog.HoldsPrimitives) {operator : BinaryOperator}
    (promotes : operator.promotes = true) {left right : Expr} {first second : Term}
    {leftKind rightKind : Scalar} (leftOperand : scope.Operand left first leftKind)
    (rightOperand : scope.Operand right second rightKind) :
    scope.term (.binary operator.token left right) =
      match IntegerKind.meeting? leftKind rightKind with
      | some kind =>
          .ok (.binary operator (first.convertTo (.ofScalar (.integer kind)))
            (second.convertTo (.ofScalar (.integer kind))) (operator.integerResult kind))
      | none =>
          .error (.binaryOperator operator.token (scope.catalog.qualifiedName first.type)
            (scope.catalog.qualifiedName second.type)) := by
  rw [Scope.term_binary operator leftOperand.built rightOperand.built]
  exact Catalog.binaryTerm_integral holds promotes leftOperand.type_eq rightOperand.type_eq
    leftOperand.integral rightOperand.integral

theorem Operand.convertTo_eval {setting : Setting} (holds : setting.catalog.HoldsPrimitives)
    {expr : Expr} {term : Term} {operand : Scalar} {kind : IntegerKind} {site : List Nat}
    {number : Int} (isOperand : scope.Operand expr term operand)
    (denotes : setting.Denotes (term.siteUnder (.ofScalar (.integer kind)) site) term operand
      number) :
    setting.evaluate site (term.convertTo (.ofScalar (.integer kind))) =
      .ok (.integer (.wrap kind number)) := by
  obtain ⟨value, evaluated, isNumber⟩ := denotes
  exact Setting.evaluate_convertTo holds isOperand.type_eq evaluated isNumber

theorem Operand.binary_computes {setting : Setting} (holds : setting.catalog.HoldsPrimitives)
    {operator : BinaryOperator} (promotes : operator.promotes = true) {left right : Expr}
    {first second : Term} {leftKind rightKind : Scalar} {kind : IntegerKind}
    (leftOperand : scope.Operand left first leftKind)
    (rightOperand : scope.Operand right second rightKind)
    (met : IntegerKind.meeting? leftKind rightKind = some kind) {site : List Nat} {a b : Int}
    (leftDenotes : setting.Denotes (first.siteUnder (.ofScalar (.integer kind)) (0 :: site)) first
      leftKind a)
    (rightDenotes : setting.Denotes (second.siteUnder (.ofScalar (.integer kind)) (1 :: site))
      second rightKind b) (type : DataType) :
    operator.Computes kind a b
      (setting.evaluate site (.binary operator (first.convertTo (.ofScalar (.integer kind)))
        (second.convertTo (.ofScalar (.integer kind))) type)) :=
  have covers := IntegerKind.meeting?_covers met
  Setting.computes_converted holds promotes leftOperand.type_eq rightOperand.type_eq covers.1
    covers.2 leftDenotes rightDenotes type

theorem Operand.unary_wraps {setting : Setting} (holds : setting.catalog.HoldsPrimitives)
    {expr : Expr} {term : Term} {operand : Scalar} {kind : IntegerKind} {site : List Nat}
    {number : Int} (isOperand : scope.Operand expr term operand)
    (covers : kind.covers operand = true) (operator : UnaryOperator) (type : DataType)
    (denotes : setting.Denotes (term.siteUnder (.ofScalar (.integer kind)) (0 :: site)) term
      operand number) :
    kind.Wraps (operator.exact number)
      (setting.evaluate site
        (.unary operator (term.convertTo (.ofScalar (.integer kind))) type)) := by
  have evaluated := isOperand.convertTo_eval holds denotes
  obtain ⟨value, _, isNumber⟩ := denotes
  have same : kind.wrap number = number :=
    IntegerKind.wrap_of_holds (IntegerKind.holds_of_denotes covers isNumber)
  rw [Setting.evaluate_unary operator site _ type evaluated rfl]
  have wraps := operator.wraps_apply (.wrap kind number)
  change kind.Wraps (operator.exact (kind.wrap number)) _ at wraps
  rwa [same] at wraps

theorem negate_uint64 (holds : scope.catalog.HoldsPrimitives) {token : String} {expr : Expr}
    {operand : Term} (isOperand : scope.Operand expr operand (.integer .uint64)) :
    operand.IsLiteral .uint64 (2 ^ 63) ∧
        scope.term (.unary .negate token expr) =
          .ok (.ofValue (.integer (.least .int64))) ∨
      ¬operand.IsLiteral .uint64 (2 ^ 63) ∧
        scope.term (.unary .negate token expr) =
          .error (.unaryOperator token (scope.catalog.qualifiedName operand.type)) := by
  rw [term_unary .negate token isOperand.built]
  by_cases literal : operand.IsLiteral .uint64 (2 ^ 63)
  · refine .inl ⟨literal, ?_⟩
    exact Catalog.unaryTerm_literal holds isOperand.type_eq
      (Catalog.negatedLiteral?_least literal)
  · refine .inr ⟨literal, ?_⟩
    have noLiteral : Catalog.negatedLiteral? operand = none := by
      cases negated : Catalog.negatedLiteral? operand with
      | none => rfl
      | some constant =>
          have faithful := (term_root expr isOperand.built).faithful
          obtain ⟨signed, kinds, isLiteral, _⟩ :=
            Catalog.negatedLiteral?_eq_some faithful isOperand.type_eq negated
          rcases kinds with ⟨impossible, _⟩ | ⟨_, rfl⟩
          · cases impossible
          · exact absurd isLiteral literal
    rw [Catalog.unaryTerm_integer holds .negate token isOperand.type_eq fun _ => noLiteral]
    rfl

theorem negate_uint32 (holds : scope.catalog.HoldsPrimitives) {token : String} {expr : Expr}
    {operand : Term} (isOperand : scope.Operand expr operand (.integer .uint32)) :
    operand.IsLiteral .uint32 (2 ^ 31) ∧
        scope.term (.unary .negate token expr) =
          .ok (.ofValue (.integer (.least .int32))) ∨
      scope.term (.unary .negate token expr) =
        .ok (.unary .negate (operand.convertTo (.ofScalar (.integer .int64)))
          (.ofScalar (.integer .int64))) := by
  rw [term_unary .negate token isOperand.built]
  cases negated : Catalog.negatedLiteral? operand with
  | none =>
      refine .inr ?_
      rw [Catalog.unaryTerm_integer holds .negate token isOperand.type_eq fun _ => negated]
      rfl
  | some constant =>
      have faithful := (term_root expr isOperand.built).faithful
      obtain ⟨signed, kinds, isLiteral, isConstant⟩ :=
        Catalog.negatedLiteral?_eq_some faithful isOperand.type_eq negated
      rcases kinds with ⟨_, rfl⟩ | ⟨impossible, _⟩
      · refine .inl ⟨isLiteral, ?_⟩
        rw [← isConstant]
        exact Catalog.unaryTerm_literal holds isOperand.type_eq negated
      · cases impossible

theorem negate_exact (holds : scope.catalog.HoldsPrimitives) {token : String} {expr : Expr}
    {operand : Term} (isOperand : scope.Operand expr operand (.integer .uint32)) :
    ∃ (kind : IntegerKind) (tree : Term),
      scope.term (.unary .negate token expr) = .ok tree ∧
      tree.type = .ofScalar (.integer kind) ∧
      ∀ (setting : Setting) (site : List Nat) (a : Int), setting.catalog = scope.catalog →
        setting.Denotes (operand.siteUnder (.ofScalar (.integer .int64)) (0 :: site)) operand
          (.integer .uint32) a →
        kind.Gives (-a) (setting.evaluate site tree) := by
  rcases negate_uint32 holds isOperand with ⟨literal, built⟩ | built
  · refine ⟨.int32, _, built, rfl, ?_⟩
    intro setting site a _ denotes
    rw [denotes.of_literal literal]
    exact ⟨.least .int32, rfl, rfl, by decide⟩
  · refine ⟨.int64, _, built, rfl, ?_⟩
    intro setting site a sameCatalog denotes
    rw [← sameCatalog] at holds
    have wraps := isOperand.unary_wraps holds (by decide) .negate
      (.ofScalar (.integer .int64)) denotes
    obtain ⟨value, _, isNumber⟩ := denotes
    have small : IntegerKind.uint32.Holds a :=
      IntegerKind.holds_of_denotes (by decide) isNumber
    have fits : IntegerKind.int64.Holds (-a) := by
      have bounds := small
      unfold IntegerKind.Holds at bounds ⊢
      have least : IntegerKind.uint32.least = 0 := by decide
      have greatest : IntegerKind.uint32.greatest = 4294967295 := by decide
      have lower : IntegerKind.int64.least = -9223372036854775808 := by decide
      have upper : IntegerKind.int64.greatest = 9223372036854775807 := by decide
      omega
    obtain ⟨result, gives, sameKind, congruent⟩ := wraps
    refine ⟨result, gives, sameKind, ?_⟩
    exact IntegerKind.eq_of_modEq (sameKind ▸ result.holds) fits congruent

theorem unary_computes (holds : scope.catalog.HoldsPrimitives) {operator : UnaryOperator}
    {token : String} {expr : Expr} {operand : Term} {kind : IntegerKind}
    (isOperand : scope.Operand expr operand (.integer kind))
    (ordinary : ¬(operator = .negate ∧ (kind = .uint32 ∨ kind = .uint64))) :
    ∃ tree, scope.term (.unary operator token expr) = .ok tree ∧
      tree.type = .ofScalar (.integer (if kind.isSmall then .int32 else kind)) ∧
      ∀ (setting : Setting) (site : List Nat) (a : Int), setting.catalog = scope.catalog →
        setting.Denotes (operand.siteUnder
          (.ofScalar (.integer (if kind.isSmall then .int32 else kind))) (0 :: site)) operand
          (.integer kind) a →
        (if kind.isSmall then IntegerKind.int32 else kind).Wraps (operator.exact a)
          (setting.evaluate site tree) := by
  have noLiteral : operator = .negate → Catalog.negatedLiteral? operand = none := by
    intro negates
    cases negated : Catalog.negatedLiteral? operand with
    | none => rfl
    | some constant =>
        have faithful := (term_root expr isOperand.built).faithful
        obtain ⟨signed, kinds, _⟩ :=
          Catalog.negatedLiteral?_eq_some faithful isOperand.type_eq negated
        exact absurd ⟨negates, kinds.imp And.left And.left⟩ ordinary
  have working : operator.workingKind kind = if kind.isSmall then .int32 else kind := by
    unfold UnaryOperator.workingKind
    rw [if_neg fun both => ordinary ⟨both.1, .inl both.2⟩]
  have built := Catalog.unaryTerm_integer holds operator token isOperand.type_eq noLiteral
  rw [if_neg fun both => ordinary ⟨both.1, .inr both.2⟩, working] at built
  have covers : (if kind.isSmall then IntegerKind.int32 else kind).covers (.integer kind) =
      true := by
    cases kind <;> decide
  refine ⟨_, (term_unary operator token isOperand.built).trans built, rfl, ?_⟩
  intro setting site a sameCatalog denotes
  rw [← sameCatalog] at holds
  exact isOperand.unary_wraps holds covers operator _ denotes

theorem computesIntegers (scope : Scope) (holds : scope.catalog.HoldsPrimitives) :
    scope.ComputesIntegers where
  binary_refused_iff promotes leftOperand rightOperand := by
    rw [leftOperand.term_binary holds promotes rightOperand,
      ← Scalar.meeting?_eq_none_iff leftOperand.integral rightOperand.integral]
    cases IntegerKind.meeting? _ _ with
    | none => exact iff_of_true rfl rfl
    | some kind => exact iff_of_false (by simp) (by simp)
  binary_computes {operator left right first second leftKind rightKind} promotes leftOperand
      rightOperand compatible := by
    cases met : IntegerKind.meeting? leftKind rightKind with
    | none =>
        exact absurd
          ((Scalar.meeting?_eq_none_iff leftOperand.integral rightOperand.integral).mp met)
          compatible
    | some kind =>
        have promoted := Scalar.promoted?_integral leftOperand.integral rightOperand.integral
        have built := leftOperand.term_binary holds promotes rightOperand
        rw [met] at promoted built
        refine ⟨kind, _, promoted, rfl, built, rfl, ?_⟩
        intro setting site a b sameCatalog leftDenotes rightDenotes
        rw [← sameCatalog] at holds
        exact leftOperand.binary_computes holds promotes rightOperand met leftDenotes
          rightDenotes _
  negate_refused_iff isOperand := by
    rcases negate_uint64 holds isOperand with ⟨literal, built⟩ | ⟨other, built⟩
    · rw [built]
      exact iff_of_false (by simp) (not_not_intro literal)
    · exact iff_of_true built other
  negate_least isOperand literal := by
    rcases negate_uint64 holds isOperand with ⟨_, built⟩ | ⟨other, _⟩
    · refine ⟨_, built, rfl, fun setting site => ?_⟩
      exact ⟨.least .int64, rfl, rfl, by decide⟩
    · exact absurd literal other
  negate_exact := negate_exact holds
  unary_computes := unary_computes holds

/-- A negative integer next to one without a sign: both are taken to 64 bits. -/
theorem computesIntegers_mixed :
    (Scope.mk .primitives [] none).ComputesIntegers ∧
      ∃ tree : Term, (Scope.mk .primitives [] none).term
          (.binary "*" (.literal (.integer (.wrap .int8 (-2))))
            (.literal (.integer (.wrap .uint32 3)))) = .ok tree ∧
        tree.type = .ofScalar (.integer .int64) ∧
        IntegerKind.int64.Wraps (-6) (Setting.evaluate { catalog := .primitives } [] tree) := by
  have computes := computesIntegers (Scope.mk .primitives [] none)
    Catalog.holdsPrimitives_primitives
  refine ⟨computes, ?_⟩
  have left : (Scope.mk .primitives [] none).Operand
      (.literal (.integer (.wrap .int8 (-2)))) (.ofValue (.integer (.wrap .int8 (-2))))
      (.integer .int8) := ⟨by unfold Scope.term; rfl, rfl, rfl⟩
  have right : (Scope.mk .primitives [] none).Operand
      (.literal (.integer (.wrap .uint32 3))) (.ofValue (.integer (.wrap .uint32 3)))
      (.integer .uint32) := ⟨by unfold Scope.term; rfl, rfl, rfl⟩
  obtain ⟨kind, tree, promoted, _, built, type, result⟩ :=
    computes.binary_computes (show BinaryOperator.multiply.promotes = true from rfl) left right
      (by decide)
  have sameKind : kind = .int64 := by
    have same : some (Scalar.integer .int64) = some (.integer kind) := promoted
    simpa using same.symm
  subst sameKind
  refine ⟨tree, built, type, ?_⟩
  refine result { catalog := .primitives } [] (-2) 3 rfl ?_ ?_
  · exact ⟨.integer (.wrap .int8 (-2)), by unfold Term.ofValue Setting.evaluate; rfl, rfl,
      by decide⟩
  · exact ⟨.integer (.wrap .uint32 3), by unfold Term.ofValue Setting.evaluate; rfl, rfl, by decide⟩

end Scope

end Formula
