import Formula.Proofs.Typing.Operators
import Formula.Typing.Expression

/-!
Every tree that the builder produces is well formed: by induction over the expression, with one
lemma for each way in which the builder makes nodes.
-/

namespace Formula

/-! ### Unary operators and casts -/

namespace Catalog

variable {catalog : Catalog} {constant : Value → DataType → Prop}
  {receiver : String → DataType → Prop}

theorem applyUnary_wellFormed (constants : catalog.Constants constant)
    {operator : UnaryOperator} {token : String} {operand term : Term}
    (wellFormed : catalog.WellFormed constant receiver operand)
    (found : catalog.applyUnary operator token operand = .ok term) :
    catalog.WellFormed constant receiver term := by
  unfold applyUnary at found
  dsimp only at found
  rw [bind_eq_ok] at found
  obtain ⟨meaning, resolved, found⟩ := found
  split at found
  · rw [pure_eq_ok] at found
    rw [← found]
    exact wellFormed_one rfl wellFormed resolved
  · rename_i method
    obtain ⟨⟨owner, declares⟩, unary⟩ := resolveUnary_method resolved
    rw [bind_eq_ok] at found
    obtain ⟨passed, adapted, found⟩ := found
    obtain ⟨wellFormedPassed, passes⟩ :=
      adaptArguments_fits constants (constants.ofMethod declares) (by
        intro argument member
        rw [List.mem_singleton.mp member]
        exact wellFormed) adapted
    have count := passes.length_eq
    rw [unary] at count
    obtain ⟨only, rfl⟩ := List.length_eq_one_iff.mp count
    rw [List.getLast?_singleton, pure_eq_ok] at found
    rw [← found]
    exact wellFormed_one rfl (wellFormedPassed only (List.mem_singleton_self only))
      ⟨⟨owner, declares⟩, passes⟩
  · cases found

theorem applyUnary_scalar {operator : UnaryOperator} {token : String} {operand term : Term}
    {kind : Scalar} (operandType : operand.type = .ofScalar kind)
    (found : catalog.applyUnary operator token operand = .ok term) :
    term.type = .ofScalar kind := by
  unfold applyUnary at found
  dsimp only at found
  rw [operandType, resolveUnary_scalar, bind_eq_ok] at found
  obtain ⟨meaning, resolved, found⟩ := found
  cases resolved
  cases builtin : builtinUnary? operator (.ofScalar kind) with
  | none =>
      rw [builtin] at found
      cases found
  | some result =>
      simp only [builtin, Option.map_some, pure_eq_ok] at found
      rw [← found]
      unfold builtinUnary? at builtin
      cases plain : operator.builtin? (.ofScalar kind) with
      | some type =>
          simp only [plain, Option.some.injEq] at builtin
          subst builtin
          exact unary_builtin?_result plain
      | none =>
          have notMarked : (DataType.ofScalar kind).isNullable = false := rfl
          simp only [plain, notMarked, Bool.false_eq_true, if_false, reduceCtorEq] at builtin

theorem widenOperand_fits (operator : UnaryOperator) {operand : Term}
    (wellFormed : catalog.WellFormed constant receiver operand) :
    catalog.WellFormed constant receiver (widenOperand operator operand.type operand) ∧
      ∀ kind : Scalar, operand.type = .ofScalar kind → kind.isInteger = true →
        ∃ wide : Scalar, wide.isNumeric = true ∧
          (widenOperand operator operand.type operand).type = .ofScalar wide := by
  unfold widenOperand
  split
  · rename_i kind isScalar
    have operandType := DataType.eq_ofScalar isScalar
    split
    · rename_i negated
      refine ⟨wellFormed_one rfl wellFormed ?_, fun _ _ _ => ⟨.integer .int64, rfl, rfl⟩⟩
      change (catalog.explicitConversion? operand.type _).isSome = true
      rw [operandType, negated.2]
      exact explicitConversion?_scalars rfl rfl
    · split
      · rename_i small
        have isSmall : isSmallInteger operand.type = true := by
          unfold isSmallInteger
          rw [isScalar]
          exact small
        exact ⟨wellFormed_one rfl wellFormed (isSmallInteger_convert isSmall),
          fun _ _ _ => ⟨.int32, rfl, rfl⟩⟩
      · exact ⟨wellFormed, fun other isOther integer =>
          ⟨other, isNumeric_of_isInteger integer, isOther⟩⟩
  · rename_i notScalar
    refine ⟨wellFormed, fun kind isKind _ => ?_⟩
    rw [isKind, DataType.scalar?_ofScalar] at notScalar
    cases notScalar

theorem negatedLiteral?_wellFormed (constants : catalog.Constants constant) {operand term : Term}
    (found : negatedLiteral? operand = some term) :
    catalog.WellFormed constant receiver term := by
  unfold negatedLiteral? at found
  split at found
  · split at found
    · cases found
      exact wellFormed_constant (constants.ofLeast .int32)
    · split at found
      · cases found
        exact wellFormed_constant (constants.ofLeast .int64)
      · cases found
  · cases found

theorem unaryTerm_wellFormed (constants : catalog.Constants constant)
    (enumerates : catalog.EnumeratesIntegers) {operator : UnaryOperator} {token : String}
    {operand term : Term} (wellFormed : catalog.WellFormed constant receiver operand)
    (found : catalog.unaryTerm operator token operand = .ok term) :
    catalog.WellFormed constant receiver term := by
  unfold unaryTerm at found
  dsimp only at found
  generalize isUnderlying :
    ((catalog.underlying? operand.type).map DataType.ofScalar).getD operand.type = underlying
    at found
  have wellFormedPlain : catalog.WellFormed constant receiver (operand.convertTo underlying) := by
    refine convertTo_wellFormed wellFormed fun different => ?_
    cases enumeration : catalog.underlying? operand.type with
    | none =>
        rw [enumeration] at isUnderlying
        exact absurd isUnderlying different
    | some kind =>
        rw [enumeration] at isUnderlying
        rw [← isUnderlying]
        refine explicitConversion?_numbers ?_ (isNumberLike_ofScalar
          (isNumeric_of_isInteger (enumerates _ kind enumeration)))
        rw [underlying_of_underlying? enumeration]
        exact isNumberLike_of_underlying? enumeration
  have plainType := operand.type_convertTo underlying
  generalize operand.convertTo underlying = plain at found wellFormedPlain plainType
  split at found
  · rename_i literal negated
    rw [pure_eq_ok] at found
    rw [← found]
    split at negated
    · exact negatedLiteral?_wellFormed constants negated
    · cases negated
  · rw [bind_eq_ok] at found
    obtain ⟨result, applied, found⟩ := found
    subst plainType
    obtain ⟨wellFormedWide, isNumber⟩ := widenOperand_fits operator wellFormedPlain
    have wellFormedResult := applyUnary_wellFormed constants wellFormedWide applied
    split at found
    · rename_i enumerated
      rw [Bool.and_eq_true, Option.isSome_iff_exists] at enumerated
      obtain ⟨⟨kind, enumeration⟩, _⟩ := enumerated
      rw [enumeration] at isUnderlying
      obtain ⟨wide, wideNumber, wideType⟩ :=
        isNumber kind isUnderlying.symm (enumerates _ kind enumeration)
      rw [pure_eq_ok] at found
      rw [← found]
      refine wellFormed_one rfl wellFormedResult ?_
      change (catalog.explicitConversion? result.type operand.type).isSome = true
      rw [applyUnary_scalar wideType applied]
      refine explicitConversion?_numbers (isNumberLike_ofScalar wideNumber) ?_
      rw [underlying_of_underlying? enumeration]
      exact isNumberLike_of_underlying? enumeration
    · rw [pure_eq_ok] at found
      rw [← found]
      exact wellFormedResult

theorem castTerm_wellFormed (constants : catalog.Constants constant) {name : String}
    {target : DataType} {operand term : Term}
    (wellFormed : catalog.WellFormed constant receiver operand)
    (found : catalog.castTerm name target operand = .ok term) :
    catalog.WellFormed constant receiver term := by
  unfold castTerm at found
  dsimp only at found
  split at found
  · cases found
    exact wellFormed
  · split at found
    · rename_i null
      rw [Bool.and_eq_true] at null
      cases found
      exact wellFormed_constant (constants.ofNull target null.2)
    · split at found
      · rename_i conversion explicit
        cases found
        exact (apply_fits wellFormed explicit).1
      · cases found

end Catalog

/-! ### Names, members and calls -/

namespace Catalog

variable (catalog : Catalog) (constant : Value → DataType → Prop)
  (receiver : String → DataType → Prop)

/-- Something is declared for what it is read on: statically by some type where there is no
target, and otherwise by the type of the target. -/
def DeclaredOn (declares : DataType → Bool → Prop) : Option Term → Prop
  | none => ∃ owner, declares owner true
  | some target =>
      catalog.WellFormed constant receiver target ∧ declares target.type false

def SymbolFits : Symbol → Prop
  | .type _ => True
  | .value term => catalog.WellFormed constant receiver term

variable {catalog constant receiver}

theorem declaredOn_split {symbol : Symbol} (fits : catalog.SymbolFits constant receiver symbol)
    {declares : DataType → Bool → Prop} (declared : declares symbol.split.1 symbol.split.2.1) :
    catalog.DeclaredOn constant receiver declares symbol.split.2.2 := by
  cases symbol with
  | type owner => exact ⟨owner, declared⟩
  | value term => exact ⟨fits, declared⟩

theorem readMember_wellFormed {target : Option Term} {member : Member}
    (declared : catalog.DeclaredOn constant receiver
      (fun type isStatic => catalog.DeclaresMember type isStatic member) target)
    (plain : member.parameters = []) :
    catalog.WellFormed constant receiver (.readMember target member) := by
  cases target with
  | none => exact .intro ⟨declared, plain⟩ fun _ impossible => absurd impossible List.not_mem_nil
  | some target =>
      obtain ⟨wellFormed, declares⟩ := declared
      unfold Term.readMember
      dsimp only
      split
      · rename_i ofArrays
        exact wellFormed_one rfl wellFormed ⟨member, declares, ofArrays.1⟩
      · exact wellFormed_one rfl wellFormed ⟨declares, plain⟩

theorem callMethod_wellFormed (constants : catalog.Constants constant) {target : Option Term}
    {method : Method} {arguments passed : List Term}
    (declared : catalog.DeclaredOn constant receiver
      (fun type isStatic => catalog.DeclaresMethod type isStatic method) target)
    (wellFormed : ∀ argument ∈ arguments, catalog.WellFormed constant receiver argument)
    (adapted : catalog.adaptArguments method.parameters arguments = .ok passed) :
    catalog.WellFormed constant receiver (.callMethod target method passed) := by
  cases target with
  | none =>
      obtain ⟨owner, declares⟩ := declared
      obtain ⟨wellFormedPassed, passes⟩ :=
        adaptArguments_fits constants (constants.ofMethod declares) wellFormed adapted
      exact .intro ⟨⟨owner, declares⟩, passes⟩ wellFormedPassed
  | some target =>
      obtain ⟨wellFormedTarget, declares⟩ := declared
      obtain ⟨wellFormedPassed, passes⟩ :=
        adaptArguments_fits constants (constants.ofMethod declares) wellFormed adapted
      refine .intro ⟨declares, passes⟩ ?_
      intro child member
      rcases List.mem_cons.mp member with rfl | argument
      · exact wellFormedTarget
      · exact wellFormedPassed child argument

end Catalog

namespace Scope

variable {scope : Scope} {constant : Value → DataType → Prop}
  {receiver : String → DataType → Prop}

/-- What members stand for that are named without a target is itself well formed. -/
def ReceiverFits (scope : Scope) (constant : Value → DataType → Prop)
    (receiver : String → DataType → Prop) : Prop :=
  ∀ target, scope.receiver = some target → scope.catalog.WellFormed constant receiver target

theorem bindMember_none {name : String} {member : Member}
    (found : scope.bindMember none name true = .ok (some member)) :
    ((∃ target, scope.receiver = some target ∧
        scope.catalog.DeclaresMember target.type false member) ∨
      ∃ owner, scope.catalog.DeclaresMember owner true member) ∧ member.parameters = [] := by
  unfold bindMember receiverType? at found
  simp only [Option.isNone_none, Bool.and_self, if_true] at found
  cases isReceiver : scope.receiver with
  | none =>
      simp only [isReceiver, Option.map_none, pure_bind] at found
      obtain ⟨owner, _, declares, plain⟩ := declares_of_memberOf found
      exact ⟨.inr ⟨owner, declares⟩, plain⟩
  | some target =>
      simp only [isReceiver, Option.map_some, bind_eq_ok] at found
      obtain ⟨own, isOwn, found⟩ := found
      cases own with
      | none =>
          obtain ⟨owner, _, declares, plain⟩ := declares_of_memberOf found
          exact ⟨.inr ⟨owner, declares⟩, plain⟩
      | some other =>
          rw [pure_eq_ok] at found
          cases found
          obtain ⟨type, asked, declares, plain⟩ := declares_of_memberOf isOwn
          unfold owners at asked
          rw [List.mem_singleton.mp asked] at declares
          exact ⟨.inl ⟨target, rfl, declares⟩, plain⟩

theorem declares_of_bindMethod_none {name : String} {arguments : List DataType} {method : Method}
    (found : scope.bindMethod none name arguments true = .ok (some method)) :
    (∃ target, scope.receiver = some target ∧
        scope.catalog.DeclaresMethod target.type false method) ∨
      ∃ owner, scope.catalog.DeclaresMethod owner true method := by
  rcases bindMethod_none found with ⟨target, isReceiver, found⟩ | found
  · obtain ⟨type, asked, declares⟩ := declares_of_methodOf found
    unfold owners at asked
    rw [List.mem_singleton.mp asked] at declares
    exact .inl ⟨target, isReceiver, declares⟩
  · obtain ⟨owner, _, declares⟩ := declares_of_methodOf found
    exact .inr ⟨owner, declares⟩

theorem declaredOn_receiverFor (receiverFits : scope.ReceiverFits constant receiver)
    {isStatic : Bool} {name : String} {target : Option Term} {declares : DataType → Bool → Prop}
    (flag : ∀ type asked, declares type asked → isStatic = asked)
    (bound : (∃ target, scope.receiver = some target ∧ declares target.type false) ∨
      ∃ owner, declares owner true)
    (found : scope.receiverFor isStatic name = .ok target) :
    scope.catalog.DeclaredOn constant receiver declares target := by
  unfold receiverFor at found
  rcases bound with ⟨known, isReceiver, declared⟩ | ⟨owner, declared⟩
  · rw [flag _ _ declared, isReceiver] at found
    cases found
    exact ⟨receiverFits known isReceiver, declared⟩
  · rw [flag _ _ declared, if_pos rfl] at found
    cases found
    exact ⟨owner, declared⟩

theorem symbol?_fits (receiverFits : scope.ReceiverFits constant receiver) {name : String}
    {symbol : Symbol} (found : scope.symbol? name = .ok (some symbol)) :
    scope.catalog.SymbolFits constant receiver symbol := by
  unfold symbol? at found
  split at found
  · rw [pure_eq_ok] at found
    cases found
    trivial
  · rw [bind_eq_ok] at found
    obtain ⟨bound, isBound, found⟩ := found
    cases bound with
    | none =>
        rw [pure_eq_ok] at found
        cases found
    | some member =>
        rw [bind_eq_ok] at found
        obtain ⟨target, isTarget, found⟩ := found
        rw [pure_eq_ok] at found
        cases found
        obtain ⟨places, plain⟩ := bindMember_none isBound
        exact Catalog.readMember_wellFormed
          (declaredOn_receiverFor receiverFits (fun _ _ declares => declares.1) places isTarget)
          plain

theorem symbol_fits (receiverFits : scope.ReceiverFits constant receiver) {name : String}
    {symbol : Symbol} (found : scope.symbol name = .ok symbol) :
    scope.catalog.SymbolFits constant receiver symbol := by
  unfold Scope.symbol at found
  rw [bind_eq_ok] at found
  obtain ⟨known, isKnown, found⟩ := found
  cases known with
  | none => cases found
  | some other =>
      rw [pure_eq_ok] at found
      cases found
      exact symbol?_fits receiverFits isKnown

theorem referenceTerm_wellFormed (receiverFits : scope.ReceiverFits constant receiver)
    {name : String} {term : Term} (found : scope.referenceTerm name = .ok term) :
    scope.catalog.WellFormed constant receiver term := by
  unfold referenceTerm at found
  rw [bind_eq_ok] at found
  obtain ⟨symbol, isSymbol, found⟩ := found
  cases symbol with
  | type type => cases found
  | value value =>
      rw [pure_eq_ok] at found
      cases found
      exact symbol_fits receiverFits isSymbol

theorem memberTerm_wellFormed {target : Symbol} {name : String} {term : Term}
    (fits : scope.catalog.SymbolFits constant receiver target)
    (found : scope.memberTerm target name = .ok term) :
    scope.catalog.WellFormed constant receiver term := by
  unfold memberTerm at found
  dsimp only at found
  rw [bind_eq_ok] at found
  obtain ⟨bound, isBound, found⟩ := found
  cases bound with
  | none => cases found
  | some member =>
      rw [pure_eq_ok] at found
      cases found
      obtain ⟨declares, plain⟩ := declares_of_bindMember_some isBound
      exact Catalog.readMember_wellFormed (Catalog.declaredOn_split fits declares) plain

theorem finishCall_wellFormed (constants : scope.catalog.Constants constant)
    {target : Option Term} {method : Method} {arguments : List Term} {term : Term}
    (declared : scope.catalog.DeclaredOn constant receiver
      (fun type isStatic => scope.catalog.DeclaresMethod type isStatic method) target)
    (wellFormed : ∀ argument ∈ arguments, scope.catalog.WellFormed constant receiver argument)
    (found : scope.finishCall target method arguments = .ok term) :
    scope.catalog.WellFormed constant receiver term := by
  unfold finishCall at found
  rw [bind_eq_ok] at found
  obtain ⟨passed, adapted, found⟩ := found
  rw [pure_eq_ok] at found
  cases found
  exact Catalog.callMethod_wellFormed constants declared wellFormed adapted

theorem invoke_wellFormed (constants : scope.catalog.Constants constant) {callee : String}
    {function term : Term} {arguments : List Term}
    (wellFormedFunction : scope.catalog.WellFormed constant receiver function)
    (wellFormed : ∀ argument ∈ arguments, scope.catalog.WellFormed constant receiver argument)
    (found : scope.invoke callee function arguments = .ok term) :
    scope.catalog.WellFormed constant receiver term := by
  unfold invoke at found
  rw [bind_eq_ok] at found
  obtain ⟨bound, isBound, found⟩ := found
  cases bound with
  | none => cases found
  | some method =>
      refine finishCall_wellFormed constants ?_ wellFormed found
      exact ⟨wellFormedFunction, declares_of_bindMethod_some isBound⟩

theorem callOn_wellFormed (constants : scope.catalog.Constants constant) {callee : String}
    {target : Symbol} {name : String} {arguments : List Term} {term : Term}
    (fits : scope.catalog.SymbolFits constant receiver target)
    (wellFormed : ∀ argument ∈ arguments, scope.catalog.WellFormed constant receiver argument)
    (found : scope.callOn callee target name arguments = .ok term) :
    scope.catalog.WellFormed constant receiver term := by
  unfold callOn at found
  dsimp only at found
  rw [bind_eq_ok] at found
  obtain ⟨bound, isBound, found⟩ := found
  cases bound with
  | some member =>
      dsimp only at found
      split at found
      · obtain ⟨declares, plain⟩ := declares_of_bindMember_some isBound
        exact invoke_wellFormed constants
          (Catalog.readMember_wellFormed (Catalog.declaredOn_split fits declares) plain)
          wellFormed found
      · cases found
  | none =>
      rw [bind_eq_ok] at found
      obtain ⟨method?, isMethod, found⟩ := found
      cases method? with
      | none => cases found
      | some method =>
          refine finishCall_wellFormed constants ?_ wellFormed found
          exact Catalog.declaredOn_split fits (declares_of_bindMethod_some isMethod)

theorem callNamed_wellFormed (constants : scope.catalog.Constants constant)
    (receiverFits : scope.ReceiverFits constant receiver) {name : String}
    {arguments : List Term} {term : Term}
    (wellFormed : ∀ argument ∈ arguments, scope.catalog.WellFormed constant receiver argument)
    (found : scope.callNamed name arguments = .ok term) :
    scope.catalog.WellFormed constant receiver term := by
  unfold callNamed at found
  rw [bind_eq_ok] at found
  obtain ⟨symbol?, isSymbol, found⟩ := found
  split at found
  · rename_i function
    split at found
    · exact invoke_wellFormed constants (symbol?_fits receiverFits isSymbol) wellFormed found
    · cases found
  · cases found
  · rw [bind_eq_ok] at found
    obtain ⟨bound, isBound, found⟩ := found
    cases bound with
    | none => cases found
    | some method =>
        rw [bind_eq_ok] at found
        obtain ⟨target, isTarget, found⟩ := found
        refine finishCall_wellFormed constants ?_ wellFormed found
        exact declaredOn_receiverFor receiverFits (fun _ _ declares => declares.1)
          (declares_of_bindMethod_none isBound) isTarget

end Scope

namespace Catalog

variable {catalog : Catalog} {constant : Value → DataType → Prop}
  {receiver : String → DataType → Prop}

theorem arrayElement_wellFormed {array : Term} {arguments : List Term} {term : Term}
    (isArray : array.type.isArray = true)
    (wellFormedArray : catalog.WellFormed constant receiver array)
    (wellFormed : ∀ argument ∈ arguments, catalog.WellFormed constant receiver argument)
    (found : catalog.arrayElement array arguments = .ok term) :
    catalog.WellFormed constant receiver term := by
  unfold arrayElement at found
  split at found
  · rename_i position
    have wellFormedPosition := wellFormed position (List.mem_singleton_self position)
    dsimp only at found
    split at found
    · rename_i exactly
      cases found
      exact wellFormed_two rfl wellFormedArray wellFormedPosition ⟨isArray, eq_of_beq exactly⟩
    · split at found
      · rename_i widens
        cases found
        exact wellFormed_two rfl wellFormedArray
          (wellFormed_one rfl wellFormedPosition (explicitConversion?_of_widens widens))
          ⟨isArray, rfl⟩
      · split at found
        · rename_i method declared
          cases found
          obtain ⟨declares, types, result⟩ := declaresMethod_of_conversionOn? declared
          exact wellFormed_two rfl wellFormedArray
            (wellFormed_one rfl wellFormedPosition
              ⟨⟨_, declares⟩, passes_of_types types, result⟩) ⟨isArray, rfl⟩
        · cases found
  · cases found

theorem indexTerm_wellFormed (constants : catalog.Constants constant) {target : Term}
    {arguments : List Term} {term : Term}
    (wellFormedTarget : catalog.WellFormed constant receiver target)
    (wellFormed : ∀ argument ∈ arguments, catalog.WellFormed constant receiver argument)
    (found : catalog.indexTerm target arguments = .ok term) :
    catalog.WellFormed constant receiver term := by
  unfold indexTerm at found
  split at found
  · rename_i isArray
    exact arrayElement_wellFormed isArray wellFormedTarget wellFormed found
  · dsimp only at found
    split at found
    · cases found
    · split at found
      · split at found
        · rename_i indexer selected
          rw [bind_eq_ok] at found
          obtain ⟨passed, adapted, found⟩ := found
          rw [pure_eq_ok] at found
          cases found
          have declares := declaresMember_of_indexers (List.mem_of_getElem? selected)
          obtain ⟨wellFormedPassed, passes⟩ :=
            adaptArguments_fits constants (constants.ofMember declares) wellFormed adapted
          refine .intro ⟨declares, passes⟩ ?_
          intro child member
          rcases List.mem_cons.mp member with rfl | argument
          · exact wellFormedTarget
          · exact wellFormedPassed child argument
        · cases found
      · cases found
      · cases found

theorem conditionalTerm_wellFormed (constants : catalog.Constants constant)
    {test whenTrue whenFalse term : Term}
    (wellFormedTest : catalog.WellFormed constant receiver test)
    (wellFormedTrue : catalog.WellFormed constant receiver whenTrue)
    (wellFormedFalse : catalog.WellFormed constant receiver whenFalse)
    (found : catalog.conditionalTerm test whenTrue whenFalse = .ok term) :
    catalog.WellFormed constant receiver term := by
  unfold conditionalTerm at found
  rw [bind_eq_ok] at found
  obtain ⟨truth, isTruth, found⟩ := found
  obtain ⟨wellFormedTruth, serves⟩ := requireImplicit_fits constants wellFormedTest isTruth
  split at found
  · rename_i same
    rw [pure_eq_ok] at found
    cases found
    refine .intro ⟨serves, eq_of_beq same⟩ ?_
    intro child member
    simp only [Term.children, List.mem_cons, List.not_mem_nil, or_false] at member
    rcases member with rfl | rfl | rfl
    · exact wellFormedTruth
    · exact wellFormedTrue
    · exact wellFormedFalse
  · cases found

end Catalog

/-! ### Expressions -/

namespace Expr

mutual

def literals : Expr → List Value
  | reference _ => []
  | literal value => [value]
  | binary _ left right => left.literals ++ right.literals
  | unary _ _ operand | cast _ operand | parenthesized operand => operand.literals
  | call target arguments | index target arguments => target.literals ++ literalsOf arguments
  | member target name => target.literals ++ name.literals
  | conditional test whenTrue whenFalse =>
      test.literals ++ whenTrue.literals ++ whenFalse.literals

def literalsOf : List Expr → List Value
  | [] => []
  | expr :: exprs => expr.literals ++ literalsOf exprs

end

/-- The literals of an expression may stand as constants of their own types. -/
def LiteralsFit (constant : Value → DataType → Prop) (expr : Expr) : Prop :=
  ∀ value ∈ expr.literals, constant value value.type

end Expr

namespace Scope

variable {scope : Scope} {constant : Value → DataType → Prop}
  {receiver : String → DataType → Prop}

def targetSymbol (scope : Scope) : Expr → Typing Symbol
  | .reference name => scope.symbol name
  | target => Symbol.value <$> scope.term target

theorem term_member (target member : Expr) :
    scope.term (.member target member) = (do
      let symbol ← scope.targetSymbol target
      match member with
      | .reference name => scope.memberTerm symbol name
      | member => throw (.identifierExpected member.toText)) := by
  unfold Scope.term
  cases target <;> rfl

theorem term_call_member (target member : Expr) (arguments : List Expr) :
    scope.term (.call (.member target member) arguments) = (do
      let arguments ← scope.terms arguments
      let symbol ← scope.targetSymbol target
      match member with
      | .reference name =>
          scope.callOn (Expr.member target member).toText symbol name arguments
      | _ => throw (.methodNameExpected (Expr.member target member).toText)) := by
  unfold Scope.term
  cases target <;> rfl

theorem targetSymbol_fits (receiverFits : scope.ReceiverFits constant receiver) {target : Expr}
    {symbol : Symbol}
    (wellFormed : ∀ {term : Term}, scope.term target = .ok term →
      scope.catalog.WellFormed constant receiver term)
    (found : scope.targetSymbol target = .ok symbol) :
    scope.catalog.SymbolFits constant receiver symbol := by
  unfold targetSymbol at found
  split at found
  · exact symbol_fits receiverFits found
  · obtain ⟨inner, isInner, same⟩ := map_eq_ok.mp found
    cases same
    exact wellFormed isInner

mutual

/-- What the builder makes of an expression is a well-formed tree. -/
theorem term_wellFormed (constants : scope.catalog.Constants constant)
    (enumerates : scope.catalog.EnumeratesIntegers)
    (receiverFits : scope.ReceiverFits constant receiver) :
    ∀ (expr : Expr) {term : Term}, expr.LiteralsFit constant → scope.term expr = .ok term →
      scope.catalog.WellFormed constant receiver term
  | .reference name, term, _, found => by
      unfold Scope.term at found
      exact referenceTerm_wellFormed receiverFits found
  | .literal value, term, literals, found => by
      unfold Scope.term at found
      cases found
      exact Catalog.wellFormed_constant (literals value (List.mem_singleton_self value))
  | .binary token left right, term, literals, found => by
      unfold Scope.term at found
      simp only [bind_eq_ok] at found
      obtain ⟨first, isFirst, second, isSecond, found⟩ := found
      have wellFormedFirst := term_wellFormed constants enumerates receiverFits left
        (fun value member => literals value (List.mem_append_left _ member)) isFirst
      have wellFormedSecond := term_wellFormed constants enumerates receiverFits right
        (fun value member => literals value (List.mem_append_right _ member)) isSecond
      split at found
      · exact Catalog.binaryTerm_wellFormed constants enumerates wellFormedFirst
          wellFormedSecond found
      · cases found
  | .unary operator token operand, term, literals, found => by
      unfold Scope.term at found
      rw [bind_eq_ok] at found
      obtain ⟨inner, isInner, found⟩ := found
      have wellFormedInner :=
        term_wellFormed constants enumerates receiverFits operand literals isInner
      exact Catalog.unaryTerm_wellFormed constants enumerates wellFormedInner found
  | .cast typeName operand, term, literals, found => by
      unfold Scope.term at found
      rw [bind_eq_ok] at found
      obtain ⟨inner, isInner, found⟩ := found
      have wellFormedInner :=
        term_wellFormed constants enumerates receiverFits operand literals isInner
      split at found
      · exact Catalog.castTerm_wellFormed constants wellFormedInner found
      · cases found
  | .call (.reference name) arguments, term, literals, found => by
      unfold Scope.term at found
      rw [bind_eq_ok] at found
      obtain ⟨passed, arePassed, found⟩ := found
      have wellFormedPassed := terms_wellFormed constants enumerates receiverFits arguments
        (fun value member => literals value (List.mem_append_right _ member)) arePassed
      exact callNamed_wellFormed constants receiverFits wellFormedPassed found
  | .call (.member target name) arguments, term, literals, found => by
      rw [term_call_member, bind_eq_ok] at found
      obtain ⟨passed, arePassed, found⟩ := found
      have wellFormedPassed := terms_wellFormed constants enumerates receiverFits arguments
        (fun value member => literals value (List.mem_append_right _ member)) arePassed
      rw [bind_eq_ok] at found
      obtain ⟨symbol, isSymbol, found⟩ := found
      have fits := targetSymbol_fits receiverFits (fun isInner =>
        term_wellFormed constants enumerates receiverFits target
          (fun value member => literals value
            (List.mem_append_left _ (List.mem_append_left _ member))) isInner) isSymbol
      split at found
      · exact callOn_wellFormed constants fits wellFormedPassed found
      · cases found
  | .call (.literal _) _, _, _, found | .call (.binary _ _ _) _, _, _, found
  | .call (.unary _ _ _) _, _, _, found | .call (.cast _ _) _, _, _, found
  | .call (.call _ _) _, _, _, found | .call (.index _ _) _, _, _, found
  | .call (.conditional _ _ _) _, _, _, found | .call (.parenthesized _) _, _, _, found => by
      unfold Scope.term at found
      rw [bind_eq_ok] at found
      obtain ⟨_, _, impossible⟩ := found
      cases impossible
  | .index target arguments, term, literals, found => by
      unfold Scope.term at found
      simp only [bind_eq_ok] at found
      obtain ⟨inner, isInner, passed, arePassed, found⟩ := found
      have wellFormedInner := term_wellFormed constants enumerates receiverFits target
        (fun value member => literals value (List.mem_append_left _ member)) isInner
      have wellFormedPassed := terms_wellFormed constants enumerates receiverFits arguments
        (fun value member => literals value (List.mem_append_right _ member)) arePassed
      exact Catalog.indexTerm_wellFormed constants wellFormedInner wellFormedPassed found
  | .member target name, term, literals, found => by
      rw [term_member, bind_eq_ok] at found
      obtain ⟨symbol, isSymbol, found⟩ := found
      have fits := targetSymbol_fits receiverFits (fun isInner =>
        term_wellFormed constants enumerates receiverFits target
          (fun value member => literals value (List.mem_append_left _ member)) isInner) isSymbol
      split at found
      · exact memberTerm_wellFormed fits found
      · cases found
  | .conditional test whenTrue whenFalse, term, literals, found => by
      unfold Scope.term at found
      simp only [bind_eq_ok] at found
      obtain ⟨first, isFirst, second, isSecond, third, isThird, found⟩ := found
      have wellFormedFirst := term_wellFormed constants enumerates receiverFits test
        (fun value member => literals value
          (List.mem_append_left _ (List.mem_append_left _ member))) isFirst
      have wellFormedSecond := term_wellFormed constants enumerates receiverFits whenTrue
        (fun value member => literals value
          (List.mem_append_left _ (List.mem_append_right _ member))) isSecond
      have wellFormedThird := term_wellFormed constants enumerates receiverFits whenFalse
        (fun value member => literals value (List.mem_append_right _ member)) isThird
      exact Catalog.conditionalTerm_wellFormed constants wellFormedFirst wellFormedSecond
        wellFormedThird found
  | .parenthesized inner, term, literals, found => by
      unfold Scope.term at found
      exact term_wellFormed constants enumerates receiverFits inner literals found

theorem terms_wellFormed (constants : scope.catalog.Constants constant)
    (enumerates : scope.catalog.EnumeratesIntegers)
    (receiverFits : scope.ReceiverFits constant receiver) :
    ∀ (exprs : List Expr) {terms : List Term},
      (∀ value ∈ Expr.literalsOf exprs, constant value value.type) →
      scope.terms exprs = .ok terms →
      ∀ term ∈ terms, scope.catalog.WellFormed constant receiver term
  | [], terms, _, found => by
      unfold Scope.terms at found
      cases found
      exact fun _ impossible => absurd impossible List.not_mem_nil
  | expr :: exprs, terms, literals, found => by
      unfold Scope.terms at found
      simp only [bind_eq_ok, pure_eq_ok] at found
      obtain ⟨first, isFirst, rest, areRest, rfl⟩ := found
      have wellFormedFirst := term_wellFormed constants enumerates receiverFits expr
        (fun value member => literals value (List.mem_append_left _ member)) isFirst
      have wellFormedRest := terms_wellFormed constants enumerates receiverFits exprs
        (fun value member => literals value (List.mem_append_right _ member)) areRest
      intro term member
      rcases List.mem_cons.mp member with rfl | later
      · exact wellFormedFirst
      · exact wellFormedRest term later

end

end Scope

end Formula
