import Formula.Proofs.Typing.Concatenations

/-!
A value in the place of the receiver. Where the receiver stands only as the target of members and
methods, a constant can take its place, and whatever the builder makes of one tree it makes of the
other: it looks at the types of its operands, and at the operands themselves only to find constants
and concatenations.
-/

namespace Formula

namespace Term

/-- The other tree has a value in every place where this one has the receiver, and the receiver is
nothing but a target. -/
inductive Supplied (value : Value) : Term → Term → Prop
  | constant (content : Value) (type : DataType) :
      Supplied value (.constant content type) (.constant content type)
  | staticMember (member : Member) : Supplied value (.staticMember member) (.staticMember member)
  | ownMember (name : String) (type : DataType) (member : Member) :
      Supplied value (.instanceMember (.parameter name type) member)
        (.instanceMember (.constant value type) member)
  | ownLength (name : String) (type : DataType) :
      Supplied value (.lengthOf (.parameter name type)) (.lengthOf (.constant value type))
  | ownCall (name : String) (type : DataType) (method : Method) {arguments others : List Term}
      (passed : List.Forall₂ (Supplied value) arguments others) :
      Supplied value (.instanceCall (.parameter name type) method arguments)
        (.instanceCall (.constant value type) method others)
  | instanceMember (member : Member) {target other : Term} (read : Supplied value target other) :
      Supplied value (.instanceMember target member) (.instanceMember other member)
  | lengthOf {target other : Term} (read : Supplied value target other) :
      Supplied value (.lengthOf target) (.lengthOf other)
  | instanceCall (method : Method) {target other : Term} {arguments others : List Term}
      (read : Supplied value target other)
      (passed : List.Forall₂ (Supplied value) arguments others) :
      Supplied value (.instanceCall target method arguments) (.instanceCall other method others)
  | staticCall (method : Method) {arguments others : List Term}
      (passed : List.Forall₂ (Supplied value) arguments others) :
      Supplied value (.staticCall method arguments) (.staticCall method others)
  | index (indexer : Member) {target other : Term} {arguments others : List Term}
      (read : Supplied value target other)
      (passed : List.Forall₂ (Supplied value) arguments others) :
      Supplied value (.index target indexer arguments) (.index other indexer others)
  | convert (target : DataType) {operand other : Term} (inner : Supplied value operand other) :
      Supplied value (.convert operand target) (.convert other target)
  | convertBy (method : Method) (target : DataType) {operand other : Term}
      (inner : Supplied value operand other) :
      Supplied value (.convertBy method operand target) (.convertBy method other target)
  | unary (operator : UnaryOperator) (type : DataType) {operand other : Term}
      (inner : Supplied value operand other) :
      Supplied value (.unary operator operand type) (.unary operator other type)
  | unaryBy (method : Method) (operator : UnaryOperator) {operand other : Term}
      (inner : Supplied value operand other) :
      Supplied value (.unaryBy method operator operand) (.unaryBy method operator other)
  | binary (operator : BinaryOperator) (type : DataType) {left right first second : Term}
      (one : Supplied value left first) (two : Supplied value right second) :
      Supplied value (.binary operator left right type) (.binary operator first second type)
  | binaryBy (method : Method) (operator : BinaryOperator) {left right first second : Term}
      (one : Supplied value left first) (two : Supplied value right second) :
      Supplied value (.binaryBy method operator left right)
        (.binaryBy method operator first second)
  | coalesce {left right first second : Term} (one : Supplied value left first)
      (two : Supplied value right second) :
      Supplied value (.coalesce left right) (.coalesce first second)
  | conditional {test whenTrue whenFalse check first second : Term}
      (tested : Supplied value test check) (one : Supplied value whenTrue first)
      (two : Supplied value whenFalse second) :
      Supplied value (.conditional test whenTrue whenFalse) (.conditional check first second)
  | elementAt {array position other place : Term} (read : Supplied value array other)
      (asked : Supplied value position place) :
      Supplied value (.elementAt array position) (.elementAt other place)
  | newArray (itemType : DataType) {items others : List Term}
      (filled : List.Forall₂ (Supplied value) items others) :
      Supplied value (.newArray itemType items) (.newArray itemType others)

/-- What a member or method is read on: nothing, the receiver with its value in the other tree, or
a tree. -/
inductive SuppliedTarget (value : Value) : Option Term → Option Term → Prop
  | none : SuppliedTarget value none none
  | receiver (name : String) (type : DataType) :
      SuppliedTarget value (some (.parameter name type)) (some (.constant value type))
  | built {target other : Term} (read : Supplied value target other) :
      SuppliedTarget value (some target) (some other)

variable {value : Value}

theorem Supplied.type_eq : ∀ {term other : Term}, Supplied value term other →
    other.type = term.type
  | _, _, .constant _ _ | _, _, .staticMember _ | _, _, .ownMember _ _ _ | _, _, .ownLength _ _
  | _, _, .ownCall _ _ _ _ | _, _, .instanceMember _ _ | _, _, .lengthOf _
  | _, _, .instanceCall _ _ _ | _, _, .staticCall _ _ | _, _, .index _ _ _ | _, _, .convert _ _
  | _, _, .convertBy _ _ _ | _, _, .unary _ _ _ | _, _, .unaryBy _ _ _ | _, _, .binary _ _ _ _
  | _, _, .binaryBy _ _ _ _ | _, _, .newArray _ _ => rfl
  | _, _, .coalesce one _ => one.type_eq
  | _, _, .conditional _ one _ => one.type_eq
  | _, _, .elementAt read _ => congrArg (fun type => type.element?.getD .object) read.type_eq

theorem Supplied.isNull_eq {term other : Term} (supplied : Supplied value term other) :
    other.isNull = term.isNull := by
  cases supplied <;> rfl

theorem types_supplied {terms others : List Term}
    (supplied : List.Forall₂ (Supplied value) terms others) :
    others.map type = terms.map type := by
  induction supplied with
  | nil => rfl
  | cons first _ ih => rw [List.map_cons, List.map_cons, first.type_eq, ih]

theorem Supplied.convertTo {term other : Term} (supplied : Supplied value term other)
    (target : DataType) : Supplied value (term.convertTo target) (other.convertTo target) := by
  unfold Term.convertTo
  rw [supplied.type_eq]
  split
  · exact supplied
  · exact .convert target supplied

theorem Supplied.apply {term other : Term} (supplied : Supplied value term other)
    (conversion : Conversion) (target : DataType) :
    Supplied value (conversion.apply term target) (conversion.apply other target) := by
  cases conversion with
  | identity | reference => exact supplied
  | widening | boxing | lifting | explicit => exact .convert target supplied
  | operator method => exact .convertBy method target supplied

theorem SuppliedTarget.readMember {target other : Option Term}
    (read : SuppliedTarget value target other) (member : Member) :
    Supplied value (readMember target member) (readMember other member) := by
  cases read with
  | none => exact .staticMember member
  | receiver name type =>
      unfold Term.readMember
      dsimp only
      split
      · exact .ownLength name type
      · exact .ownMember name type member
  | built read =>
      unfold Term.readMember
      dsimp only
      split
      · exact .lengthOf read
      · exact .instanceMember member read

theorem SuppliedTarget.callMethod {target other : Option Term}
    (read : SuppliedTarget value target other) (method : Method) {arguments others : List Term}
    (passed : List.Forall₂ (Supplied value) arguments others) :
    Supplied value (callMethod target method arguments) (callMethod other method others) := by
  cases read with
  | none => exact .staticCall method passed
  | receiver name type => exact .ownCall name type method passed
  | built read => exact .instanceCall method read passed

end Term

open Term (Supplied SuppliedTarget)

namespace Catalog

variable {catalog : Catalog} {value : Value}

theorem implicitly?_supplied {term other : Term} (supplied : Supplied value term other)
    (target : DataType) :
    Option.Rel (Supplied value) (catalog.implicitly? term target)
      (catalog.implicitly? other target) := by
  unfold implicitly?
  rw [supplied.isNull_eq, supplied.type_eq]
  split
  · exact .some (.constant .null target)
  · cases catalog.implicitConversion? term.type target with
    | none => exact .none
    | some conversion => exact .some (supplied.apply conversion target)

theorem requireImplicit_supplied {term other : Term} (supplied : Supplied value term other)
    (target : DataType) :
    Follows (Supplied value) (catalog.requireImplicit term target)
      (catalog.requireImplicit other target) := by
  have alike := catalog.implicitly?_supplied supplied target
  unfold requireImplicit
  revert alike
  generalize catalog.implicitly? term target = one
  generalize catalog.implicitly? other target = two
  intro alike
  cases alike with
  | none => exact .error
  | some converted => exact .ok converted

theorem passArgument_supplied {term other : Term} (supplied : Supplied value term other)
    (target : DataType) :
    Follows (Supplied value) (catalog.passArgument target term)
      (catalog.passArgument target other) := by
  have alike := catalog.implicitly?_supplied supplied target
  unfold passArgument
  rw [supplied.type_eq]
  revert alike
  generalize catalog.implicitly? term target = one
  generalize catalog.implicitly? other target = two
  intro alike
  cases alike with
  | some converted => exact .ok converted
  | none =>
      dsimp only
      cases catalog.explicitConversion? term.type target with
      | none => exact .error
      | some conversion => exact .ok (supplied.apply conversion target)

theorem omittedArgument_supplied (value : Value) (parameter : Parameter) :
    Follows (Supplied value) (catalog.omittedArgument parameter)
      (catalog.omittedArgument parameter) := by
  unfold omittedArgument
  split
  · exact .ok (.constant .null parameter.type)
  · exact passArgument_supplied (.constant _ _) parameter.type
  · split
    · exact .ok (.newArray _ .nil)
    · exact .error

theorem passAll_supplied {parameters : List Parameter} :
    ∀ {arguments others : List Term}, List.Forall₂ (Supplied value) arguments others →
      Follows (List.Forall₂ (Supplied value)) (catalog.passAll parameters arguments)
        (catalog.passAll parameters others) := by
  induction parameters with
  | nil =>
      intro arguments others supplied
      cases supplied with
      | nil => exact .ok .nil
      | cons => exact .ok .nil
  | cons parameter parameters ih =>
      intro arguments others supplied
      cases supplied with
      | nil =>
          unfold passAll
          refine .bind (omittedArgument_supplied value parameter) fun one other first => ?_
          refine .bind (ih .nil) fun rest passed further => ?_
          exact .ok (.cons first further)
      | cons head tail =>
          unfold passAll
          refine .bind (passArgument_supplied head parameter.type) fun one other first => ?_
          refine .bind (ih tail) fun rest passed further => ?_
          exact .ok (.cons first further)

theorem adaptArguments_supplied (parameters : List Parameter) {arguments others : List Term}
    (supplied : List.Forall₂ (Supplied value) arguments others) :
    Follows (List.Forall₂ (Supplied value)) (catalog.adaptArguments parameters arguments)
      (catalog.adaptArguments parameters others) := by
  unfold adaptArguments
  rw [Term.types_supplied supplied]
  split
  · exact .error
  · exact passAll_supplied supplied
  · rename_i element _
    refine .bind (passAll_supplied (List.forall₂_take _ supplied)) fun fixed passed first => ?_
    have filled : ∀ count, Follows (List.Forall₂ (Supplied value))
        ((arguments.drop count).mapM (catalog.passArgument element))
        ((others.drop count).mapM (catalog.passArgument element)) := by
      intro count
      refine .mapM ?_ (List.forall₂_drop count supplied)
      exact fun one other same => passArgument_supplied same element
    refine .bind (filled _) fun items all rest => ?_
    exact .ok (List.rel_append first (.cons (.newArray element rest) .nil))

variable {left right first second : Term}

theorem applyBinary_supplied (refusal : TypingError) (operator : BinaryOperator)
    (one : Supplied value left first) (two : Supplied value right second) :
    Follows (Supplied value) (catalog.applyBinary refusal operator left right)
      (catalog.applyBinary refusal operator first second) := by
  unfold applyBinary
  rw [one.type_eq, two.type_eq]
  refine .bind_same fun meaning => ?_
  split
  · exact .ok (.binary operator _ one two)
  · rename_i method
    refine .bind (adaptArguments_supplied method.parameters (.cons one (.cons two .nil)))
      fun passed others supplied => ?_
    cases supplied with
    | nil => exact .error
    | cons head tail =>
        cases tail with
        | nil => exact .error
        | cons next rest => exact .ok (.binaryBy method operator head next)
  · exact .error

theorem promotedTerm_supplied (refusal : TypingError) (operator : BinaryOperator)
    (one : Supplied value left first) (two : Supplied value right second) :
    Follows (Supplied value) (catalog.promotedTerm refusal operator left right)
      (catalog.promotedTerm refusal operator first second) := by
  have promoted : Follows (fun both others => Supplied value both.1 others.1 ∧
      Supplied value both.2 others.2) (promoteBoth refusal left right)
      (promoteBoth refusal first second) := by
    unfold promoteBoth
    rw [one.type_eq, two.type_eq]
    split
    · split
      · split
        · exact .ok ⟨one.convertTo _, two.convertTo _⟩
        · exact .error
      · exact .ok ⟨one, two⟩
    · exact .ok ⟨one, two⟩
  unfold promotedTerm
  refine .bind promoted fun both others supplied => ?_
  exact applyBinary_supplied refusal operator supplied.1 supplied.2

theorem shiftTerm_supplied (refusal : TypingError) (operator : BinaryOperator)
    (one : Supplied value left first) (two : Supplied value right second) :
    Follows (Supplied value) (catalog.shiftTerm refusal operator left right)
      (catalog.shiftTerm refusal operator first second) := by
  have widened : ∀ {term other : Term}, Supplied value term other →
      Supplied value (if isSmallInteger term.type then .convert term .int32 else term)
        (if isSmallInteger term.type then .convert other .int32 else other) := by
    intro term other supplied
    split
    · exact .convert .int32 supplied
    · exact supplied
  have operand := widened one
  have count := widened two
  unfold shiftTerm
  dsimp only
  rw [one.type_eq, two.type_eq]
  revert operand count
  generalize (if isSmallInteger left.type then Term.convert left .int32 else left) = operand
  generalize (if isSmallInteger left.type then Term.convert first .int32 else first) = other
  generalize (if isSmallInteger right.type then Term.convert right .int32 else right) = count
  generalize (if isSmallInteger right.type then Term.convert second .int32 else second) = times
  intro isOperand isCount
  rw [isOperand.type_eq, isCount.type_eq]
  split
  · exact .error
  · split
    · refine .bind (applyBinary_supplied refusal .shiftRight (.convert _ isOperand) isCount)
        fun shifted result supplied => ?_
      exact .ok (.convert _ supplied)
    · exact applyBinary_supplied refusal .shiftRight isOperand isCount
    · exact applyBinary_supplied refusal _ isOperand isCount

theorem retypeNulls_supplied (one : Supplied value left first)
    (two : Supplied value right second) :
    Supplied value (catalog.retypeNulls left right).1 (catalog.retypeNulls first second).1 ∧
      Supplied value (catalog.retypeNulls left right).2 (catalog.retypeNulls first second).2 := by
  unfold retypeNulls
  rw [one.type_eq, two.type_eq, one.isNull_eq, two.isNull_eq]
  split
  · exact ⟨.constant .null right.type, two⟩
  · split
    · exact ⟨one, .constant .null left.type⟩
    · exact ⟨one, two⟩

theorem operatorTerm_supplied (refusal : TypingError) (operator : BinaryOperator)
    (one : Supplied value left first) (two : Supplied value right second) :
    Follows (Supplied value) (catalog.operatorTerm refusal operator left right)
      (catalog.operatorTerm refusal operator first second) := by
  obtain ⟨newOne, newTwo⟩ := catalog.retypeNulls_supplied one two
  unfold operatorTerm
  dsimp only
  rw [one.type_eq, two.type_eq, newOne.type_eq]
  split
  · rename_i type underlying _
    unfold enumerationTerm
    generalize (if type == left.type then right.type else left.type) = counterpart
    dsimp only
    by_cases refused : (left.type != right.type && counterpart != underlying) = true
    · rw [if_pos refused, if_pos refused]
      exact .error
    · rw [if_neg refused, if_neg refused]
      refine .bind (promotedTerm_supplied refusal operator (newOne.convertTo _)
        (newTwo.convertTo _)) fun result other supplied => ?_
      split
      · exact .ok supplied
      · exact .ok (.convert _ supplied)
  · split
    · exact shiftTerm_supplied refusal operator newOne newTwo
    · exact promotedTerm_supplied refusal operator newOne newTwo

theorem coalesceTerm_supplied (refusal : TypingError) (one : Supplied value left first)
    (two : Supplied value right second) :
    Follows (Supplied value) (catalog.coalesceTerm refusal left right)
      (catalog.coalesceTerm refusal first second) := by
  have alike := catalog.implicitly?_supplied two left.type
  unfold coalesceTerm
  rw [one.type_eq]
  split
  · exact .error
  · revert alike
    generalize catalog.implicitly? right left.type = choice
    generalize catalog.implicitly? second left.type = other
    intro alike
    cases alike with
    | none => exact .error
    | some converted => exact .ok (.coalesce one converted)

theorem concatOperands_supplied {term other : Term} (supplied : Supplied value term other) :
    List.Forall₂ (Supplied value) (concatOperands term) (concatOperands other) := by
  have whole := supplied
  cases supplied with
  | staticCall method passed =>
      unfold concatOperands
      dsimp only
      split
      · cases passed with
        | nil => exact .nil
        | cons head tail =>
            have all := List.Forall₂.cons head tail
            cases tail with
            | nil =>
                cases head with
                | newArray itemType filled => exact filled
                | _ => exact all
            | cons next rest => cases head <;> exact all
      · exact .cons whole .nil
  | _ => exact .cons whole .nil

theorem boxed_supplied {operand other : Term} (supplied : Supplied value operand other) :
    Supplied value (catalog.boxed operand) (catalog.boxed other) := by
  unfold boxed
  rw [supplied.type_eq]
  split
  · exact .convert .object supplied
  · exact supplied

theorem concatArguments_supplied {operands others : List Term}
    (supplied : List.Forall₂ (Supplied value) operands others) (allTexts : Bool) :
    List.Forall₂ (Supplied value)
      (if allTexts then operands else operands.map catalog.boxed)
      (if allTexts then others else others.map catalog.boxed) := by
  split
  · exact supplied
  · rw [List.forall₂_map_left_iff, List.forall₂_map_right_iff]
    exact supplied.imp fun _ _ => boxed_supplied

theorem concatTypes_supplied {operands others : List Term}
    (supplied : List.Forall₂ (Supplied value) operands others) (allTexts : Bool) :
    (others.map fun operand => if allTexts then operand.type else .object) =
      operands.map fun operand => if allTexts then operand.type else .object := by
  split
  · exact Term.types_supplied supplied
  · rw [List.map_const', List.map_const', supplied.length_eq]

theorem concatTerm_supplied (one : Supplied value left first)
    (two : Supplied value right second) :
    Follows (Supplied value) (catalog.concatTerm left right)
      (catalog.concatTerm first second) := by
  have operands : List.Forall₂ (Supplied value)
      (concatOperands left ++ concatOperands right)
      (concatOperands first ++ concatOperands second) :=
    List.rel_append (concatOperands_supplied one) (concatOperands_supplied two)
  have texts := congrArg (List.all · DataType.isString) (Term.types_supplied operands)
  rw [List.all_map, List.all_map] at texts
  unfold concatTerm
  dsimp only
  rw [show ((concatOperands first ++ concatOperands second).all (·.type.isString)) =
      (concatOperands left ++ concatOperands right).all (·.type.isString) from texts,
    show (fun operand : Term => if catalog.isValueType operand.type then .convert operand .object
      else operand) = catalog.boxed from rfl,
    concatTypes_supplied (concatArguments_supplied operands _)]
  split
  · split
    · rename_i method _
      refine .bind (adaptArguments_supplied method.parameters
        (concatArguments_supplied operands _)) fun all rest same => ?_
      exact .ok (.staticCall method same)
    · exact .error
  · exact .error

theorem binaryTerm_supplied (operator : BinaryOperator) (one : Supplied value left first)
    (two : Supplied value right second) :
    Follows (Supplied value) (catalog.binaryTerm operator left right)
      (catalog.binaryTerm operator first second) := by
  unfold binaryTerm
  dsimp only
  rw [one.type_eq, two.type_eq]
  split
  · refine .bind (requireImplicit_supplied one .boolean) fun test other isFirst => ?_
    refine .bind (requireImplicit_supplied two .boolean) fun next another isSecond => ?_
    exact applyBinary_supplied _ .andAlso isFirst isSecond
  · refine .bind (requireImplicit_supplied one .boolean) fun test other isFirst => ?_
    refine .bind (requireImplicit_supplied two .boolean) fun next another isSecond => ?_
    exact applyBinary_supplied _ .orElse isFirst isSecond
  · exact coalesceTerm_supplied _ one two
  · split
    · exact concatTerm_supplied one two
    · exact operatorTerm_supplied _ .add one two
  · exact operatorTerm_supplied _ _ one two

variable {operand other : Term}

theorem negatedLiteral?_supplied (inner : Supplied value operand other) :
    negatedLiteral? other = negatedLiteral? operand := by
  cases inner <;> rfl

theorem applyUnary_supplied (operator : UnaryOperator) (token : String)
    (inner : Supplied value operand other) :
    Follows (Supplied value) (catalog.applyUnary operator token operand)
      (catalog.applyUnary operator token other) := by
  unfold applyUnary
  dsimp only
  rw [inner.type_eq]
  refine .bind_same fun meaning => ?_
  split
  · exact .ok (.unary operator _ inner)
  · rename_i method
    refine .bind (adaptArguments_supplied method.parameters (.cons inner .nil))
      fun passed others supplied => ?_
    have reversed : List.Forall₂ (Supplied value) passed.reverse others.reverse :=
      List.rel_reverse supplied
    rw [List.getLast?_eq_head?_reverse, List.getLast?_eq_head?_reverse]
    revert reversed
    generalize passed.reverse = one
    generalize others.reverse = two
    intro reversed
    cases reversed with
    | nil => exact .error
    | cons same _ => exact .ok (.unaryBy method operator same)
  · exact .error

theorem unaryTerm_supplied (operator : UnaryOperator) (token : String)
    (inner : Supplied value operand other) :
    Follows (Supplied value) (catalog.unaryTerm operator token operand)
      (catalog.unaryTerm operator token other) := by
  unfold unaryTerm
  dsimp only
  rw [inner.type_eq]
  generalize ((catalog.underlying? operand.type).map DataType.ofScalar).getD operand.type =
    underlying
  have plain := inner.convertTo underlying
  have widened : Supplied value
      (widenOperand operator underlying (operand.convertTo underlying))
      (widenOperand operator underlying (other.convertTo underlying)) := by
    unfold widenOperand
    split
    · split
      · exact .convert _ plain
      · split
        · exact .convert _ plain
        · exact plain
    · exact plain
  rw [negatedLiteral?_supplied plain]
  split
  · rename_i literal negated
    split at negated
    · obtain ⟨content, rfl⟩ := negatedLiteral?_isConstant negated
      exact .ok (.constant content content.type)
    · cases negated
  · refine .bind (applyUnary_supplied operator token widened) fun result another same => ?_
    split
    · exact .ok (.convert _ same)
    · exact .ok same

theorem castTerm_supplied (name : String) (target : DataType)
    (inner : Supplied value operand other) :
    Follows (Supplied value) (catalog.castTerm name target operand)
      (catalog.castTerm name target other) := by
  unfold castTerm
  dsimp only
  rw [inner.type_eq, inner.isNull_eq]
  split
  · exact .ok inner
  · split
    · exact .ok (.constant .null target)
    · split
      · rename_i conversion _
        exact .ok (inner.apply conversion target)
      · exact .error

theorem indexTerm_supplied {target another : Term} {arguments others : List Term}
    (read : Supplied value target another)
    (passed : List.Forall₂ (Supplied value) arguments others) :
    Follows (Supplied value) (catalog.indexTerm target arguments)
      (catalog.indexTerm another others) := by
  unfold indexTerm
  rw [read.type_eq, Term.types_supplied passed]
  split
  · cases passed with
    | nil => exact .error
    | cons head tail =>
        cases tail with
        | cons next rest => exact .error
        | nil =>
            unfold arrayElement
            dsimp only
            rw [head.type_eq]
            split
            · exact .ok (.elementAt read head)
            · split
              · exact .ok (.elementAt read (.convert .int32 head))
              · split
                · exact .ok (.elementAt read (.convertBy _ .int32 head))
                · exact .error
  · dsimp only
    split
    · exact .error
    · split
      · split
        · rename_i indexer _
          refine .bind (adaptArguments_supplied indexer.parameters passed)
            fun all rest same => ?_
          exact .ok (.index indexer read same)
        · exact .error
      · exact .error
      · exact .error

theorem conditionalTerm_supplied {test check whenTrue whenFalse one two : Term}
    (tested : Supplied value test check) (first : Supplied value whenTrue one)
    (second : Supplied value whenFalse two) :
    Follows (Supplied value) (catalog.conditionalTerm test whenTrue whenFalse)
      (catalog.conditionalTerm check one two) := by
  unfold conditionalTerm
  rw [first.type_eq, second.type_eq]
  refine .bind (requireImplicit_supplied tested .boolean) fun condition other same => ?_
  split
  · exact .ok (.conditional same first second)
  · exact .error

end Catalog

end Formula
