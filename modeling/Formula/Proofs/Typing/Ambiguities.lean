import Formula.Proofs.Evaluation.Concatenation
import Formula.Proofs.Overload.Ties
import Formula.Proofs.Typing.Trees

/-!
Which candidates an ambiguity names. Lookups of members report it when they find several, and
choices of overloads when several are tied; indexing also reports it when no indexer takes the
arguments, and then names every indexer, which may be a single one. Nothing else reports it.
-/

namespace Formula

/-- If an ambiguity is what comes of it, it names candidates in a certain way. -/
def Names {α : Type} (fair : List String → Prop) (outcome : Typing α) : Prop :=
  ∀ lines, outcome = .error (.ambiguous lines) → fair lines

namespace Names

variable {α β : Type} {fair : List String → Prop}

theorem ok (value : α) : Names fair (.ok value : Typing α) :=
  fun _ impossible => by cases impossible

theorem pure (value : α) : Names fair (Pure.pure value : Typing α) :=
  ok value

theorem other {error : TypingError} (different : ∀ lines, error ≠ .ambiguous lines) :
    Names fair (.error error : Typing α) :=
  fun lines same => absurd (Except.error.inj same) (different lines)

theorem throw {error : TypingError} (different : ∀ lines, error ≠ .ambiguous lines) :
    Names fair (MonadExcept.throw error : Typing α) :=
  other different

theorem bind {first : Typing α} {next : α → Typing β} (names : Names fair first)
    (further : ∀ value, first = .ok value → Names fair (next value)) :
    Names fair (first >>= next) := by
  cases first with
  | error error =>
      intro lines same
      cases same
      exact names _ rfl
  | ok value => exact further value rfl

theorem map {first : Typing α} {change : α → β} (names : Names fair first) :
    Names fair (change <$> first) := by
  cases first with
  | error error =>
      intro lines same
      cases same
      exact names _ rfl
  | ok value => exact ok _

theorem mapM {step : α → Typing β} {items : List α}
    (each : ∀ item ∈ items, Names fair (step item)) : Names fair (items.mapM step) := by
  induction items with
  | nil =>
      rw [List.mapM_nil]
      exact pure []
  | cons item items ih =>
      rw [List.mapM_cons]
      refine bind (each item (List.mem_cons_self ..)) fun first _ => ?_
      refine bind (ih fun item member => each item (List.mem_cons_of_mem _ member)) fun rest _ => ?_
      exact pure _

theorem mono {outcome : Typing α} {wider : List String → Prop} (names : Names fair outcome)
    (within : ∀ lines, fair lines → wider lines) : Names wider outcome :=
  fun lines same => within lines (names lines same)

end Names

def Several (lines : List String) : Prop :=
  2 ≤ lines.length

theorem Names.ambiguousAmong {α : Type} {fair : List String → Prop} {lines : List String}
    (holds : ∀ sorted : List String, sorted.length = lines.length → fair sorted) :
    Names fair (.error (.ambiguousAmong lines) : Typing α) := by
  intro sorted same
  unfold TypingError.ambiguousAmong at same
  cases same
  exact holds _ (List.length_mergeSort lines)

namespace Catalog

variable {catalog : Catalog} {fair : List String → Prop}

/-! ### Choices of overloads -/

theorem length_tiedLines (graded : catalog.Graded) {α : Type} {items : List α}
    {signature : α → Signature} {line : α → String} {arguments : List DataType}
    {tied : List Nat}
    (outcome : catalog.resolve (items.map signature) arguments = .ambiguous tied) :
    2 ≤ (tied.filterMap fun index => items[index]?.map line).length := by
  have tie := graded.isTie outcome
  have all : ∀ index ∈ tied, (items[index]?.map line).isSome = true := by
    intro index listed
    obtain ⟨candidate, rfl, applies, _⟩ := tie.unbeaten index listed
    have found := applies.1
    rw [List.getElem?_map, Option.map_eq_some_iff] at found
    obtain ⟨item, isItem, _⟩ := found
    rw [isItem]
    rfl
  rw [List.length_filterMap_eq_countP, List.countP_eq_length.mpr all]
  exact tie.several

theorem names_selectMethod (graded : catalog.Graded) {methods : List Method}
    {arguments : List DataType} : Names Several (catalog.selectMethod methods arguments) := by
  unfold selectMethod
  split
  · exact .ok _
  · exact .ok _
  · rename_i tied outcome
    refine .ambiguousAmong fun sorted same => ?_
    unfold Several
    rw [same]
    exact length_tiedLines graded outcome

theorem names_declaredOperator (graded : catalog.Graded) {name : String}
    {operands : List DataType} : Names Several (catalog.declaredOperator name operands) :=
  names_selectMethod graded

theorem names_resolveBinary (graded : catalog.Graded) {operator : BinaryOperator}
    {left right : DataType} : Names Several (catalog.resolveBinary operator left right) := by
  unfold resolveBinary
  dsimp only
  split
  · refine .bind (names_declaredOperator graded) fun declared _ => ?_
    split <;> exact .pure _
  · exact .pure _

theorem names_resolveUnary (graded : catalog.Graded) {operator : UnaryOperator}
    {operand : DataType} : Names Several (catalog.resolveUnary operator operand) := by
  unfold resolveUnary
  refine .bind (names_declaredOperator graded) fun declared _ => ?_
  split <;> exact .pure _

/-! ### Arguments -/

theorem names_passArgument {target : DataType} {term : Term} :
    Names fair (catalog.passArgument target term) := by
  unfold passArgument
  split
  · exact .ok _
  · split
    · exact .ok _
    · exact .other fun _ => TypingError.noConfusion

theorem names_requireImplicit {target : DataType} {term : Term} :
    Names fair (catalog.requireImplicit term target) := by
  unfold requireImplicit
  split
  · exact .ok _
  · exact .other fun _ => TypingError.noConfusion

theorem names_omittedArgument {parameter : Parameter} :
    Names fair (catalog.omittedArgument parameter) := by
  unfold omittedArgument
  split
  · exact .ok _
  · exact names_passArgument
  · split
    · exact .ok _
    · exact .other fun _ => TypingError.noConfusion

theorem names_passAll {parameters : List Parameter} :
    ∀ {arguments : List Term}, Names fair (catalog.passAll parameters arguments) := by
  induction parameters with
  | nil =>
      intro arguments
      unfold passAll
      exact .ok _
  | cons parameter parameters ih =>
      intro arguments
      cases arguments with
      | nil =>
          unfold passAll
          exact .bind names_omittedArgument fun _ _ => .bind ih fun _ _ => .pure _
      | cons argument arguments =>
          unfold passAll
          exact .bind names_passArgument fun _ _ => .bind ih fun _ _ => .pure _

theorem names_adaptArguments {parameters : List Parameter} {arguments : List Term} :
    Names fair (catalog.adaptArguments parameters arguments) := by
  unfold adaptArguments
  split
  · exact .other fun _ => TypingError.noConfusion
  · exact names_passAll
  · exact .bind names_passAll fun _ _ =>
      .bind (.mapM fun _ _ => names_passArgument) fun _ _ => .pure _

/-! ### Operators -/

theorem names_applyBinary (graded : catalog.Graded) {refusal : TypingError}
    (refuses : ∀ lines, refusal ≠ .ambiguous lines) {operator : BinaryOperator}
    {left right : Term} : Names Several (catalog.applyBinary refusal operator left right) := by
  unfold applyBinary
  refine .bind (names_resolveBinary graded) fun meaning _ => ?_
  split
  · exact .pure _
  · refine .bind names_adaptArguments fun passed _ => ?_
    split
    · exact .pure _
    · exact .other refuses
  · exact .other refuses

theorem names_shiftTerm (graded : catalog.Graded) {refusal : TypingError}
    (refuses : ∀ lines, refusal ≠ .ambiguous lines) {operator : BinaryOperator}
    {left right : Term} : Names Several (catalog.shiftTerm refusal operator left right) := by
  unfold shiftTerm
  dsimp only
  generalize (if isSmallInteger left.type then Term.convert left .int32 else left) = operand
  generalize (if isSmallInteger right.type then Term.convert right .int32 else right) = count
  split
  · exact .bind (.throw refuses) fun impossible _ => nomatch impossible
  · split
    · exact .bind (names_applyBinary graded refuses) fun _ _ => .pure _
    · exact names_applyBinary graded refuses
    · exact names_applyBinary graded refuses

theorem names_promoteBoth {refusal : TypingError}
    (refuses : ∀ lines, refusal ≠ .ambiguous lines) {left right : Term} :
    Names fair (promoteBoth refusal left right) := by
  unfold promoteBoth
  split
  · split
    · split
      · exact .ok _
      · exact .other refuses
    · exact .ok _
  · exact .ok _

theorem names_promotedTerm (graded : catalog.Graded) {refusal : TypingError}
    (refuses : ∀ lines, refusal ≠ .ambiguous lines) {operator : BinaryOperator}
    {left right : Term} : Names Several (catalog.promotedTerm refusal operator left right) :=
  .bind (names_promoteBoth refuses) fun _ _ => names_applyBinary graded refuses

theorem names_enumerationTerm (graded : catalog.Graded) {refusal : TypingError}
    (refuses : ∀ lines, refusal ≠ .ambiguous lines) {operator : BinaryOperator}
    {type underlying leftType rightType : DataType} {left right : Term} :
    Names Several (catalog.enumerationTerm refusal operator type underlying leftType rightType
      left right) := by
  unfold enumerationTerm
  dsimp only
  generalize (if type == leftType then rightType else leftType) = other
  split
  · exact .bind (.throw refuses) fun impossible _ => nomatch impossible
  · refine .bind (names_promotedTerm graded refuses) fun _ _ => ?_
    split <;> exact .pure _

theorem names_operatorTerm (graded : catalog.Graded) {refusal : TypingError}
    (refuses : ∀ lines, refusal ≠ .ambiguous lines) {operator : BinaryOperator}
    {left right : Term} : Names Several (catalog.operatorTerm refusal operator left right) := by
  unfold operatorTerm
  dsimp only
  split
  · exact names_enumerationTerm graded refuses
  · split
    · exact names_shiftTerm graded refuses
    · exact names_promotedTerm graded refuses

theorem names_coalesceTerm {refusal : TypingError}
    (refuses : ∀ lines, refusal ≠ .ambiguous lines) {left right : Term} :
    Names fair (catalog.coalesceTerm refusal left right) := by
  unfold coalesceTerm
  split
  · exact .other refuses
  · split
    · exact .ok _
    · exact .other refuses

theorem names_concatTerm {left right : Term} : Names fair (catalog.concatTerm left right) := by
  have unresolved : ∀ lines, TypingError.methodUnresolved ("String." ++ concatName) ≠
      .ambiguous lines := fun _ => TypingError.noConfusion
  unfold concatTerm
  dsimp only
  split
  · split
    · exact .bind names_adaptArguments fun _ _ => .pure _
    · exact .throw unresolved
  · exact .throw unresolved

theorem names_binaryTerm (graded : catalog.Graded) {operator : BinaryOperator}
    {left right : Term} : Names Several (catalog.binaryTerm operator left right) := by
  have refuses : ∀ lines, TypingError.binaryOperator operator.token
      (catalog.qualifiedName left.type) (catalog.qualifiedName right.type) ≠ .ambiguous lines :=
    fun _ => TypingError.noConfusion
  unfold binaryTerm
  dsimp only
  split
  · exact .bind names_requireImplicit fun _ _ => .bind names_requireImplicit fun _ _ =>
      names_applyBinary graded refuses
  · exact .bind names_requireImplicit fun _ _ => .bind names_requireImplicit fun _ _ =>
      names_applyBinary graded refuses
  · exact names_coalesceTerm refuses
  · split
    · exact names_concatTerm
    · exact names_operatorTerm graded refuses
  · exact names_operatorTerm graded refuses

theorem names_applyUnary (graded : catalog.Graded) {operator : UnaryOperator} {token : String}
    {operand : Term} : Names Several (catalog.applyUnary operator token operand) := by
  have refuses : ∀ lines, TypingError.unaryOperator token (catalog.qualifiedName operand.type) ≠
      .ambiguous lines := fun _ => TypingError.noConfusion
  unfold applyUnary
  refine .bind (names_resolveUnary graded) fun meaning _ => ?_
  split
  · exact .pure _
  · refine .bind names_adaptArguments fun passed _ => ?_
    split
    · exact .pure _
    · exact .throw refuses
  · exact .throw refuses

theorem names_unaryTerm (graded : catalog.Graded) {operator : UnaryOperator} {token : String}
    {operand : Term} : Names Several (catalog.unaryTerm operator token operand) := by
  unfold unaryTerm
  dsimp only
  generalize (if operator = .negate then negatedLiteral? _ else none) = literal
  split
  · exact .pure _
  · refine .bind (names_applyUnary graded) fun _ _ => ?_
    split <;> exact .pure _

theorem names_castTerm {name : String} {target : DataType} {operand : Term} :
    Names fair (catalog.castTerm name target operand) := by
  unfold castTerm
  dsimp only
  split
  · exact .ok _
  · split
    · exact .ok _
    · split
      · exact .ok _
      · exact .other fun _ => TypingError.noConfusion

theorem names_conditionalTerm {test whenTrue whenFalse : Term} :
    Names fair (catalog.conditionalTerm test whenTrue whenFalse) := by
  unfold conditionalTerm
  refine .bind names_requireImplicit fun _ _ => ?_
  split
  · exact .pure _
  · exact .throw fun _ => TypingError.noConfusion

/-! ### Indexing -/

/-- None of the indexers of a type takes the arguments, and the lines are those of all. -/
def NamesIndexers (catalog : Catalog) (type : DataType) (arguments : List DataType)
    (lines : List String) : Prop :=
  catalog.indexers type ≠ [] ∧
    catalog.resolve ((catalog.indexers type).map Member.signature) arguments = .noMatch ∧
    TypingError.ambiguousAmong ((catalog.indexers type).map catalog.memberLine) =
      .ambiguous lines

theorem names_arrayElement {array : Term} {arguments : List Term} :
    Names fair (catalog.arrayElement array arguments) := by
  unfold arrayElement
  split
  · dsimp only
    split
    · exact .ok _
    · split
      · exact .ok _
      · split
        · exact .ok _
        · exact .other fun _ => TypingError.noConfusion
  · exact .other fun _ => TypingError.noConfusion

theorem names_indexTerm (graded : catalog.Graded) {target : Term} {arguments : List Term} :
    Names (fun lines => Several lines ∨
      catalog.NamesIndexers target.type (arguments.map Term.type) lines)
      (catalog.indexTerm target arguments) := by
  unfold indexTerm
  split
  · exact names_arrayElement
  · dsimp only
    split
    · exact .other fun _ => TypingError.noConfusion
    · rename_i present
      split
      · split
        · exact .bind names_adaptArguments fun _ _ => .pure _
        · exact .other fun _ => TypingError.noConfusion
      · rename_i noMatch
        intro lines same
        refine .inr ⟨?_, noMatch, Except.error.inj same⟩
        rintro empty
        rw [empty] at present
        exact present rfl
      · rename_i tied outcome
        refine .ambiguousAmong fun sorted same => .inl ?_
        unfold Several
        rw [same]
        exact length_tiedLines graded outcome

end Catalog

namespace Scope

variable {scope : Scope} {fair : List String → Prop}

/-! ### Names -/

theorem names_memberOf {owner : Option DataType} {name : String} {isStatic : Bool} :
    Names Several (scope.memberOf owner name isStatic) := by
  unfold memberOf
  generalize ((scope.owners owner).flatMap fun owner =>
    scope.catalog.members owner name isStatic) = members
  match members with
  | [] => exact .ok _
  | [_] => exact .ok _
  | first :: second :: rest =>
      refine .ambiguousAmong fun sorted same => ?_
      unfold Several
      rw [same, List.length_map]
      exact Nat.le_add_left 2 rest.length

theorem names_bindMember {owner : Option DataType} {name : String} {isStatic : Bool} :
    Names Several (scope.bindMember owner name isStatic) := by
  unfold bindMember
  dsimp only
  split
  · refine .bind names_memberOf fun own _ => ?_
    split
    · exact .pure _
    · exact names_memberOf
  · exact names_memberOf

theorem names_methodOf (graded : scope.catalog.Graded) {owner : Option DataType} {name : String}
    {arguments : List DataType} {isStatic : Bool} :
    Names Several (scope.methodOf owner name arguments isStatic) :=
  Catalog.names_selectMethod graded

theorem names_bindMethod (graded : scope.catalog.Graded) {owner : Option DataType} {name : String}
    {arguments : List DataType} {isStatic : Bool} :
    Names Several (scope.bindMethod owner name arguments isStatic) := by
  unfold bindMethod
  dsimp only
  split
  · refine .bind (names_methodOf graded) fun own _ => ?_
    split
    · exact .pure _
    · exact names_methodOf graded
  · exact names_methodOf graded

theorem names_receiverFor {isStatic : Bool} {name : String} :
    Names fair (scope.receiverFor isStatic name) := by
  unfold receiverFor
  split
  · exact .ok _
  · split
    · exact .ok _
    · exact .other fun _ => TypingError.noConfusion

theorem names_symbol? {name : String} : Names Several (scope.symbol? name) := by
  unfold symbol?
  split
  · exact .pure _
  · refine .bind names_bindMember fun member _ => ?_
    split
    · exact .pure _
    · exact .bind names_receiverFor fun _ _ => .pure _

theorem names_symbol {name : String} : Names Several (scope.symbol name) := by
  unfold symbol
  refine .bind names_symbol? fun symbol _ => ?_
  split
  · exact .pure _
  · exact .throw fun _ => TypingError.noConfusion

theorem names_referenceTerm {name : String} : Names Several (scope.referenceTerm name) := by
  unfold referenceTerm
  refine .bind names_symbol fun symbol _ => ?_
  split
  · exact .pure _
  · exact .throw fun _ => TypingError.noConfusion

theorem names_memberTerm {target : Symbol} {name : String} :
    Names Several (scope.memberTerm target name) := by
  unfold memberTerm
  refine .bind names_bindMember fun member _ => ?_
  split
  · exact .pure _
  · exact .throw fun _ => TypingError.noConfusion

theorem names_finishCall {receiver : Option Term} {method : Method} {arguments : List Term} :
    Names fair (scope.finishCall receiver method arguments) :=
  .bind Catalog.names_adaptArguments fun _ _ => .pure _

theorem names_invoke (graded : scope.catalog.Graded) {callee : String} {function : Term}
    {arguments : List Term} : Names Several (scope.invoke callee function arguments) := by
  unfold invoke
  refine .bind (names_bindMethod graded) fun method _ => ?_
  split
  · exact names_finishCall
  · exact .throw fun _ => TypingError.noConfusion

theorem names_callOn (graded : scope.catalog.Graded) {callee : String} {target : Symbol}
    {name : String} {arguments : List Term} :
    Names Several (scope.callOn callee target name arguments) := by
  unfold callOn
  refine .bind names_bindMember fun member _ => ?_
  split
  · split
    · exact names_invoke graded
    · exact .throw fun _ => TypingError.noConfusion
  · refine .bind (names_bindMethod graded) fun method _ => ?_
    split
    · exact names_finishCall
    · exact .throw fun _ => TypingError.noConfusion

theorem names_callNamed (graded : scope.catalog.Graded) {name : String} {arguments : List Term} :
    Names Several (scope.callNamed name arguments) := by
  unfold callNamed
  refine .bind names_symbol? fun symbol _ => ?_
  split
  · split
    · exact names_invoke graded
    · exact .throw fun _ => TypingError.noConfusion
  · exact .throw fun _ => TypingError.noConfusion
  · refine .bind (names_bindMethod graded) fun method _ => ?_
    split
    · exact .bind names_receiverFor fun _ _ => names_finishCall
    · exact .throw fun _ => TypingError.noConfusion

end Scope

/-! ### Expressions -/

namespace Expr

def children : Expr → List Expr
  | reference _ | literal _ => []
  | unary _ _ operand | cast _ operand | parenthesized operand => [operand]
  | binary _ left right | member left right => [left, right]
  | call target arguments | index target arguments => target :: arguments
  | conditional test whenTrue whenFalse => [test, whenTrue, whenFalse]

/-- An expression is the whole of another one or stands somewhere in it. -/
inductive Within (part : Expr) : Expr → Prop
  | whole : Within part part
  | inside {expr child : Expr} (member : child ∈ expr.children) (within : Within part child) :
      Within part expr

end Expr

namespace Scope

variable {scope : Scope}

/-- The lines are those of two candidates at least, or of all indexers of a value that is indexed
somewhere in the expression by arguments which none of them takes. -/
def NamesTied (scope : Scope) (expr : Expr) (lines : List String) : Prop :=
  Several lines ∨ ∃ target arguments object passed,
    (Expr.index target arguments).Within expr ∧ scope.term target = .ok object ∧
      scope.terms arguments = .ok passed ∧
      scope.catalog.NamesIndexers object.type (passed.map Term.type) lines

theorem NamesTied.inside {expr child : Expr} {lines : List String}
    (names : scope.NamesTied child lines) (member : child ∈ expr.children) :
    scope.NamesTied expr lines := by
  rcases names with several | ⟨target, arguments, object, passed, within, rest⟩
  · exact .inl several
  · exact .inr ⟨target, arguments, object, passed, .inside member within, rest⟩

theorem names_tied {α : Type} {outcome : Typing α} {expr : Expr}
    (names : Names Several outcome) : Names (scope.NamesTied expr) outcome :=
  names.mono fun _ => .inl

theorem names_targetSymbol {target : Expr}
    (names : Names (scope.NamesTied target) (scope.term target)) :
    Names (scope.NamesTied target) (scope.targetSymbol target) := by
  unfold targetSymbol
  split
  · exact names_tied names_symbol
  · exact names.map

mutual

/-- An ambiguity that the builder reports is one between two candidates at least, or says that no
indexer of a value takes the arguments it is indexed by. -/
theorem names_term (graded : scope.catalog.Graded) :
    ∀ expr : Expr, Names (scope.NamesTied expr) (scope.term expr)
  | .reference name => by
      unfold term
      exact names_tied names_referenceTerm
  | .literal value => by
      unfold term
      exact .ok _
  | .binary token left right => by
      unfold term
      refine .bind ((names_term graded left).mono fun _ names => names.inside (by
        simp [Expr.children])) fun first _ => ?_
      refine .bind ((names_term graded right).mono fun _ names => names.inside (by
        simp [Expr.children])) fun second _ => ?_
      split
      · exact names_tied (Catalog.names_binaryTerm graded)
      · exact .throw fun _ => TypingError.noConfusion
  | .unary operator token operand => by
      unfold term
      refine .bind ((names_term graded operand).mono fun _ names => names.inside (by
        simp [Expr.children])) fun inner _ => ?_
      exact names_tied (Catalog.names_unaryTerm graded)
  | .cast typeName operand => by
      unfold term
      refine .bind ((names_term graded operand).mono fun _ names => names.inside (by
        simp [Expr.children])) fun inner _ => ?_
      split
      · exact Catalog.names_castTerm
      · exact .throw fun _ => TypingError.noConfusion
  | .call callee arguments => by
      have passed := (names_terms graded arguments).mono fun lines found =>
        show scope.NamesTied (.call callee arguments) lines by
          obtain ⟨argument, member, names⟩ := found
          exact names.inside (List.mem_cons_of_mem _ member)
      cases callee with
      | reference name =>
          unfold term
          exact .bind passed fun _ _ => names_tied (names_callNamed graded)
      | member target member =>
          rw [term_call_member]
          refine .bind passed fun _ _ => .bind ((names_targetSymbol
            (names_term graded target)).mono fun lines names => ?_) fun symbol _ => ?_
          · have inCallee : scope.NamesTied (.member target member) lines :=
              names.inside (List.mem_cons_self ..)
            exact inCallee.inside (List.mem_cons_self ..)
          · split
            · exact names_tied (names_callOn graded)
            · exact .throw fun _ => TypingError.noConfusion
      | _ =>
          unfold term
          exact .bind passed fun _ _ => .throw fun _ => TypingError.noConfusion
  | .index target arguments => by
      unfold term
      refine .bind ((names_term graded target).mono fun _ names => names.inside
        (List.mem_cons_self ..)) fun object isObject => ?_
      refine .bind ((names_terms graded arguments).mono fun _ found => ?_) fun passed arePassed => ?_
      · obtain ⟨argument, member, names⟩ := found
        exact names.inside (List.mem_cons_of_mem _ member)
      · refine (Catalog.names_indexTerm graded).mono fun lines names => ?_
        rcases names with several | indexers
        · exact .inl several
        · exact .inr ⟨target, arguments, object, passed, .whole, isObject, arePassed, indexers⟩
  | .member target member => by
      rw [term_member]
      refine .bind ((names_targetSymbol (names_term graded target)).mono fun _ names =>
        names.inside (List.mem_cons_self ..)) fun symbol _ => ?_
      split
      · exact names_tied names_memberTerm
      · exact .throw fun _ => TypingError.noConfusion
  | .conditional test whenTrue whenFalse => by
      unfold term
      refine .bind ((names_term graded test).mono fun _ names => names.inside (by
        simp [Expr.children])) fun first _ => ?_
      refine .bind ((names_term graded whenTrue).mono fun _ names => names.inside (by
        simp [Expr.children])) fun second _ => ?_
      refine .bind ((names_term graded whenFalse).mono fun _ names => names.inside (by
        simp [Expr.children])) fun third _ => ?_
      exact Catalog.names_conditionalTerm
  | .parenthesized inner => by
      unfold term
      exact (names_term graded inner).mono fun _ names => names.inside (List.mem_cons_self ..)

theorem names_terms (graded : scope.catalog.Graded) :
    ∀ exprs : List Expr, Names (fun lines => ∃ expr ∈ exprs, scope.NamesTied expr lines)
      (scope.terms exprs)
  | [] => by
      unfold terms
      exact .ok _
  | expr :: exprs => by
      unfold terms
      refine .bind ((names_term graded expr).mono fun _ names =>
        ⟨expr, List.mem_cons_self .., names⟩) fun first _ => ?_
      refine .bind ((names_terms graded exprs).mono fun _ found => ?_) fun rest _ => .pure _
      obtain ⟨other, member, names⟩ := found
      exact ⟨other, List.mem_cons_of_mem _ member, names⟩

end

/-- Where the hierarchy is graded, a choice of an overload that stays open is a tie, and the
builder reports no other ambiguity than one between several candidates or among the indexers of
which none takes the arguments. -/
theorem ambiguities_tie (graded : scope.catalog.Graded) :
    (∀ candidates arguments indices,
      scope.catalog.resolve candidates arguments = .ambiguous indices →
        scope.catalog.IsTie candidates arguments indices) ∧
      ∀ expr lines, scope.term expr = .error (.ambiguous lines) → scope.NamesTied expr lines :=
  ⟨fun _ _ _ outcome => graded.isTie outcome, names_term graded⟩

/-! ### Ties in the library -/

theorem graded_onLibrary : onLibrary.catalog.Graded :=
  .of_bare
    { root := by decide +kernel
      interfaces := by decide +kernel
      ends := by decide +kernel }
    (by decide +kernel) (by decide +kernel)

/-- Methods of which each has the wider type at another place. -/
def crossed : List Signature :=
  [ ⟨[.of "left" .int32, .of "right" (.ofScalar (.integer .int64))], .math⟩,
    ⟨[.of "left" (.ofScalar (.integer .int64)), .of "right" .int32], .math⟩ ]

def misindexed : Expr :=
  .index (.literal (.text (.given 0) "abc")) [.literal (.text (.given 1) "x")]

/-- A tie between two methods, and a text that is indexed by a text. -/
theorem ambiguities_tie_library :
    onLibrary.catalog.IsTie crossed [.int32, .int32] [0, 1] ∧
      ∃ lines, onLibrary.term misindexed = .error (.ambiguous lines) ∧
        onLibrary.NamesTied misindexed lines := by
  have tied : onLibrary.catalog.resolve crossed [.int32, .int32] = .ambiguous [0, 1] := by
    decide +kernel
  have built : onLibrary.term misindexed =
      .error (.ambiguous ["Char Chars [Int32] (in System.String)"]) :=
    cause?_eq_some.mp (by decide +kernel)
  obtain ⟨ties, names⟩ := ambiguities_tie graded_onLibrary
  exact ⟨ties _ _ _ tied, _, built, names _ _ built⟩

end Scope

namespace Catalog

/-! ### Ambiguities that are no ties -/

/-- A choice between methods of one parameter each. -/
structure Choice where
  types : List (TypeId × TypeKind × Option TypeId × List TypeId)
  parameters : List DataType
  argument : DataType

namespace Choice

def catalog (choice : Choice) : Catalog :=
  ⟨choice.types.map fun (id, kind, base, interfaces) =>
    { id, name := "", namespaceName := "App", kind, base, interfaces }⟩

def outcome (choice : Choice) : Resolution :=
  choice.catalog.resolve (choice.parameters.map fun type => ⟨[.of "p" type], .none⟩)
    [choice.argument]

end Choice

/-- An interface with a base; a root that lists a structure as an interface; a type with more
bases than a walk meets; a scalar that lists another one as an interface; and one that lists an
interface which a scalar that it widens to does not list. -/
def lopsided : List Choice :=
  [ { types := [(⟨1⟩, .interfaceType, none, []), (⟨2⟩, .interfaceType, some ⟨1⟩, []),
        (⟨3⟩, .classType, none, [⟨2⟩]), (⟨4⟩, .classType, some ⟨3⟩, [⟨1⟩])]
      parameters := [.plain ⟨3⟩, .plain ⟨2⟩, .plain ⟨1⟩]
      argument := .plain ⟨4⟩ },
    { types := [(⟨1⟩, .structType, none, []), (.object, .classType, none, [⟨1⟩]),
        (⟨2⟩, .classType, none, []), (⟨3⟩, .classType, some ⟨2⟩, [⟨1⟩])]
      parameters := [(DataType.plain ⟨2⟩).arrayOf, DataType.object.arrayOf,
        (DataType.plain ⟨1⟩).arrayOf]
      argument := (DataType.plain ⟨3⟩).arrayOf },
    { types := (⟨0⟩, .classType, none, []) :: ((List.range 65).map fun above =>
        (⟨.ofNat (above + 1)⟩, .classType, some ⟨.ofNat above⟩, [])) ++
        [(⟨66⟩, .classType, some ⟨65⟩, [⟨0⟩])]
      parameters := [.plain ⟨65⟩, .plain ⟨30⟩, .plain ⟨0⟩]
      argument := .plain ⟨66⟩ },
    { types := [(.ofScalar (.integer .int64), .scalar (.integer .int64), none, []),
        (.ofScalar (.integer .int16), .scalar (.integer .int16), none,
          [.ofScalar (.integer .int64)])]
      parameters := [.orNull (.ofScalar (.integer .int16)), .ofScalar (.integer .int64),
        .ofScalar .double]
      argument := .ofScalar (.integer .int16) },
    { types := [(⟨1⟩, .interfaceType, none, []),
        (.ofScalar (.integer .int64), .scalar (.integer .int64), none, [⟨1⟩]),
        (.ofScalar (.integer .int16), .scalar (.integer .int16), none, [⟨1⟩])]
      parameters := [.int32, .ofScalar (.integer .int64), .plain ⟨1⟩]
      argument := .ofScalar (.integer .int16) } ]

/-- Without cycles among the links, a choice may still stay open with a single candidate left, and
so may the indexer of a type that has only one. -/
theorem single_ambiguities :
    (∀ choice ∈ lopsided, choice.catalog.Acyclic ∧ choice.outcome = .ambiguous [0]) ∧
      ∃ line, Scope.onLibrary.term Scope.misindexed = .error (.ambiguous [line]) := by
  refine ⟨fun choice listed => ⟨.of_order (choice.types.map Prod.fst) ?_, ?_⟩, ?_⟩
  · have descend : ∀ choice ∈ lopsided, ∀ entry ∈ choice.catalog.entries,
        ∀ parent ∈ entry.base.toList ++ entry.interfaces,
          (choice.types.map Prod.fst).idxOf parent <
            (choice.types.map Prod.fst).idxOf entry.id := by
      decide +kernel
    exact descend choice listed
  · have single : ∀ choice ∈ lopsided, choice.outcome = .ambiguous [0] := by
      decide +kernel
    exact single choice listed
  · exact ⟨"Char Chars [Int32] (in System.String)", cause?_eq_some.mp (by decide +kernel)⟩

end Catalog

end Formula
