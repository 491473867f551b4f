import Formula.Proofs.Typing.Trees

/-!
What stands at the root of a built tree: a constant, a call of a static method that was selected
for its arguments, a concatenation, or a node that no operator treats in a way of its own.
-/

namespace Formula

namespace Term

/-- Neither a constant nor a receiver nor a static call nor a new array. -/
def isPlain : Term → Bool
  | constant _ _ | parameter _ _ | staticCall _ _ | newArray _ _ => false
  | _ => true

/-- A constant is null or stands under the type of its value. -/
def Faithful (term : Term) : Prop :=
  ∀ value type, term = .constant value type → value = .null ∨ type = value.type

theorem isPlain_readMember (receiver : Option Term) (member : Member) :
    (readMember receiver member).isPlain = true := by
  unfold readMember
  split
  · rfl
  · split <;> rfl

end Term

namespace Scope

variable {scope : Scope}

/-- The roots of the trees that the builder makes. -/
inductive Root (scope : Scope) : Term → Prop
  | constant {value : Value} {type : DataType} (faithful : value = .null ∨ type = value.type) :
      Root scope (.constant value type)
  | call {owner : Option DataType} {name : String} {method : Method}
      {arguments passed : List Term}
      (selected : scope.methodOf owner name (arguments.map Term.type) true = .ok (some method))
      (roots : ∀ argument ∈ arguments, Root scope argument)
      (adapted : scope.catalog.adaptArguments method.parameters arguments = .ok passed) :
      Root scope (.staticCall method passed)
  | concat {left right term : Term} (first : Root scope left) (second : Root scope right)
      (concatenated : scope.catalog.concatTerm left right = .ok term) : Root scope term
  | other {term : Term} (plain : term.isPlain = true) : Root scope term

theorem concatTerm_staticCall {left right term : Term}
    (concatenated : scope.catalog.concatTerm left right = .ok term) :
    ∃ method passed, term = .staticCall method passed := by
  unfold Catalog.concatTerm at concatenated
  dsimp only at concatenated
  split at concatenated
  · split at concatenated
    · rw [bind_eq_ok] at concatenated
      obtain ⟨passed, _, concatenated⟩ := concatenated
      cases concatenated
      exact ⟨_, _, rfl⟩
    · cases concatenated
  · cases concatenated

theorem Root.faithful {term : Term} (root : scope.Root term) : term.Faithful := by
  intro value type isConstant
  subst isConstant
  cases root with
  | constant faithful => exact faithful
  | concat _ _ concatenated =>
      obtain ⟨method, passed, impossible⟩ := concatTerm_staticCall concatenated
      cases impossible
  | other plain => cases plain

theorem root_ofValue (value : Value) : scope.Root (.ofValue value) :=
  .constant (.inr rfl)

theorem root_nullOf (type : DataType) : scope.Root (.nullOf type) :=
  .constant (.inl rfl)

theorem root_of_apply {term : Term} (root : scope.Root term) (conversion : Conversion)
    (target : DataType) : scope.Root (conversion.apply term target) := by
  cases conversion with
  | identity | reference => exact root
  | widening | boxing | lifting | explicit | operator method => exact .other rfl

end Scope

namespace Catalog

variable {catalog : Catalog}

theorem applyBinary_plain {refusal : TypingError} {operator : BinaryOperator}
    {left right term : Term}
    (found : catalog.applyBinary refusal operator left right = .ok term) :
    term.isPlain = true := by
  unfold applyBinary at found
  rw [bind_eq_ok] at found
  obtain ⟨meaning, _, found⟩ := found
  split at found
  · cases found
    rfl
  · rw [bind_eq_ok] at found
    obtain ⟨passed, _, found⟩ := found
    split at found
    · cases found
      rfl
    · cases found
  · cases found

theorem promotedTerm_plain {refusal : TypingError} {operator : BinaryOperator}
    {left right term : Term}
    (found : catalog.promotedTerm refusal operator left right = .ok term) :
    term.isPlain = true := by
  unfold promotedTerm at found
  rw [bind_eq_ok] at found
  obtain ⟨both, _, found⟩ := found
  exact applyBinary_plain found

theorem shiftTerm_plain {refusal : TypingError} {operator : BinaryOperator}
    {left right term : Term}
    (found : catalog.shiftTerm refusal operator left right = .ok term) : term.isPlain = true := by
  unfold shiftTerm at found
  dsimp only at found
  generalize (if isSmallInteger left.type then Term.convert left .int32 else left) = operand
    at found
  generalize (if isSmallInteger right.type then Term.convert right .int32 else right) = count
    at found
  split at found
  · cases found
  · split at found
    · rw [bind_eq_ok] at found
      obtain ⟨shifted, _, found⟩ := found
      cases found
      rfl
    · exact applyBinary_plain found
    · exact applyBinary_plain found

theorem operatorTerm_plain {refusal : TypingError} {operator : BinaryOperator}
    {left right term : Term}
    (found : catalog.operatorTerm refusal operator left right = .ok term) :
    term.isPlain = true := by
  unfold operatorTerm at found
  dsimp only at found
  split at found
  · rename_i type underlying _
    unfold enumerationTerm at found
    generalize (if type == left.type then right.type else left.type) = other at found
    dsimp only at found
    by_cases refused : (left.type != right.type && other != underlying) = true
    · rw [if_pos refused] at found
      cases found
    · rw [if_neg refused, bind_eq_ok] at found
      obtain ⟨result, promoted, found⟩ := found
      split at found
      · cases found
        exact promotedTerm_plain promoted
      · cases found
        rfl
  · split at found
    · exact shiftTerm_plain found
    · exact promotedTerm_plain found

theorem coalesceTerm_plain {refusal : TypingError} {left right term : Term}
    (found : catalog.coalesceTerm refusal left right = .ok term) : term.isPlain = true := by
  unfold coalesceTerm at found
  split at found
  · cases found
  · split at found
    · cases found
      rfl
    · cases found

theorem negatedLiteral?_isConstant {operand constant : Term}
    (negated : negatedLiteral? operand = some constant) :
    ∃ value, constant = .ofValue value := by
  unfold negatedLiteral? at negated
  split at negated
  · split at negated
    · cases negated
      exact ⟨_, rfl⟩
    · split at negated
      · cases negated
        exact ⟨_, rfl⟩
      · cases negated
  · cases negated

theorem applyUnary_plain {operator : UnaryOperator} {token : String} {operand term : Term}
    (applied : catalog.applyUnary operator token operand = .ok term) : term.isPlain = true := by
  unfold applyUnary at applied
  dsimp only at applied
  rw [bind_eq_ok] at applied
  obtain ⟨meaning, _, applied⟩ := applied
  split at applied
  · cases applied
    rfl
  · rw [bind_eq_ok] at applied
    obtain ⟨passed, _, applied⟩ := applied
    split at applied
    · cases applied
      rfl
    · cases applied
  · cases applied

theorem indexTerm_plain {target : Term} {arguments : List Term} {term : Term}
    (found : catalog.indexTerm target arguments = .ok term) : term.isPlain = true := by
  unfold indexTerm arrayElement at found
  dsimp only at found
  split at found
  · split at found
    · split at found
      · cases found
        rfl
      · split at found
        · cases found
          rfl
        · split at found
          · cases found
            rfl
          · cases found
    · cases found
  · split at found
    · cases found
    · split at found
      · split at found
        · rw [bind_eq_ok] at found
          obtain ⟨passed, _, found⟩ := found
          cases found
          rfl
        · cases found
      · cases found
      · cases found

theorem conditionalTerm_plain {test whenTrue whenFalse term : Term}
    (found : catalog.conditionalTerm test whenTrue whenFalse = .ok term) :
    term.isPlain = true := by
  unfold conditionalTerm at found
  rw [bind_eq_ok] at found
  obtain ⟨_, _, found⟩ := found
  split at found
  · cases found
    rfl
  · cases found

end Catalog

namespace Scope

variable {scope : Scope}

theorem term_literal (value : Value) : scope.term (.literal value) = .ok (.ofValue value) := by
  unfold Scope.term
  rfl

theorem binaryTerm_root {operator : BinaryOperator} {left right term : Term}
    (first : scope.Root left) (second : scope.Root right)
    (found : scope.catalog.binaryTerm operator left right = .ok term) : scope.Root term := by
  unfold Catalog.binaryTerm at found
  dsimp only at found
  split at found
  · simp only [bind_eq_ok] at found
    obtain ⟨_, _, _, _, found⟩ := found
    exact .other (Catalog.applyBinary_plain found)
  · simp only [bind_eq_ok] at found
    obtain ⟨_, _, _, _, found⟩ := found
    exact .other (Catalog.applyBinary_plain found)
  · exact .other (Catalog.coalesceTerm_plain found)
  · split at found
    · exact .concat first second found
    · exact .other (Catalog.operatorTerm_plain found)
  · exact .other (Catalog.operatorTerm_plain found)

theorem unaryTerm_root {operator : UnaryOperator} {token : String} {operand term : Term}
    (found : scope.catalog.unaryTerm operator token operand = .ok term) : scope.Root term := by
  unfold Catalog.unaryTerm at found
  dsimp only at found
  split at found
  · rename_i literal negated
    cases found
    split at negated
    · obtain ⟨value, rfl⟩ := Catalog.negatedLiteral?_isConstant negated
      exact root_ofValue value
    · cases negated
  · rw [bind_eq_ok] at found
    obtain ⟨result, applied, found⟩ := found
    split at found
    · cases found
      exact .other rfl
    · cases found
      exact .other (Catalog.applyUnary_plain applied)

theorem castTerm_root {name : String} {target : DataType} {operand term : Term}
    (root : scope.Root operand)
    (found : scope.catalog.castTerm name target operand = .ok term) : scope.Root term := by
  unfold Catalog.castTerm at found
  dsimp only at found
  split at found
  · cases found
    exact root
  · split at found
    · cases found
      exact root_nullOf target
    · split at found
      · cases found
        exact root_of_apply root _ target
      · cases found

theorem referenceTerm_plain {name : String} {term : Term}
    (found : scope.referenceTerm name = .ok term) : term.isPlain = true := by
  unfold referenceTerm symbol symbol? at found
  simp only [bind_eq_ok] at found
  obtain ⟨symbol, ⟨known, isKnown, isSymbol⟩, found⟩ := found
  split at isKnown
  · cases isKnown
    cases isSymbol
    cases found
  · rw [bind_eq_ok] at isKnown
    obtain ⟨bound, _, isKnown⟩ := isKnown
    cases bound with
    | none =>
        cases isKnown
        cases isSymbol
    | some member =>
        rw [bind_eq_ok] at isKnown
        obtain ⟨receiver, _, isKnown⟩ := isKnown
        cases isKnown
        cases isSymbol
        cases found
        exact Term.isPlain_readMember receiver member

theorem memberTerm_plain {target : Symbol} {name : String} {term : Term}
    (found : scope.memberTerm target name = .ok term) : term.isPlain = true := by
  unfold memberTerm at found
  dsimp only at found
  rw [bind_eq_ok] at found
  obtain ⟨bound, _, found⟩ := found
  cases bound with
  | none => cases found
  | some member =>
      cases found
      exact Term.isPlain_readMember _ member

theorem finishCall_root {receiver : Option Term} {method : Method} {arguments : List Term}
    {term : Term} (roots : ∀ argument ∈ arguments, scope.Root argument)
    (selected : receiver = none → ∃ owner name,
      scope.methodOf owner name (arguments.map Term.type) true = .ok (some method))
    (found : scope.finishCall receiver method arguments = .ok term) : scope.Root term := by
  unfold finishCall at found
  rw [bind_eq_ok] at found
  obtain ⟨passed, adapted, found⟩ := found
  cases found
  cases receiver with
  | none =>
      obtain ⟨owner, name, isSelected⟩ := selected rfl
      exact .call isSelected roots adapted
  | some target => exact .other rfl

theorem invoke_root {callee : String} {function term : Term} {arguments : List Term}
    (roots : ∀ argument ∈ arguments, scope.Root argument)
    (found : scope.invoke callee function arguments = .ok term) : scope.Root term := by
  unfold invoke at found
  rw [bind_eq_ok] at found
  obtain ⟨bound, _, found⟩ := found
  cases bound with
  | none => cases found
  | some method =>
      refine finishCall_root roots ?_ found
      intro impossible
      cases impossible

theorem callOn_root {callee : String} {target : Symbol} {name : String}
    {arguments : List Term} {term : Term} (roots : ∀ argument ∈ arguments, scope.Root argument)
    (found : scope.callOn callee target name arguments = .ok term) : scope.Root term := by
  unfold callOn at found
  dsimp only at found
  rw [bind_eq_ok] at found
  obtain ⟨bound, _, found⟩ := found
  cases bound with
  | some member =>
      dsimp only at found
      split at found
      · exact invoke_root roots found
      · cases found
  | none =>
      rw [bind_eq_ok] at found
      obtain ⟨method?, isBound, found⟩ := found
      cases method? with
      | none => cases found
      | some method =>
          refine finishCall_root roots ?_ found
          intro isStatic
          rw [bindMethod_some] at isBound
          cases target with
          | value receiver => cases isStatic
          | type owner => exact ⟨_, _, isBound⟩

theorem callNamed_root {name : String} {arguments : List Term} {term : Term}
    (roots : ∀ argument ∈ arguments, scope.Root argument)
    (found : scope.callNamed name arguments = .ok term) : scope.Root term := by
  unfold callNamed at found
  rw [bind_eq_ok] at found
  obtain ⟨symbol?, _, found⟩ := found
  split at found
  · split at found
    · exact invoke_root roots found
    · cases found
  · cases found
  · rw [bind_eq_ok] at found
    obtain ⟨bound, isBound, found⟩ := found
    cases bound with
    | none => cases found
    | some method =>
        rw [bind_eq_ok] at found
        obtain ⟨receiver, isReceiver, found⟩ := found
        refine finishCall_root roots ?_ found
        rintro rfl
        rcases bindMethod_none isBound with ⟨target, isTarget, selected⟩ | selected
        · -- a method of the receiver is not static, so it is called on the receiver
          obtain ⟨_, _, declares⟩ := declares_of_methodOf selected
          unfold receiverFor at isReceiver
          rw [declares.1, isTarget] at isReceiver
          cases isReceiver
        · exact ⟨none, name, selected⟩

mutual

theorem term_root : ∀ (expr : Expr) {term : Term}, scope.term expr = .ok term → scope.Root term
  | .reference name, term, found => by
      unfold Scope.term at found
      exact .other (referenceTerm_plain found)
  | .literal value, term, found => by
      unfold Scope.term at found
      cases found
      exact root_ofValue value
  | .binary token left right, term, found => by
      unfold Scope.term at found
      simp only [bind_eq_ok] at found
      obtain ⟨first, isFirst, second, isSecond, found⟩ := found
      split at found
      · exact binaryTerm_root (term_root left isFirst) (term_root right isSecond) found
      · cases found
  | .unary operator token operand, term, found => by
      unfold Scope.term at found
      rw [bind_eq_ok] at found
      obtain ⟨inner, _, found⟩ := found
      exact unaryTerm_root found
  | .cast typeName operand, term, found => by
      unfold Scope.term at found
      rw [bind_eq_ok] at found
      obtain ⟨inner, isInner, found⟩ := found
      split at found
      · exact castTerm_root (term_root operand isInner) found
      · cases found
  | .call (.reference name) arguments, term, found => by
      unfold Scope.term at found
      rw [bind_eq_ok] at found
      obtain ⟨passed, arePassed, found⟩ := found
      exact callNamed_root (terms_roots arguments arePassed) found
  | .call (.member target name) arguments, term, found => by
      rw [term_call_member] at found
      simp only [bind_eq_ok] at found
      obtain ⟨passed, arePassed, symbol, _, found⟩ := found
      split at found
      · exact callOn_root (terms_roots arguments arePassed) found
      · cases found
  | .call (.literal _) _, _, found | .call (.binary _ _ _) _, _, found
  | .call (.unary _ _ _) _, _, found | .call (.cast _ _) _, _, found
  | .call (.call _ _) _, _, found | .call (.index _ _) _, _, found
  | .call (.conditional _ _ _) _, _, found | .call (.parenthesized _) _, _, found => by
      unfold Scope.term at found
      rw [bind_eq_ok] at found
      obtain ⟨_, _, impossible⟩ := found
      cases impossible
  | .index target arguments, term, found => by
      unfold Scope.term at found
      simp only [bind_eq_ok] at found
      obtain ⟨inner, _, passed, _, found⟩ := found
      exact .other (Catalog.indexTerm_plain found)
  | .member target name, term, found => by
      rw [term_member, bind_eq_ok] at found
      obtain ⟨symbol, _, found⟩ := found
      split at found
      · exact .other (memberTerm_plain found)
      · cases found
  | .conditional test whenTrue whenFalse, term, found => by
      unfold Scope.term at found
      simp only [bind_eq_ok] at found
      obtain ⟨first, _, second, _, third, _, found⟩ := found
      exact .other (Catalog.conditionalTerm_plain found)
  | .parenthesized inner, term, found => by
      unfold Scope.term at found
      exact term_root inner found

theorem terms_roots : ∀ (exprs : List Expr) {terms : List Term}, scope.terms exprs = .ok terms →
    ∀ term ∈ terms, scope.Root term
  | [], terms, found => by
      unfold Scope.terms at found
      cases found
      intro term impossible
      cases impossible
  | expr :: exprs, terms, found => by
      unfold Scope.terms at found
      simp only [bind_eq_ok] at found
      obtain ⟨first, isFirst, rest, areRest, found⟩ := found
      cases found
      intro term member
      rcases List.mem_cons.mp member with rfl | later
      · exact term_root expr isFirst
      · exact terms_roots exprs areRest term later

end

end Scope

end Formula
