import Formula.Proofs.Typing.Roots

/-!
Where null stands in a built tree as a constant: what a null literal is, or what a cast makes of
one. Every other node is something else, whatever its operands are.
-/

namespace Formula

namespace Term

theorem isNull_of_isPlain {term : Term} (plain : term.isPlain = true) : term.isNull = false := by
  cases term with
  | constant value type => cases plain
  | _ => rfl

end Term

namespace Scope

variable {scope : Scope}

theorem finishCall_isNull {receiver : Option Term} {method : Method} {arguments : List Term}
    {term : Term} (found : scope.finishCall receiver method arguments = .ok term) :
    term.isNull = false := by
  unfold finishCall at found
  rw [bind_eq_ok] at found
  obtain ⟨passed, _, found⟩ := found
  cases found
  cases receiver with
  | none => rfl
  | some target => rfl

theorem invoke_isNull {callee : String} {function term : Term} {arguments : List Term}
    (found : scope.invoke callee function arguments = .ok term) : term.isNull = false := by
  unfold invoke at found
  rw [bind_eq_ok] at found
  obtain ⟨bound, _, found⟩ := found
  cases bound with
  | none => cases found
  | some method => exact finishCall_isNull found

theorem callOn_isNull {callee : String} {target : Symbol} {name : String}
    {arguments : List Term} {term : Term}
    (found : scope.callOn callee target name arguments = .ok term) : term.isNull = false := by
  unfold callOn at found
  dsimp only at found
  rw [bind_eq_ok] at found
  obtain ⟨bound, _, found⟩ := found
  cases bound with
  | some member =>
      dsimp only at found
      split at found
      · exact invoke_isNull found
      · cases found
  | none =>
      rw [bind_eq_ok] at found
      obtain ⟨method?, _, found⟩ := found
      cases method? with
      | none => cases found
      | some method => exact finishCall_isNull found

theorem callNamed_isNull {name : String} {arguments : List Term} {term : Term}
    (found : scope.callNamed name arguments = .ok term) : term.isNull = false := by
  unfold callNamed at found
  rw [bind_eq_ok] at found
  obtain ⟨symbol?, _, found⟩ := found
  split at found
  · split at found
    · exact invoke_isNull found
    · cases found
  · cases found
  · rw [bind_eq_ok] at found
    obtain ⟨bound, _, found⟩ := found
    cases bound with
    | none => cases found
    | some method =>
        rw [bind_eq_ok] at found
        obtain ⟨receiver, _, found⟩ := found
        exact finishCall_isNull found

theorem binaryTerm_isNull {operator : BinaryOperator} {left right term : Term}
    (found : scope.catalog.binaryTerm operator left right = .ok term) : term.isNull = false := by
  unfold Catalog.binaryTerm at found
  dsimp only at found
  split at found
  · simp only [bind_eq_ok] at found
    obtain ⟨_, _, _, _, found⟩ := found
    exact Term.isNull_of_isPlain (Catalog.applyBinary_plain found)
  · simp only [bind_eq_ok] at found
    obtain ⟨_, _, _, _, found⟩ := found
    exact Term.isNull_of_isPlain (Catalog.applyBinary_plain found)
  · exact Term.isNull_of_isPlain (Catalog.coalesceTerm_plain found)
  · split at found
    · obtain ⟨method, passed, rfl⟩ := concatTerm_staticCall found
      rfl
    · exact Term.isNull_of_isPlain (Catalog.operatorTerm_plain found)
  · exact Term.isNull_of_isPlain (Catalog.operatorTerm_plain found)

theorem unaryTerm_isNull {operator : UnaryOperator} {token : String} {operand term : Term}
    (found : scope.catalog.unaryTerm operator token operand = .ok term) :
    term.isNull = false := by
  unfold Catalog.unaryTerm at found
  dsimp only at found
  split at found
  · rename_i literal negated
    cases found
    split at negated
    · unfold Catalog.negatedLiteral? at negated
      split at negated
      · split at negated
        · cases negated
          rfl
        · split at negated
          · cases negated
            rfl
          · cases negated
      · cases negated
    · cases negated
  · rw [bind_eq_ok] at found
    obtain ⟨result, applied, found⟩ := found
    split at found
    · cases found
      rfl
    · cases found
      exact Term.isNull_of_isPlain (Catalog.applyUnary_plain applied)

theorem castTerm_isNull {fits : DataType → Prop} {name : String} {target : DataType}
    {operand term : Term} (outer : scope.catalog.acceptsNull target = true → fits target)
    (inner : operand.isNull = true → fits operand.type)
    (found : scope.catalog.castTerm name target operand = .ok term)
    (isNull : term.isNull = true) : fits term.type := by
  unfold Catalog.castTerm at found
  dsimp only at found
  split at found
  · cases found
    exact inner isNull
  · split at found
    · rename_i null
      cases found
      exact outer (Bool.and_eq_true_iff.mp null).2
    · split at found
      · rename_i conversion _
        cases found
        cases conversion with
        | identity | reference => exact inner isNull
        | widening | boxing | lifting | explicit | operator method => cases isNull
      · cases found

theorem fits_of_isNull (fits : DataType → Prop) (ofLiteral : fits .object)
    (ofCast : ∀ {name target}, scope.typeNamed? name = some target →
      scope.catalog.acceptsNull target = true → fits target) :
    ∀ (expr : Expr) {term : Term}, scope.term expr = .ok term → term.isNull = true →
      fits term.type
  | .reference name, term, found, isNull => by
      unfold Scope.term at found
      rw [Term.isNull_of_isPlain (referenceTerm_plain found)] at isNull
      cases isNull
  | .literal value, term, found, isNull => by
      unfold Scope.term at found
      cases found
      cases value with
      | null => exact ofLiteral
      | _ => cases isNull
  | .binary token left right, term, found, isNull => by
      unfold Scope.term at found
      simp only [bind_eq_ok] at found
      obtain ⟨_, _, _, _, found⟩ := found
      split at found
      · rw [binaryTerm_isNull found] at isNull
        cases isNull
      · cases found
  | .unary operator token operand, term, found, isNull => by
      unfold Scope.term at found
      rw [bind_eq_ok] at found
      obtain ⟨_, _, found⟩ := found
      rw [unaryTerm_isNull found] at isNull
      cases isNull
  | .cast typeName operand, term, found, isNull => by
      unfold Scope.term at found
      rw [bind_eq_ok] at found
      obtain ⟨inner, isInner, found⟩ := found
      split at found
      · rename_i target named
        exact castTerm_isNull (ofCast named)
          (fits_of_isNull fits ofLiteral ofCast operand isInner) found isNull
      · cases found
  | .call callee arguments, term, found, isNull => by
      have notNull : term.isNull = false := by
        cases callee with
        | reference name =>
            unfold Scope.term at found
            rw [bind_eq_ok] at found
            obtain ⟨_, _, found⟩ := found
            exact callNamed_isNull found
        | member target member =>
            rw [term_call_member] at found
            simp only [bind_eq_ok] at found
            obtain ⟨_, _, _, _, found⟩ := found
            split at found
            · exact callOn_isNull found
            · cases found
        | _ =>
            unfold Scope.term at found
            rw [bind_eq_ok] at found
            obtain ⟨_, _, impossible⟩ := found
            cases impossible
      rw [notNull] at isNull
      cases isNull
  | .index target arguments, term, found, isNull => by
      unfold Scope.term at found
      simp only [bind_eq_ok] at found
      obtain ⟨_, _, _, _, found⟩ := found
      rw [Term.isNull_of_isPlain (Catalog.indexTerm_plain found)] at isNull
      cases isNull
  | .member target member, term, found, isNull => by
      rw [term_member, bind_eq_ok] at found
      obtain ⟨_, _, found⟩ := found
      split at found
      · rw [Term.isNull_of_isPlain (memberTerm_plain found)] at isNull
        cases isNull
      · cases found
  | .conditional test whenTrue whenFalse, term, found, isNull => by
      unfold Scope.term at found
      simp only [bind_eq_ok] at found
      obtain ⟨_, _, _, _, _, _, found⟩ := found
      rw [Term.isNull_of_isPlain (Catalog.conditionalTerm_plain found)] at isNull
      cases isNull
  | .parenthesized inner, term, found, isNull => by
      unfold Scope.term at found
      exact fits_of_isNull fits ofLiteral ofCast inner found isNull

/-- What the names of the scope stand for are types without marks. -/
def NamesPlain (scope : Scope) : Prop :=
  ∀ known ∈ scope.imports, known.type = .plain known.type.id

theorem typeNamed?_plain (plain : scope.NamesPlain) {name : String} {type : DataType}
    (found : scope.typeNamed? name = some type) : type = .plain type.id := by
  unfold typeNamed? at found
  rw [Option.filter_eq_some_iff, Option.map_eq_some_iff] at found
  obtain ⟨⟨known, isKnown, rfl⟩, _⟩ := found
  have listed := List.mem_of_find?_eq_some isKnown
  rw [List.mem_append] at listed
  rcases listed with isBuiltin | isImport
  · have builtins : ∀ builtin ∈ Import.builtins, builtin.type = .plain builtin.type.id := by
      decide
    exact builtins known isBuiltin
  · exact plain known isImport

theorem type_of_isNull (plain : scope.NamesPlain) (expr : Expr) {term : Term}
    (built : scope.term expr = .ok term) (isNull : term.isNull = true) :
    term.type = .plain term.type.id :=
  fits_of_isNull (fun type => type = .plain type.id) rfl
    (fun named _ => typeNamed?_plain plain named) expr built isNull

theorem acceptsNull_of_isNull (holds : scope.catalog.HoldsPrimitives) (expr : Expr) {term : Term}
    (built : scope.term expr = .ok term) (isNull : term.isNull = true) :
    scope.catalog.acceptsNull term.type = true :=
  fits_of_isNull (fun type => scope.catalog.acceptsNull type = true)
    (Catalog.acceptsNull_of_isReferenceType holds.isReferenceType_object)
    (fun _ accepts => accepts) expr built isNull

theorem isNull_of_ofScalar (holds : scope.catalog.HoldsPrimitives) (expr : Expr) {term : Term}
    {kind : Scalar} (built : scope.term expr = .ok term) (termType : term.type = .ofScalar kind) :
    term.isNull = false := by
  cases isNull : term.isNull with
  | false => rfl
  | true =>
      have accepts := acceptsNull_of_isNull holds expr built isNull
      rw [termType, Catalog.acceptsNull_ofScalar] at accepts
      cases accepts

end Scope

end Formula
