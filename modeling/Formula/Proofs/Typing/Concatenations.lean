import Formula.Proofs.Overload.Concatenations
import Formula.Proofs.Typing.Roots

/-!
How the operands of a concatenation reach the overload that is called. They come one for each
parameter or all in one new array, and none of them is lost: a concatenation without operands is
never built, for with none the overloads for texts and for objects are equally good.
-/

namespace Formula

namespace Catalog

open Library

variable {catalog : Catalog}

/-- Each operand was passed for a parameter of one type. -/
def PassedAs (catalog : Catalog) (element : DataType) : List Term → List Term → Prop :=
  List.Forall₂ fun operand passed => catalog.passArgument element operand = .ok passed

theorem passAll_each {element : DataType} {parameters : List Parameter}
    {operands passed : List Term}
    (takesEach : ∀ parameter ∈ parameters, TakesOperand element parameter)
    (one : operands.length = parameters.length)
    (found : catalog.passAll parameters operands = .ok passed) :
    catalog.PassedAs element operands passed := by
  induction parameters generalizing operands passed with
  | nil =>
      rw [List.length_nil, List.length_eq_zero_iff] at one
      subst one
      unfold passAll at found
      cases found
      exact .nil
  | cons parameter parameters ih =>
      cases operands with
      | nil => cases one
      | cons operand operands =>
          unfold passAll at found
          simp only [bind_eq_ok, pure_eq_ok] at found
          obtain ⟨first, isFirst, rest, areRest, rfl⟩ := found
          rw [(takesEach parameter (List.mem_cons_self ..)).type] at isFirst
          have later := ih (fun other member => takesEach other (List.mem_cons_of_mem _ member))
            (Nat.succ.inj one) areRest
          exact .cons isFirst later

/-- The ways in which a concatenation is called: with its operands, with an array that is there
already, or with a new array of its operands. -/
inductive Calls (catalog : Catalog) (element : DataType) :
    List Term → List Term → Prop
  | each {operands passed : List Term} (some : operands ≠ [])
      (passedAs : catalog.PassedAs element operands passed) : Calls catalog element operands passed
  | array {operand passed : Term}
      (isPassed : catalog.passArgument element.arrayOf operand = .ok passed) :
      Calls catalog element [operand] [passed]
  | packed {operands items : List Term} (passedAs : catalog.PassedAs element operands items) :
      Calls catalog element operands [.newArray element items]

theorem calls_of_adaptArguments {method : Method} {element : DataType}
    (isConcat : IsConcat method element) {operands passed : List Term}
    (adapted : catalog.adaptArguments method.parameters operands = .ok passed) :
    catalog.Calls element operands passed := by
  unfold adaptArguments at adapted
  split at adapted
  · cases adapted
  · rename_i takes
    rcases isConcat.parameters with ⟨nonempty, takesEach⟩ | ⟨name, variadic⟩
    · have one := (form_fixed takesEach takes).2
      rw [List.length_map] at one
      refine .each ?_ (passAll_each takesEach one adapted)
      rintro rfl
      exact nonempty (List.length_eq_zero_iff.mp one.symm)
    · rw [variadic] at takes adapted
      rcases form_variadic takes with ⟨_, single⟩ | impossible
      · rw [List.length_map] at single
        obtain ⟨operand, rfl⟩ := List.length_eq_one_iff.mp single
        simp only [passAll, bind_eq_ok, pure_eq_ok] at adapted
        obtain ⟨first, isFirst, rest, areRest, rfl⟩ := adapted
        cases areRest
        exact .array isFirst
      · cases impossible
  · rename_i collected takes
    rcases isConcat.parameters with ⟨_, takesEach⟩ | ⟨name, variadic⟩
    · cases (form_fixed takesEach takes).1
    · rw [variadic] at takes adapted
      rcases form_variadic takes with ⟨impossible, _⟩ | same
      · cases impossible
      · cases same
        simp only [bind_eq_ok, pure_eq_ok] at adapted
        obtain ⟨fixed, areFixed, items, areItems, rfl⟩ := adapted
        cases areFixed
        exact .packed (mapM_eq_ok.mp areItems)

/-- Without arguments, two lists for elements of different types are equally good. -/
theorem compareCandidates_variadic_nil {first second : Applicable} {name otherName : String}
    {element other : DataType} (firstForm : first.form = .expanded element)
    (firstParameters : first.signature.parameters = [.variadic name element])
    (secondForm : second.form = .expanded other)
    (secondParameters : second.signature.parameters = [.variadic otherName other])
    (different : element ≠ other) : catalog.compareCandidates first second [] = .neither := by
  have votes : catalog.compareParameters first second [] = .neither := by
    unfold compareParameters
    simp [firstForm, secondForm, firstParameters, secondParameters, CallForm.isExpanded,
      Preference.ofNats]
  unfold compareCandidates
  simp only [votes, firstParameters, secondParameters]
  rw [if_neg]
  intro same
  have types := eq_of_beq same
  injection types with type _
  exact different (Option.some.inj (congrArg DataType.element? type))

theorem exists_other {element : DataType} (known : element = .string ∨ element = .object) :
    ∃ method name other, method ∈ concatMethods ∧
      method.parameters = [.variadic name other] ∧ element ≠ other := by
  rcases known with rfl | rfl
  · obtain ⟨name, member⟩ := exists_variadic (.inr rfl)
    exact ⟨_, name, .object, member, rfl, by decide⟩
  · obtain ⟨name, member⟩ := exists_variadic (.inl rfl)
    exact ⟨_, name, .string, member, rfl, by decide⟩

theorem selectMethod_no_arguments {candidates : List Method}
    (all : ∀ method ∈ concatMethods, method ∈ candidates) {method : Method} {element : DataType}
    (isConcat : IsConcat method element) :
    catalog.selectMethod candidates [] ≠ .ok (some method) := by
  intro selected
  unfold selectMethod at selected
  split at selected
  · rename_i index form chosen
    injection selected with isMethod
    obtain ⟨signature, applies, preferred⟩ := resolve_chosen_iff.mp chosen
    have isSignature := applies.1
    rw [List.getElem?_map, isMethod] at isSignature
    cases isSignature
    have takes : catalog.applicableForm? method.parameters [] = some form := applies.2
    rcases isConcat.parameters with ⟨nonempty, takesEach⟩ | ⟨name, variadic⟩
    · have one := (form_fixed takesEach takes).2
      exact nonempty (List.length_eq_zero_iff.mp one.symm)
    · obtain ⟨other, otherName, otherElement, member, otherVariadic, different⟩ :=
        exists_other isConcat.known
      obtain ⟨place, isPlace⟩ := List.mem_iff_getElem?.mp (all other member)
      have rivalApplies : catalog.Applies (candidates.map Method.signature) []
          ⟨place, other.signature, .expanded otherElement⟩ := by
        refine ⟨?_, ?_⟩
        · rw [List.getElem?_map, isPlace]
          rfl
        · change catalog.applicableForm? other.parameters [] = _
          rw [otherVariadic]
          exact applicableForm?_row otherName otherElement Nat.zero_ne_one
      have elsewhere : place ≠ index := by
        rintro rfl
        rw [isMethod] at isPlace
        cases isPlace
        rw [variadic] at otherVariadic
        injection otherVariadic with parameter _
        have type := congrArg Parameter.type parameter
        exact different (Option.some.inj (congrArg DataType.element? type))
      have isRow : catalog.applicableForm? [.variadic name element] [] = _ :=
        applicableForm?_row name element Nat.zero_ne_one
      rw [variadic, isRow] at takes
      cases takes
      have beats := preferred _ rivalApplies elsewhere
      rw [compareCandidates_variadic_nil rfl variadic rfl otherVariadic different] at beats
      cases beats
  · cases selected
  · cases selected

def boxed (catalog : Catalog) (operand : Term) : Term :=
  if catalog.isValueType operand.type then .convert operand .object else operand

theorem boxed_string (holds : catalog.HoldsPrimitives) {operand : Term}
    (isString : operand.type = .string) : catalog.boxed operand = operand := by
  unfold boxed
  rw [isString, isValueType_of_isReferenceType holds.isReferenceType_string]
  rfl

theorem boxed_operands (holds : catalog.HoldsPrimitives) (operands : List Term) :
    (if operands.all (·.type.isString) then operands
      else operands.map fun operand =>
        if catalog.isValueType operand.type then .convert operand .object else operand) =
      operands.map catalog.boxed := by
  split
  · rename_i texts
    have unchanged : ∀ operand ∈ operands, catalog.boxed operand = id operand :=
      fun operand member =>
        boxed_string holds (eq_of_beq (List.all_eq_true.mp texts operand member))
    rw [List.map_congr_left unchanged, List.map_id]
  · rfl

theorem isReferenceType_boxed (holds : catalog.HoldsPrimitives) (operand : Term) :
    catalog.isReferenceType (catalog.boxed operand).type = true := by
  unfold boxed
  split
  · exact holds.isReferenceType_object
  · rename_i notValue
    rw [Bool.not_eq_true] at notValue
    exact holds.isReferenceType_of_not_value notValue

/-- An operand that needs no cast is passed as it is, unless it is null, which takes on the type. -/
theorem passArgument_boxed_eq (holds : catalog.HoldsPrimitives) {element : DataType}
    {operand : Term}
    (fits : element = .object ∨ (catalog.boxed operand).type = element) :
    catalog.passArgument element (catalog.boxed operand) =
      .ok (if (catalog.boxed operand).isNull && catalog.acceptsNull element then .nullOf element
        else catalog.boxed operand) := by
  have conversion : ∃ conversion, catalog.implicitConversion? (catalog.boxed operand).type element =
      some conversion ∧
        conversion.apply (catalog.boxed operand) element = catalog.boxed operand := by
    unfold implicitConversion?
    by_cases same : ((catalog.boxed operand).type == element) = true
    · rw [if_pos same]
      exact ⟨.identity, rfl, rfl⟩
    · rw [if_neg same]
      rcases fits with rfl | isElement
      · rw [isReferenceType_boxed holds, isAssignable_object, Bool.and_self, if_pos rfl]
        exact ⟨.reference, rfl, rfl⟩
      · rw [isElement] at same
        exact absurd (beq_self_eq_true element) same
  obtain ⟨chosen, isChosen, unchanged⟩ := conversion
  unfold passArgument implicitly?
  split
  · rename_i implicit
    split at implicit
    · rename_i null
      rw [if_pos null, Option.some.inj implicit]
    · rename_i notNull
      rw [isChosen, Option.map_some, unchanged] at implicit
      rw [if_neg notNull, Option.some.inj implicit]
  · rename_i refused
    split at refused
    · cases refused
    · rw [isChosen] at refused
      cases refused

theorem passArgument_boxed (holds : catalog.HoldsPrimitives) {element : DataType}
    {operand passed : Term}
    (fits : element = .object ∨ (catalog.boxed operand).type = element)
    (found : catalog.passArgument element (catalog.boxed operand) = .ok passed) :
    passed = catalog.boxed operand ∨
      (catalog.boxed operand).isNull = true ∧ passed = .nullOf element := by
  rw [passArgument_boxed_eq holds fits, Except.ok.injEq] at found
  split at found
  · rename_i null
    exact .inr ⟨(Bool.and_eq_true_iff.mp null).1, found.symm⟩
  · exact .inl found.symm

theorem concatTerm_calls (concatenates : catalog.Concatenates) {left right term : Term}
    (several : 2 ≤ (concatOperands left ++ concatOperands right).length)
    (found : catalog.concatTerm left right = .ok term) :
    ∃ method element passed, term = .staticCall method passed ∧ IsConcat method element ∧
      catalog.Calls element ((concatOperands left ++ concatOperands right).map catalog.boxed)
        passed ∧
      (element = .object ∨ ∀ operand ∈ concatOperands left ++ concatOperands right,
        (catalog.boxed operand).type = element) := by
  unfold concatTerm at found
  dsimp only at found
  generalize concatOperands left ++ concatOperands right = operands at found several ⊢
  rw [boxed_operands concatenates.primitives] at found
  split at found
  · rename_i index form chosen
    split at found
    · rename_i method selected
      rw [bind_eq_ok] at found
      obtain ⟨passed, adapted, found⟩ := found
      rw [pure_eq_ok] at found
      have member := List.mem_of_getElem? selected
      rw [concatenates.overloads] at member
      obtain ⟨element, isConcat⟩ := isConcat_of_mem member
      refine ⟨method, element, passed, found.symm, isConcat,
        calls_of_adaptArguments isConcat adapted, ?_⟩
      rcases isConcat.known with rfl | rfl
      · right
        obtain ⟨signature, applies, _⟩ := resolve_chosen_iff.mp chosen
        have isSignature := applies.1
        rw [List.getElem?_map, selected] at isSignature
        cases isSignature
        have takes : catalog.applicableForm? method.parameters _ = some form := applies.2
        by_cases texts : (operands.all (·.type.isString)) = true
        · intro operand member
          have isString := eq_of_beq (List.all_eq_true.mp texts operand member)
          rw [boxed_string concatenates.primitives isString, isString]
        · rw [List.map_map] at takes
          simp only [texts, Bool.false_eq_true, if_false, Function.comp_def,
            List.map_const'] at takes
          exact absurd takes (not_applicable_objects concatenates.distinct isConcat several form)
      · exact .inl rfl
    · cases found
  · cases found

theorem passArgument_newArray {target element : DataType} {argument : Term} {items : List Term}
    (found : catalog.passArgument target argument = .ok (.newArray element items)) :
    argument = .newArray element items := by
  have kept : ∀ conversion : Conversion,
      conversion.apply argument target = .newArray element items →
        argument = .newArray element items := by
    intro conversion applied
    cases conversion with
    | identity | reference => exact applied
    | widening | boxing | lifting | explicit | operator method => cases applied
  unfold passArgument at found
  split at found
  · rename_i implicit
    cases found
    unfold implicitly? at implicit
    split at implicit
    · cases implicit
    · obtain ⟨conversion, _, applied⟩ := Option.map_eq_some_iff.mp implicit
      exact kept conversion applied
  · split at found
    · rename_i conversion _
      injection found with applied
      exact kept conversion applied
    · cases found

/-- What is left of the arguments of a concatenation inside another one. -/
def spliced : List Term → List Term
  | [.newArray _ items] => items
  | passed => passed

theorem concatOperands_concat {method : Method}
    (isConcat : method.owner = .string ∧ method.name = concatName) (passed : List Term) :
    concatOperands (.staticCall method passed) = spliced passed :=
  if_pos isConcat

theorem concatOperands_other {method : Method}
    (other : ¬(method.owner = .string ∧ method.name = concatName)) (passed : List Term) :
    concatOperands (.staticCall method passed) = [.staticCall method passed] :=
  if_neg other

theorem concatOperands_plain {term : Term} (plain : term.isPlain = true) :
    concatOperands term = [term] := by
  cases term with
  | constant | staticCall | newArray => cases plain
  | _ => rfl

theorem spliced_several {passed : List Term} (several : 2 ≤ passed.length) :
    spliced passed = passed := by
  unfold spliced
  split
  · rw [List.length_singleton] at several
    omega
  · rfl

theorem Calls.several {element : DataType} {operands passed : List Term}
    (calls : catalog.Calls element operands passed) (several : 2 ≤ operands.length) :
    catalog.PassedAs element operands passed ∨
      ∃ items, passed = [.newArray element items] ∧ catalog.PassedAs element operands items := by
  cases calls with
  | each _ passedAs => exact .inl passedAs
  | array found =>
      rw [List.length_singleton] at several
      omega
  | packed passedAs => exact .inr ⟨_, rfl, passedAs⟩

theorem Calls.spliced_ne_nil {element : DataType} {operands passed : List Term}
    (calls : catalog.Calls element operands passed) (some : operands ≠ [])
    (noArray : ∀ operand ∈ operands, ∀ type items, operand ≠ .newArray type items) :
    spliced passed ≠ [] := by
  have single : ∀ operand target argument, operand ∈ operands →
      catalog.passArgument target operand = .ok argument →
        ∀ type items, argument ≠ .newArray type items := by
    rintro operand target argument member found type items rfl
    exact noArray operand member type items (passArgument_newArray found)
  cases calls with
  | each _ passedAs =>
      unfold spliced
      split
      · rename_i type items
        cases passedAs with
        | cons found rest =>
            exact absurd rfl (single _ _ _ (List.mem_cons_self ..) found type items)
      · rintro rfl
        cases passedAs
        exact some rfl
  | array found =>
      unfold spliced
      split
      · rename_i type items same
        cases same
        exact absurd rfl (single _ _ _ (List.mem_cons_self ..) found type items)
      · exact List.cons_ne_nil _ _
  | packed passedAs =>
      rintro rfl
      cases passedAs
      exact some rfl

end Catalog

namespace Scope

open Catalog Library

variable {scope : Scope}

theorem Root.not_newArray {term : Term} (root : scope.Root term) (type : DataType)
    (items : List Term) : term ≠ .newArray type items := by
  rintro rfl
  cases root with
  | concat _ _ concatenated =>
      obtain ⟨method, passed, impossible⟩ := concatTerm_staticCall concatenated
      cases impossible
  | other plain => cases plain

theorem selected_concat (concatenates : scope.catalog.Concatenates) {owner : Option DataType}
    {name : String} {types : List DataType} {method : Method}
    (selected : scope.methodOf owner name types true = .ok (some method))
    (isString : method.owner = .string) (isConcat : method.name = concatName) :
    method ∈ concatMethods ∧ types ≠ [] := by
  unfold methodOf at selected
  have member := mem_of_selectMethod selected
  obtain ⟨type, asked, declared⟩ := List.mem_flatMap.mp member
  have all := concatenates.elsewhere type name method declared isString isConcat
  rw [all] at declared
  refine ⟨declared, ?_⟩
  rintro rfl
  obtain ⟨element, isConcat⟩ := isConcat_of_mem declared
  refine selectMethod_no_arguments ?_ isConcat selected
  intro other isOther
  rw [List.mem_flatMap]
  refine ⟨type, asked, ?_⟩
  rw [all]
  exact isOther

theorem two_le_operands {left right : Term} (first : concatOperands left ≠ [])
    (second : concatOperands right ≠ []) :
    2 ≤ (concatOperands left ++ concatOperands right).length := by
  have one := List.length_pos_iff.mpr first
  have other := List.length_pos_iff.mpr second
  rw [List.length_append]
  omega

theorem Root.concatOperands_ne_nil (concatenates : scope.catalog.Concatenates) {term : Term}
    (root : scope.Root term) : concatOperands term ≠ [] := by
  induction root with
  | constant faithful => exact List.cons_ne_nil _ _
  | other plain =>
      rw [concatOperands_plain plain]
      exact List.cons_ne_nil _ _
  | @call owner name method arguments passed selected roots adapted _ =>
      by_cases concat : method.owner = .string ∧ method.name = concatName
      · obtain ⟨member, some⟩ := selected_concat concatenates selected concat.1 concat.2
        obtain ⟨element, isConcat⟩ := isConcat_of_mem member
        rw [concatOperands_concat concat]
        refine (calls_of_adaptArguments isConcat adapted).spliced_ne_nil ?_ ?_
        · rintro rfl
          exact some rfl
        · exact fun argument member => (roots argument member).not_newArray
      · rw [concatOperands_other concat]
        exact List.cons_ne_nil _ _
  | concat _ _ concatenated first second =>
      have several := two_le_operands first second
      obtain ⟨method, element, passed, rfl, _, calls, _⟩ :=
        concatTerm_calls concatenates several concatenated
      rw [← List.length_map scope.catalog.boxed] at several
      by_cases concat : method.owner = .string ∧ method.name = concatName
      · rw [concatOperands_concat concat]
        rcases calls.several several with passedAs | ⟨items, rfl, passedAs⟩
        · rw [passedAs.length_eq] at several
          rw [spliced_several several]
          rintro rfl
          cases several
        · rintro impossible
          have same := passedAs.length_eq
          rw [show items = [] from impossible, List.length_nil] at same
          omega
      · rw [concatOperands_other concat]
        exact List.cons_ne_nil _ _

theorem Root.body_eq (concatenates : scope.catalog.Concatenates) {term : Term}
    (root : scope.Root term) {method : Method} {passed : List Term}
    (isCall : term = .staticCall method passed)
    (concat : method.owner = .string ∧ method.name = concatName) :
    method.body = concatBody := by
  cases root with
  | constant faithful => cases isCall
  | other plain =>
      rw [isCall] at plain
      cases plain
  | call selected roots adapted =>
      cases isCall
      obtain ⟨element, isConcat⟩ :=
        isConcat_of_mem (selected_concat concatenates selected concat.1 concat.2).1
      exact isConcat.body
  | concat first second concatenated =>
      have several := two_le_operands (first.concatOperands_ne_nil concatenates)
        (second.concatOperands_ne_nil concatenates)
      obtain ⟨called, element, arguments, same, isConcat, _⟩ :=
        concatTerm_calls concatenates several concatenated
      rw [same] at isCall
      cases isCall
      exact isConcat.body

theorem term_sum {left right : Expr} {first second : Term} (builtLeft : scope.term left = .ok first)
    (builtRight : scope.term right = .ok second)
    (textual : (first.type.isString || second.type.isString) = true) :
    scope.term (.binary "+" left right) = scope.catalog.concatTerm first second := by
  have isAdd : BinaryOperator.ofToken? "+" = some .add := by decide
  unfold Scope.term
  rw [builtLeft, builtRight]
  change (BinaryOperator.ofToken? "+").elim (throw (TypingError.unknownOperator "+"))
    (fun operator => scope.catalog.binaryTerm operator first second) = _
  rw [isAdd]
  change scope.catalog.binaryTerm .add first second = _
  unfold Catalog.binaryTerm
  dsimp only
  rw [if_pos textual]

end Scope

end Formula
