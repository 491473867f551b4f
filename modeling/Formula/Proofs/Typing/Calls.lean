import Formula.Proofs.Overload.References
import Formula.Proofs.Typing.Adaptation
import Formula.Proofs.Typing.Concatenations
import Formula.Proofs.Typing.Operators
import Formula.Typing.Access

/-!
Whatever overload a lookup selects is called: the arguments it was selected for are those that are
passed. A concatenation is the exception, for its overload is selected for objects and then called
with the operands as they are.
-/

namespace Formula

namespace Catalog

variable {catalog : Catalog}

def DefaultsConvert (catalog : Catalog) : Prop :=
  ∀ entry ∈ catalog.entries, ∀ parameter ∈ entry.declaredParameters,
    parameter.DefaultConverts catalog

instance (catalog : Catalog) : Decidable catalog.DefaultsConvert :=
  inferInstanceAs (Decidable (∀ entry ∈ catalog.entries, ∀ parameter ∈ entry.declaredParameters,
    parameter.DefaultConverts catalog))

theorem DefaultsConvert.ofMethod (converts : catalog.DefaultsConvert) {type : DataType}
    {isStatic : Bool} {method : Method} (declares : catalog.DeclaresMethod type isStatic method) :
    ∀ parameter ∈ method.parameters, parameter.DefaultConverts catalog := by
  intro parameter member
  obtain ⟨entry, known, declared⟩ := declared_of_method declares member
  exact converts entry known parameter declared

theorem DefaultsConvert.ofMember (converts : catalog.DefaultsConvert) {type : DataType}
    {isStatic : Bool} {indexer : Member} (declares : catalog.DeclaresMember type isStatic indexer) :
    ∀ parameter ∈ indexer.parameters, parameter.DefaultConverts catalog := by
  intro parameter member
  obtain ⟨entry, known, declared⟩ := declared_of_member declares member
  exact converts entry known parameter declared

theorem takes_of_resolve {candidates : List Signature} {types : List DataType} {index : Nat}
    {form : CallForm} (chosen : catalog.resolve candidates types = .chosen index form) :
    ∃ signature, candidates[index]? = some signature ∧
      catalog.applicableForm? signature.parameters types = some form := by
  obtain ⟨signature, ⟨found, takes⟩, _⟩ := resolve_chosen_iff.mp chosen
  exact ⟨signature, found, takes⟩

theorem takes_of_selectMethod {methods : List Method} {types : List DataType} {method : Method}
    (selected : catalog.selectMethod methods types = .ok (some method)) :
    (catalog.applicableForm? method.parameters types).isSome = true := by
  unfold selectMethod at selected
  split at selected
  · rename_i index form chosen
    injection selected with isMethod
    obtain ⟨signature, found, takes⟩ := takes_of_resolve chosen
    rw [List.getElem?_map, isMethod] at found
    cases found
    exact Option.isSome_iff_exists.mpr ⟨form, takes⟩
  · cases selected
  · cases selected

theorem adaptArguments_of_declaredOperator (holds : catalog.HoldsPrimitives)
    (converts : catalog.DefaultsConvert) {name : String} {operands : List Term} {method : Method}
    (declared : catalog.declaredOperator name (operands.map Term.type) = .ok (some method)) :
    ∃ passed, catalog.adaptArguments method.parameters operands = .ok passed ∧
      catalog.Adapts method.parameters operands passed ∧ passed.length = operands.length := by
  obtain ⟨⟨owner, declares⟩, each⟩ := declaresMethod_of_declaredOperator declared
  rw [List.length_map] at each
  unfold declaredOperator at declared
  obtain ⟨passed, adapted, adapts⟩ := adaptArguments_of_applicableForm? holds
    (converts.ofMethod declares) (takes_of_selectMethod declared)
  exact ⟨passed, adapted, adapts, adapts.length_eq.trans each⟩

def concatTypes (operands : List Term) : List DataType :=
  if operands.all (·.type.isString) then operands.map Term.type
  else operands.map fun _ => .object

/-- A concatenation whose overload is selected is built, if its operands are texts or the overload
takes for an object only what takes any reference. -/
theorem concatTerm_of_resolve (holds : catalog.HoldsPrimitives) {left right : Term}
    {method : Method} {index : Nat} {form : CallForm}
    (converts : ∀ parameter ∈ method.parameters, parameter.DefaultConverts catalog)
    (chosen : catalog.resolve ((catalog.methods .string concatName true).map Method.signature)
      (concatTypes (concatOperands left ++ concatOperands right)) = .chosen index form)
    (isMethod : (catalog.methods .string concatName true)[index]? = some method)
    (spares : (concatOperands left ++ concatOperands right).all (·.type.isString) = true ∨
      ∀ parameter ∈ method.parameters, catalog.SparesReferences parameter) :
    ∃ passed, catalog.concatTerm left right = .ok (.staticCall method passed) ∧
      catalog.adaptArguments method.parameters
        ((concatOperands left ++ concatOperands right).map catalog.boxed) = .ok passed ∧
      catalog.Adapts method.parameters
        ((concatOperands left ++ concatOperands right).map catalog.boxed) passed := by
  unfold concatTerm
  dsimp only
  rw [boxed_operands holds]
  generalize concatOperands left ++ concatOperands right = operands at chosen spares ⊢
  obtain ⟨signature, found, takes⟩ := takes_of_resolve chosen
  rw [List.getElem?_map, isMethod, Option.map_some, Option.some.injEq] at found
  subst found
  have taken : (catalog.applicableForm? method.parameters
      ((operands.map catalog.boxed).map Term.type)).isSome = true := by
    unfold concatTypes at takes
    split at takes
    · rename_i texts
      have unchanged := boxed_operands holds operands
      rw [if_pos texts] at unchanged
      rw [← unchanged]
      exact Option.isSome_iff_exists.mpr ⟨form, takes⟩
    · rename_i mixed
      refine applicableForm?_references (spares.resolve_left mixed) ?_ ?_
      · intro type isType
        rw [List.map_map, List.mem_map] at isType
        obtain ⟨operand, _, rfl⟩ := isType
        exact isReferenceType_boxed holds operand
      · rw [List.map_map, List.map_map]
        exact Option.isSome_iff_exists.mpr ⟨form, takes⟩
  obtain ⟨passed, adapted, adapts⟩ := adaptArguments_of_applicableForm? holds converts taken
  refine ⟨passed, ?_, adapted, adapts⟩
  have asked : (operands.map catalog.boxed).map (fun operand =>
      if operands.all (·.type.isString) then operand.type else .object) =
        concatTypes operands := by
    unfold concatTypes
    split
    · rename_i texts
      have unchanged := boxed_operands holds operands
      rw [if_pos texts] at unchanged
      rw [← unchanged]
    · exact List.map_map
  rw [asked, chosen]
  simp only [isMethod, adapted]
  rfl

theorem sparesReferences_of_isConcat {method : Method} {element : DataType}
    (isConcat : Library.IsConcat method element) (takes : catalog.TakesReferences element) :
    ∀ parameter ∈ method.parameters, catalog.SparesReferences parameter := by
  intro parameter isParameter
  rcases isConcat.parameters with ⟨_, takesEach⟩ | ⟨name, variadic⟩
  · obtain ⟨type, _, single⟩ := takesEach parameter isParameter
    refine ⟨type ▸ takes, fun collected collects => ?_⟩
    rw [collects.isVariadic] at single
    cases single
  · rw [variadic, List.mem_singleton] at isParameter
    subst isParameter
    refine ⟨takesReferences_arrayOf element, fun collected collects => ?_⟩
    cases collects.element_eq
    exact takes

theorem Concatenates.sparesReferences (concatenates : catalog.Concatenates) :
    ∀ method ∈ catalog.methods .string concatName true,
      ∀ parameter ∈ method.parameters, catalog.SparesReferences parameter := by
  intro method member
  rw [concatenates.overloads] at member
  obtain ⟨element, isConcat⟩ := Library.isConcat_of_mem member
  apply sparesReferences_of_isConcat isConcat
  rcases isConcat.known with rfl | rfl
  · intro object
    rw [isCompatible_object concatenates.distinct] at object
    cases object
  · exact takesReferences_object

end Catalog

namespace Scope

variable {scope : Scope}

theorem takes_of_methodOf {owner : Option DataType} {name : String} {types : List DataType}
    {isStatic : Bool} {method : Method}
    (found : scope.methodOf owner name types isStatic = .ok (some method)) :
    (scope.catalog.applicableForm? method.parameters types).isSome = true :=
  Catalog.takes_of_selectMethod found

theorem methodOf_of_bindMethod {owner : Option DataType} {name : String}
    {types : List DataType} {isStatic : Bool} {method : Method}
    (found : scope.bindMethod owner name types isStatic = .ok (some method)) :
    ∃ owner isStatic, scope.methodOf owner name types isStatic = .ok (some method) := by
  unfold bindMethod at found
  cases receives : scope.receiverType? owner isStatic with
  | none =>
      simp only [receives, pure_bind] at found
      exact ⟨owner, isStatic, found⟩
  | some type =>
      simp only [receives, bind_eq_ok] at found
      obtain ⟨own, isOwn, found⟩ := found
      cases own with
      | none => exact ⟨owner, isStatic, found⟩
      | some other =>
          cases found
          exact ⟨some type, false, isOwn⟩

/-- Whatever is selected is called: a method, an indexer, an operator, and a concatenation of texts
or by an overload that takes for an object only what takes any reference. -/
structure CallsSelected (scope : Scope) : Prop where
  call : ∀ {owner name isStatic method} {arguments : List Term} (receiver : Option Term),
    scope.bindMethod owner name (arguments.map Term.type) isStatic = .ok (some method) →
      ∃ passed, scope.finishCall receiver method arguments =
          .ok (.callMethod receiver method passed) ∧
        scope.catalog.Adapts method.parameters arguments passed
  index : ∀ {target arguments index form}, target.type.isArray = false →
    scope.catalog.resolve ((scope.catalog.indexers target.type).map Member.signature)
        (arguments.map Term.type) = .chosen index form →
      ∃ indexer passed, scope.catalog.indexTerm target arguments =
          .ok (.index target indexer passed) ∧
        scope.catalog.Adapts indexer.parameters arguments passed
  binary : ∀ {operator method} {left right : Term} (refusal : TypingError),
    scope.catalog.resolveBinary operator left.type right.type = .ok (some (.method method)) →
      ∃ first second, scope.catalog.applyBinary refusal operator left right =
          .ok (.binaryBy method operator first second) ∧
        scope.catalog.Adapts method.parameters [left, right] [first, second]
  unary : ∀ {operator method} {operand : Term} (token : String),
    scope.catalog.resolveUnary operator operand.type = .ok (some (.method method)) →
      ∃ passed, scope.catalog.applyUnary operator token operand =
          .ok (.unaryBy method operator passed) ∧
        scope.catalog.Adapts method.parameters [operand] [passed]
  concatenation : ∀ {left right index form}, scope.catalog.resolve
        ((scope.catalog.methods .string Catalog.concatName true).map Method.signature)
        (Catalog.concatTypes (Catalog.concatOperands left ++ Catalog.concatOperands right)) =
          .chosen index form →
      ∃ method, (scope.catalog.methods .string Catalog.concatName true)[index]? = some method ∧
        ((Catalog.concatOperands left ++ Catalog.concatOperands right).all (·.type.isString) = true ∨
            (∀ parameter ∈ method.parameters, scope.catalog.SparesReferences parameter) →
          ∃ passed, scope.catalog.concatTerm left right = .ok (.staticCall method passed) ∧
            scope.catalog.Adapts method.parameters
              ((Catalog.concatOperands left ++ Catalog.concatOperands right).map
                scope.catalog.boxed) passed)

theorem callsSelected (holds : scope.catalog.HoldsPrimitives)
    (converts : scope.catalog.DefaultsConvert) : scope.CallsSelected where
  call {owner name isStatic method arguments} receiver found := by
    obtain ⟨owner, isStatic, found⟩ := methodOf_of_bindMethod found
    obtain ⟨type, _, declares⟩ := declares_of_methodOf found
    obtain ⟨passed, adapted, adapts⟩ := Catalog.adaptArguments_of_applicableForm? holds
      (converts.ofMethod declares) (takes_of_methodOf found)
    refine ⟨passed, ?_, adapts⟩
    unfold finishCall
    rw [adapted]
    rfl
  index {target arguments index form} notArray chosen := by
    obtain ⟨signature, found, takes⟩ := Catalog.takes_of_resolve chosen
    rw [List.getElem?_map, Option.map_eq_some_iff] at found
    obtain ⟨indexer, isIndexer, rfl⟩ := found
    have member := List.mem_of_getElem? isIndexer
    have some : (scope.catalog.indexers target.type).isEmpty = false :=
      List.isEmpty_eq_false_iff.mpr (List.ne_nil_of_mem member)
    obtain ⟨passed, adapted, adapts⟩ := Catalog.adaptArguments_of_applicableForm? holds
      (converts.ofMember (Catalog.declaresMember_of_indexers member))
      (Option.isSome_iff_exists.mpr ⟨form, takes⟩)
    refine ⟨indexer, passed, ?_, adapts⟩
    unfold Catalog.indexTerm
    simp only [notArray, some, chosen, isIndexer, adapted]
    rfl
  binary {operator method left right} refusal resolved := by
    rcases Catalog.resolveBinary_cases resolved with ⟨name, other, declared, same⟩ | builtin
    · cases same
      obtain ⟨passed, adapted, adapts, two⟩ := Catalog.adaptArguments_of_declaredOperator holds
        converts (show scope.catalog.declaredOperator name ([left, right].map Term.type) = _ from
          declared)
      obtain ⟨first, second, rfl⟩ := List.length_eq_two.mp two
      refine ⟨first, second, ?_, adapts⟩
      unfold Catalog.applyBinary
      simp only [resolved, bind, Except.bind, adapted]
      rfl
    · obtain ⟨result, _, impossible⟩ := Option.map_eq_some_iff.mp builtin.symm
      cases impossible
  unary {operator method operand} token resolved := by
    rcases Catalog.resolveUnary_cases resolved with ⟨name, other, declared, same⟩ | builtin
    · cases same
      obtain ⟨passed, adapted, adapts, one⟩ := Catalog.adaptArguments_of_declaredOperator holds
        converts (show scope.catalog.declaredOperator name ([operand].map Term.type) = _ from
          declared)
      obtain ⟨only, rfl⟩ := List.length_eq_one_iff.mp one
      refine ⟨only, ?_, adapts⟩
      unfold Catalog.applyUnary
      simp only [resolved, bind, Except.bind, adapted]
      rfl
    · obtain ⟨result, _, impossible⟩ := Option.map_eq_some_iff.mp builtin.symm
      cases impossible
  concatenation {left right index form} chosen := by
    obtain ⟨signature, found, _⟩ := Catalog.takes_of_resolve chosen
    rw [List.getElem?_map, Option.map_eq_some_iff] at found
    obtain ⟨method, isMethod, _⟩ := found
    refine ⟨method, isMethod, fun spares => ?_⟩
    have declares := Catalog.declaresMethod_of_methods (List.mem_of_getElem? isMethod)
    obtain ⟨passed, built, _, adapts⟩ := Catalog.concatTerm_of_resolve holds
      (converts.ofMethod declares) chosen isMethod spares
    exact ⟨passed, built, adapts⟩

/-- Arguments are passed exactly where the parameters take them, one term for each parameter and
none of the arguments lost; so what a lookup selects is called. -/
theorem selected_called (scope : Scope) (holds : scope.catalog.HoldsPrimitives) :
    (∀ parameters, (∀ parameter ∈ parameters, parameter.DefaultConverts scope.catalog) →
      ∀ arguments, scope.catalog.CallsWith parameters arguments) ∧
      (scope.catalog.DefaultsConvert → scope.CallsSelected) :=
  ⟨fun _ converts arguments => Catalog.callsWith holds converts arguments, callsSelected holds⟩

def packing : List Parameter :=
  [ .of "first" (.ofScalar (.integer .int64)),
    { Parameter.of "second" (.ofScalar .double) with default := some (.int32 2) },
    .variadic "rest" .object ]

def withLibrary : Scope :=
  ⟨.standard ⟨⟨0, 0, 0, .unspecified⟩, .universal, fun _ => .zero⟩, [], none⟩

/-- On the standard library a number is passed with a default and an empty array, and a text and a
number are joined as objects. -/
theorem selected_called_library :
    withLibrary.catalog.HoldsPrimitives ∧ withLibrary.catalog.DefaultsConvert ∧
      withLibrary.CallsSelected ∧
      (∃ passed, withLibrary.catalog.adaptArguments packing [.ofValue (.int32 1)] = .ok passed ∧
        passed.length = 3) ∧
      ∃ method passed, withLibrary.catalog.concatTerm (.ofValue (.text (.given 0) "a"))
        (.ofValue (.int32 1)) = .ok (.staticCall method passed) := by
  have concatenates : withLibrary.catalog.Concatenates := by
    simp only [withLibrary]
    exact Catalog.standard_concatenates _
  have holds := concatenates.primitives
  have converts : withLibrary.catalog.DefaultsConvert := by decide +kernel
  obtain ⟨calls, callsSelected⟩ := selected_called withLibrary holds
  have packs := calls packing (by decide +kernel) [.ofValue (.int32 1)]
  obtain ⟨passed, adapted⟩ := packs.isOk_iff.mpr (by decide +kernel)
  have chosen : withLibrary.catalog.resolve
      ((withLibrary.catalog.methods .string Catalog.concatName true).map Method.signature)
      (Catalog.concatTypes (Catalog.concatOperands (.ofValue (.text (.given 0) "a")) ++
        Catalog.concatOperands (.ofValue (.int32 1)))) = .chosen 5 .normal := by decide +kernel
  obtain ⟨method, isMethod, joins⟩ := (callsSelected converts).concatenation chosen
  obtain ⟨joined, built, _⟩ :=
    joins (.inr (concatenates.sparesReferences method (List.mem_of_getElem? isMethod)))
  exact ⟨holds, converts, callsSelected converts,
    ⟨passed, adapted, (packs.spec passed adapted).1⟩, method, joined, built⟩

/-- The types of the language, with a concatenation of two objects to which null is added. -/
def onMarkedObjects : Scope :=
  let join : Method :=
    .onType Catalog.concatName [.of "left" (.orNull .object), .of "right" (.orNull .object)]
      .string (.constant (.int32 0))
  ⟨⟨Catalog.primitives.entries.map fun entry =>
    if entry.id = .string then entry.addMethod join else entry⟩, [], none⟩

def mismatches : Typing Term → Bool
  | .error .argumentMismatch => true
  | _ => false

theorem eq_of_mismatches {outcome : Typing Term} (refused : mismatches outcome = true) :
    outcome = .error .argumentMismatch := by
  unfold mismatches at refused
  split at refused
  · rfl
  · cases refused

/-- The concatenation takes an object, for which it is selected, but not the text it is called
with. -/
theorem concatenation_refused :
    onMarkedObjects.catalog.HoldsPrimitives ∧ onMarkedObjects.catalog.DefaultsConvert ∧
      onMarkedObjects.catalog.resolve
        ((onMarkedObjects.catalog.methods .string Catalog.concatName true).map Method.signature)
        (Catalog.concatTypes (Catalog.concatOperands (.ofValue (.text (.given 0) "a")) ++
          Catalog.concatOperands (.ofValue (.int32 1)))) = .chosen 0 .normal ∧
      onMarkedObjects.catalog.concatTerm (.ofValue (.text (.given 0) "a"))
        (.ofValue (.int32 1)) = .error .argumentMismatch := by
  refine ⟨?_, by decide +kernel, by decide +kernel, ?_⟩
  · unfold Catalog.HoldsPrimitives
    decide +kernel
  · exact eq_of_mismatches (by decide +kernel)

end Scope

end Formula
