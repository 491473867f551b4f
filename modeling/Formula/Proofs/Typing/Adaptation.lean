import Formula.Proofs.Typing.Arguments

/-!
What a list of parameters takes can be passed for it: an argument that a parameter takes in the
choice of an overload converts to it without a cast, a default converts to it at least by one, and
there is one term for each parameter in the end, with no argument lost on the way.
-/

namespace Formula

namespace Parameter

/-- The default of the parameter, if it has one other than null, is of a type that converts to the
type of the parameter. -/
def DefaultConverts (catalog : Catalog) (parameter : Parameter) : Prop :=
  ∀ value ∈ parameter.default, value.isNull = false →
    (catalog.explicitConversion? value.type parameter.type).isSome = true

instance (catalog : Catalog) (parameter : Parameter) :
    Decidable (parameter.DefaultConverts catalog) :=
  inferInstanceAs (Decidable (∀ value ∈ parameter.default, value.isNull = false → _))

end Parameter

namespace Catalog

variable {catalog : Catalog} {source target : DataType} {parameter : Parameter}
  {parameters : List Parameter} {argument term : Term} {arguments passed : List Term}

theorem implicitConversion?_eq_none (none : catalog.implicitConversion? source target = none) :
    source ≠ target ∧ ¬catalog.StepsUp source target ∧ source.widensTo target = false ∧
      (target.isNullable = true → source ≠ target.underlying) ∧
      (target.isNullable = false →
        ¬(catalog.isValueType source = true ∧ catalog.isAssignable target source = true)) := by
  unfold implicitConversion? at none
  split at none
  · cases none
  · rename_i different
    rw [beq_iff_eq] at different
    split at none
    · cases none
    · rename_i noStep
      rw [Bool.and_eq_true] at noStep
      split at none
      · cases none
      · rename_i notWider
        rw [Bool.not_eq_true] at notWider
        refine ⟨different, noStep, notWider, ?_⟩
        split at none
        · cases none
        · split at none
          · rename_i marked
            rw [marked]
            split at none
            · cases none
            · rename_i notInner
              rw [Bool.or_eq_true, beq_iff_eq, not_or] at notInner
              exact ⟨fun _ => notInner.1, nofun⟩
          · rename_i unmarked
            split at none
            · cases none
            · rename_i notBoxed
              rw [Bool.and_eq_true] at notBoxed
              exact ⟨fun marked => absurd marked unmarked, fun _ => notBoxed⟩

/-- What a parameter takes converts to it without a cast. -/
theorem implicitConversion?_of_isCompatible (holds : catalog.HoldsPrimitives)
    (compatible : catalog.isCompatible target source = true) :
    ∃ conversion, catalog.implicitConversion? source target = some conversion := by
  by_contra missing
  have none : catalog.implicitConversion? source target = none := by
    rw [Option.eq_none_iff_forall_ne_some]
    exact fun conversion found => missing ⟨conversion, found⟩
  obtain ⟨different, noStep, notWider, notLifted, notBoxed⟩ := implicitConversion?_eq_none none
  -- What is assignable and no reference is a value, to be boxed unless null is added to it.
  have notAssignable : catalog.isAssignable target source = false := by
    rw [← Bool.not_eq_true]
    intro assignable
    have isValue : catalog.isValueType source = true := by
      rw [← Bool.not_eq_false]
      intro notValue
      exact noStep ⟨holds.isReferenceType_of_not_value notValue, assignable⟩
    have marked : target.isNullable = true := by
      rw [← Bool.not_eq_false]
      exact fun unmarked => notBoxed unmarked ⟨isValue, assignable⟩
    rcases isAssignable_cases assignable with same | root | ⟨_, inner⟩ | ⟨_, _, isElement, _⟩ |
      ⟨plain, _⟩
    · exact different same.symm
    · rw [root] at marked
      cases marked
    · exact notLifted marked inner.symm
    · rw [DataType.eq_arrayOf isElement] at marked
      cases marked
    · rw [plain] at marked
      cases marked
  unfold isCompatible at compatible
  rw [Bool.or_eq_true, Bool.or_eq_true, beq_iff_eq] at compatible
  rcases compatible with (same | root) | fits
  · exact different same.symm
  · rw [eq_of_beq root, isAssignable_object] at notAssignable
    cases notAssignable
  · split at fits
    · rw [notWider] at fits
      cases fits
    · rw [notAssignable] at fits
      cases fits

theorem implicitConversion?_declared {conversion : Conversion}
    (found : catalog.implicitConversion? source target = some conversion) :
    conversion ≠ .explicit ∧
      ∀ method, conversion = .operator method →
        catalog.implicitOperator? source target = some method := by
  unfold implicitConversion? at found
  split at found
  · cases found
    exact ⟨nofun, nofun⟩
  · split at found
    · cases found
      exact ⟨nofun, nofun⟩
    · split at found
      · cases found
        exact ⟨nofun, nofun⟩
      · split at found
        · rename_i declared
          cases found
          refine ⟨nofun, fun method same => ?_⟩
          cases same
          exact declared
        · split at found
          · split at found
            · cases found
              exact ⟨nofun, nofun⟩
            · cases found
          · split at found
            · cases found
              exact ⟨nofun, nofun⟩
            · cases found

/-- An argument passed for a type: null of the type, or the argument itself, where its type serves,
or the argument under a conversion that needs no cast. -/
inductive PassedFor (catalog : Catalog) (target : DataType) (argument : Term) : Term → Prop where
  | null (isNull : argument.isNull = true) (accepts : catalog.acceptsNull target = true) :
      PassedFor catalog target argument (.nullOf target)
  | unchanged (serves : catalog.Serves argument.type target) :
      PassedFor catalog target argument argument
  | converted {conversion : Conversion}
      (adds : conversion = .widening ∨ conversion = .boxing ∨ conversion = .lifting)
      (promise : catalog.Promises argument.type target conversion) :
      PassedFor catalog target argument (.convert argument target)
  | declared {method : Method}
      (found : catalog.implicitOperator? argument.type target = some method) :
      PassedFor catalog target argument (.convertBy method argument target)

theorem passedFor_of_implicitly? (found : catalog.implicitly? argument target = some term) :
    catalog.PassedFor target argument term := by
  unfold implicitly? at found
  split at found
  · rename_i null
    rw [Bool.and_eq_true] at null
    cases found
    exact .null null.1 null.2
  · obtain ⟨conversion, implicit, rfl⟩ := Option.map_eq_some_iff.mp found
    have promise := implicitConversion?_spec implicit
    obtain ⟨noCast, declared⟩ := implicitConversion?_declared implicit
    cases conversion with
    | identity => exact .unchanged (.inl promise)
    | reference => exact .unchanged (.inr promise)
    | widening => exact .converted (.inl rfl) promise
    | boxing => exact .converted (.inr (.inl rfl)) promise
    | lifting => exact .converted (.inr (.inr rfl)) promise
    | explicit => exact absurd rfl noCast
    | operator method => exact .declared (declared method rfl)

theorem passArgument_of_isCompatible (holds : catalog.HoldsPrimitives)
    (compatible : catalog.isCompatible target argument.type = true) :
    ∃ term, catalog.passArgument target argument = .ok term ∧
      catalog.PassedFor target argument term := by
  have found : ∃ term, catalog.implicitly? argument target = some term := by
    unfold implicitly?
    split
    · exact ⟨_, rfl⟩
    · obtain ⟨conversion, implicit⟩ := implicitConversion?_of_isCompatible holds compatible
      rw [implicit]
      exact ⟨_, rfl⟩
  obtain ⟨term, found⟩ := found
  refine ⟨term, ?_, passedFor_of_implicitly? found⟩
  unfold passArgument
  rw [found]

theorem passArgument_of_not_null {conversion : Conversion} (notNull : argument.isNull = false)
    (found : catalog.explicitConversion? argument.type target = some conversion) :
    catalog.passArgument target argument = .ok (conversion.apply argument target) := by
  unfold passArgument implicitly?
  rw [notNull, Bool.false_and, if_neg Bool.false_ne_true]
  cases implicit : catalog.implicitConversion? argument.type target with
  | none => rw [Option.map_none, found]
  | some other =>
      rw [explicitConversion?_of_implicit implicit] at found
      cases found
      rfl

/-- What stands for a parameter without an argument: null of its type, or its default under a
conversion to it. -/
inductive DefaultsTo (catalog : Catalog) (parameter : Parameter) : Term → Prop where
  | null (isDefault : parameter.default = some .null) :
      DefaultsTo catalog parameter (.nullOf parameter.type)
  | value {value : Value} {conversion : Conversion} (isDefault : parameter.default = some value)
      (notNull : value.isNull = false)
      (found : catalog.explicitConversion? value.type parameter.type = some conversion) :
      DefaultsTo catalog parameter (conversion.apply (.ofValue value) parameter.type)

theorem omittedArgument_of_default (present : parameter.default.isSome = true)
    (converts : parameter.DefaultConverts catalog) :
    ∃ term, catalog.omittedArgument parameter = .ok term ∧ catalog.DefaultsTo parameter term := by
  unfold omittedArgument
  split
  · rename_i isDefault
    exact ⟨_, rfl, .null isDefault⟩
  · rename_i value notNull isDefault
    obtain ⟨present, stays⟩ : value.isNull = false ∧ (Term.ofValue value).isNull = false := by
      cases value with
      | null => exact absurd rfl notNull
      | _ => exact ⟨rfl, rfl⟩
    obtain ⟨conversion, found⟩ := Option.isSome_iff_exists.mp (converts value isDefault present)
    exact ⟨_, passArgument_of_not_null stays found, .value isDefault present found⟩
  · rename_i missing
    rw [missing] at present
    cases present

/-- Terms for a list of parameters: the arguments in order, each passed for its parameter, and
defaults where there are no more of them. -/
inductive Fills (catalog : Catalog) : List Parameter → List Term → List Term → Prop where
  | nil : Fills catalog [] [] []
  | supplied {parameter : Parameter} {argument term : Term} {parameters : List Parameter}
      {arguments passed : List Term} (passedFor : catalog.PassedFor parameter.type argument term)
      (rest : Fills catalog parameters arguments passed) :
      Fills catalog (parameter :: parameters) (argument :: arguments) (term :: passed)
  | omitted {parameter : Parameter} {term : Term} {parameters : List Parameter}
      {passed : List Term} (defaultsTo : catalog.DefaultsTo parameter term)
      (rest : Fills catalog parameters [] passed) :
      Fills catalog (parameter :: parameters) [] (term :: passed)

theorem Fills.length_eq (fills : catalog.Fills parameters arguments passed) :
    passed.length = parameters.length := by
  induction fills with
  | nil => rfl
  | supplied _ _ ih => rw [List.length_cons, List.length_cons, ih]
  | omitted _ _ ih => rw [List.length_cons, List.length_cons, ih]

theorem passAll_fills (holds : catalog.HoldsPrimitives)
    (converts : ∀ parameter ∈ parameters, parameter.DefaultConverts catalog)
    (short : arguments.length ≤ parameters.length)
    (compatible : catalog.areCompatible parameters (arguments.map Term.type) = true)
    (omitted : ∀ parameter ∈ parameters.drop arguments.length,
      parameter.default.isSome = true) :
    ∃ passed, catalog.passAll parameters arguments = .ok passed ∧
      catalog.Fills parameters arguments passed := by
  induction parameters generalizing arguments with
  | nil =>
      rw [List.length_nil, Nat.le_zero, List.length_eq_zero_iff] at short
      rw [short]
      exact ⟨[], rfl, .nil⟩
  | cons parameter parameters ih =>
      have later : ∀ other ∈ parameters, other.DefaultConverts catalog := fun other member =>
        converts other (List.mem_cons_of_mem _ member)
      cases arguments with
      | nil =>
          obtain ⟨term, isTerm, defaultsTo⟩ := omittedArgument_of_default
            (omitted parameter (List.mem_cons_self ..)) (converts parameter (List.mem_cons_self ..))
          obtain ⟨passed, arePassed, fills⟩ := ih later (Nat.zero_le _)
            (by unfold areCompatible; rw [List.map_nil, List.zip_nil_right]; rfl)
            fun other member => omitted other (List.mem_cons_of_mem _ (List.mem_of_mem_drop member))
          refine ⟨term :: passed, ?_, .omitted defaultsTo fills⟩
          unfold passAll
          rw [isTerm, arePassed]
          rfl
      | cons argument arguments =>
          obtain ⟨compatibleHere, compatibleLater⟩ := areCompatible_cons compatible
          obtain ⟨term, isTerm, passedFor⟩ := passArgument_of_isCompatible holds compatibleHere
          obtain ⟨passed, arePassed, fills⟩ :=
            ih later (Nat.le_of_succ_le_succ short) compatibleLater omitted
          refine ⟨term :: passed, ?_, .supplied passedFor fills⟩
          unfold passAll
          rw [isTerm, arePassed]
          rfl

/-- The terms that a call is given for its arguments. In the expanded form the last one is an array
of all arguments from its place on, and those before it are for the other parameters. -/
inductive Adapts (catalog : Catalog) (parameters : List Parameter) (arguments : List Term) :
    List Term → Prop where
  | normal {passed : List Term}
      (takes : catalog.applicableForm? parameters (arguments.map Term.type) = some .normal)
      (fills : catalog.Fills parameters arguments passed) :
      Adapts catalog parameters arguments passed
  | expanded {element : DataType} {fixed : List Parameter} {last : Parameter}
      {passed items : List Term}
      (takes : catalog.applicableForm? parameters (arguments.map Term.type) =
        some (.expanded element))
      (parts : parameters = fixed ++ [last]) (collects : Collects last element)
      (fills : catalog.Fills fixed (arguments.take fixed.length) passed)
      (packs : List.Forall₂ (catalog.PassedFor element) (arguments.drop fixed.length) items) :
      Adapts catalog parameters arguments (passed ++ [.newArray element items])

theorem Adapts.length_eq (adapts : catalog.Adapts parameters arguments passed) :
    passed.length = parameters.length := by
  cases adapts with
  | normal _ fills => exact fills.length_eq
  | expanded _ parts _ fills _ =>
      rw [parts, List.length_append, List.length_append, fills.length_eq]
      rfl

theorem passItems_of_isCompatible (holds : catalog.HoldsPrimitives) {element : DataType}
    (compatible : ∀ argument ∈ arguments, catalog.isCompatible element argument.type = true) :
    ∃ items, arguments.mapM (catalog.passArgument element) = .ok items ∧
      List.Forall₂ (catalog.PassedFor element) arguments items := by
  induction arguments with
  | nil => exact ⟨[], rfl, .nil⟩
  | cons argument arguments ih =>
      obtain ⟨item, isItem, passedFor⟩ :=
        passArgument_of_isCompatible holds (compatible argument (List.mem_cons_self ..))
      obtain ⟨items, areItems, packs⟩ :=
        ih fun other member => compatible other (List.mem_cons_of_mem _ member)
      refine ⟨item :: items, ?_, .cons passedFor packs⟩
      rw [List.mapM_cons, isItem, areItems]
      rfl

theorem adaptArguments_of_applicableForm? (holds : catalog.HoldsPrimitives)
    (converts : ∀ parameter ∈ parameters, parameter.DefaultConverts catalog)
    (takes : (catalog.applicableForm? parameters (arguments.map Term.type)).isSome = true) :
    ∃ passed, catalog.adaptArguments parameters arguments = .ok passed ∧
      catalog.Adapts parameters arguments passed := by
  obtain ⟨form, takes⟩ := Option.isSome_iff_exists.mp takes
  unfold adaptArguments
  rw [takes]
  cases form with
  | normal =>
      have short := length_le_of_normal takes
      have omitted := omitted_of_normal takes
      rw [List.length_map] at short omitted
      obtain ⟨passed, arePassed, fills⟩ :=
        passAll_fills holds converts short (areCompatible_of_normal takes) omitted
      exact ⟨passed, arePassed, .normal takes fills⟩
  | expanded element =>
      obtain ⟨last, hasLast, collects⟩ := last_of_expanded takes
      have parts : parameters = parameters.take (parameters.length - 1) ++ [last] := by
        rw [← List.dropLast_eq_take]
        exact (List.dropLast_append_getLast? last hasLast).symm
      have count : (parameters.take (parameters.length - 1)).length = parameters.length - 1 := by
        rw [List.length_take, Nat.min_eq_left (Nat.sub_le _ _)]
      have compatible := areCompatible_of_expanded takes
      have collected := isCompatible_of_expanded takes
      have omitted := omitted_of_expanded takes
      rw [List.length_map] at omitted
      generalize parameters.take (parameters.length - 1) = fixed at *
      rw [← areCompatible_take, ← List.map_take] at compatible
      have convertsFixed : ∀ parameter ∈ fixed, parameter.DefaultConverts catalog :=
        fun parameter member => converts parameter (parts ▸ List.mem_append_left _ member)
      have omittedFixed : ∀ parameter ∈ fixed.drop (arguments.take fixed.length).length,
          parameter.default.isSome = true := by
        intro parameter member
        apply omitted parameter
        rw [List.length_take] at member
        by_cases fewer : arguments.length ≤ fixed.length
        · rw [Nat.min_eq_right fewer] at member
          exact member
        · rw [Nat.min_eq_left (by omega), List.drop_length] at member
          cases member
      obtain ⟨passed, arePassed, fills⟩ := passAll_fills holds convertsFixed
        (by rw [List.length_take]; exact Nat.min_le_left _ _) compatible omittedFixed
      rw [← count, ← List.map_drop] at collected
      obtain ⟨items, areItems, packs⟩ := passItems_of_isCompatible holds fun argument member =>
        collected argument.type (List.mem_map_of_mem member)
      refine ⟨passed ++ [.newArray element items], ?_, .expanded takes parts collects fills packs⟩
      simp only [arePassed, areItems]
      rfl

/-- The parameters can be called with the arguments exactly if they take them. -/
structure CallsWith (catalog : Catalog) (parameters : List Parameter) (arguments : List Term) :
    Prop where
  isOk_iff : (∃ passed, catalog.adaptArguments parameters arguments = .ok passed) ↔
    (catalog.applicableForm? parameters (arguments.map Term.type)).isSome = true
  spec : ∀ passed, catalog.adaptArguments parameters arguments = .ok passed →
    passed.length = parameters.length ∧ catalog.Adapts parameters arguments passed

theorem callsWith (holds : catalog.HoldsPrimitives)
    (converts : ∀ parameter ∈ parameters, parameter.DefaultConverts catalog)
    (arguments : List Term) : catalog.CallsWith parameters arguments := by
  have taken : ∀ passed, catalog.adaptArguments parameters arguments = .ok passed →
      (catalog.applicableForm? parameters (arguments.map Term.type)).isSome = true := by
    intro passed adapted
    unfold adaptArguments at adapted
    cases takes : catalog.applicableForm? parameters (arguments.map Term.type) with
    | none =>
        rw [takes] at adapted
        cases adapted
    | some form => rfl
  constructor
  · constructor
    · rintro ⟨passed, adapted⟩
      exact taken passed adapted
    · intro takes
      obtain ⟨passed, adapted, _⟩ := adaptArguments_of_applicableForm? holds converts takes
      exact ⟨passed, adapted⟩
  · intro passed adapted
    obtain ⟨same, isSame, adapts⟩ :=
      adaptArguments_of_applicableForm? holds converts (taken passed adapted)
    rw [adapted, Except.ok.injEq] at isSame
    rw [isSame]
    exact ⟨adapts.length_eq, adapts⟩

end Catalog

end Formula
