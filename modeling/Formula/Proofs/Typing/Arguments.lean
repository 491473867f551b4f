import Formula.Proofs.Typing.Lookup
import Formula.Typing.Arguments

/-!
Terms that are fitted to a type have it, or a reference type that serves for it, and arguments
that are fitted to parameters come one for each.
-/

namespace Formula

namespace Parameter

/-- The default of the parameter, if it has one, may stand as a constant: null of the type of the
parameter, any other value of its own type. -/
def DefaultFits (constant : Value → DataType → Prop) (parameter : Parameter) : Prop :=
  ∀ value, parameter.default = some value →
    if value.isNull then constant value parameter.type else constant value value.type

end Parameter

theorem DataType.eq_arrayOf {type element : DataType} (found : type.element? = some element) :
    type = element.arrayOf := by
  obtain ⟨id, nullable, rank⟩ := type
  cases rank with
  | zero => cases found
  | succ rank =>
      cases found
      rfl

def TypeEntry.declaredParameters (entry : TypeEntry) : List Parameter :=
  entry.methods.flatMap Method.parameters ++ entry.members.flatMap Member.parameters

namespace Catalog

variable {catalog : Catalog} {constant : Value → DataType → Prop}
  {receiver : String → DataType → Prop}

theorem declared_of_method {type : DataType} {isStatic : Bool} {method : Method}
    {parameter : Parameter} (declares : catalog.DeclaresMethod type isStatic method)
    (member : parameter ∈ method.parameters) :
    ∃ entry ∈ catalog.entries, parameter ∈ entry.declaredParameters := by
  obtain ⟨_, entry, declaring, declared⟩ := declares
  refine ⟨entry, (find?_mem (declaringEntries_find? declaring)).1, ?_⟩
  exact List.mem_append_left _ (List.mem_flatMap.mpr ⟨method, declared, member⟩)

theorem declared_of_member {type : DataType} {isStatic : Bool} {indexer : Member}
    {parameter : Parameter} (declares : catalog.DeclaresMember type isStatic indexer)
    (member : parameter ∈ indexer.parameters) :
    ∃ entry ∈ catalog.entries, parameter ∈ entry.declaredParameters := by
  obtain ⟨_, entry, declaring, declared⟩ := declares
  refine ⟨entry, (find?_mem (declaringEntries_find? declaring)).1, ?_⟩
  exact List.mem_append_right _ (List.mem_flatMap.mpr ⟨indexer, declared, member⟩)

/-- The constants that the builder makes by itself. -/
structure Constants (catalog : Catalog) (constant : Value → DataType → Prop) : Prop where
  ofNull : ∀ type, catalog.acceptsNull type = true → constant .null type
  ofLeast : ∀ kind, constant (.integer (.least kind)) (.ofScalar (.integer kind))
  ofDefault : ∀ entry ∈ catalog.entries, ∀ parameter ∈ entry.declaredParameters,
    parameter.DefaultFits constant

theorem Constants.ofMethod (constants : catalog.Constants constant) {type : DataType}
    {isStatic : Bool} {method : Method} (declares : catalog.DeclaresMethod type isStatic method) :
    ∀ parameter ∈ method.parameters, parameter.DefaultFits constant := by
  intro parameter member
  obtain ⟨entry, known, declared⟩ := declared_of_method declares member
  exact constants.ofDefault entry known parameter declared

theorem Constants.ofMember (constants : catalog.Constants constant) {type : DataType}
    {isStatic : Bool} {indexer : Member} (declares : catalog.DeclaresMember type isStatic indexer) :
    ∀ parameter ∈ indexer.parameters, parameter.DefaultFits constant := by
  intro parameter member
  obtain ⟨entry, known, declared⟩ := declared_of_member declares member
  exact constants.ofDefault entry known parameter declared

theorem wellFormed_constant {value : Value} {type : DataType} (fits : constant value type) :
    catalog.WellFormed constant receiver (.constant value type) :=
  .intro fits fun _ member => absurd member List.not_mem_nil

theorem wellFormed_one {term operand : Term} (below : term.children = [operand])
    (wellFormed : catalog.WellFormed constant receiver operand)
    (fits : catalog.NodeFits constant receiver term) :
    catalog.WellFormed constant receiver term := by
  refine .intro fits ?_
  rw [below]
  intro child member
  rw [List.mem_singleton.mp member]
  exact wellFormed

theorem wellFormed_two {term left right : Term} (below : term.children = [left, right])
    (wellFormedLeft : catalog.WellFormed constant receiver left)
    (wellFormedRight : catalog.WellFormed constant receiver right)
    (fits : catalog.NodeFits constant receiver term) :
    catalog.WellFormed constant receiver term := by
  refine .intro fits ?_
  rw [below]
  intro child member
  rw [List.mem_cons, List.mem_singleton] at member
  rcases member with rfl | rfl
  · exact wellFormedLeft
  · exact wellFormedRight

theorem passes_of_types {method : Method} {operand : Term} (types : method.types = [operand.type]) :
    catalog.Passes method.parameters [operand] := by
  unfold Method.types parameterTypes at types
  obtain ⟨parameter, rest, same, type, none⟩ := List.map_eq_cons_iff.mp types
  rw [List.map_eq_nil_iff] at none
  rw [same, none]
  exact .cons (.inl type.symm) .nil

theorem explicitConversion?_of_implicit {source target : DataType} {conversion : Conversion}
    (found : catalog.implicitConversion? source target = some conversion) :
    catalog.explicitConversion? source target = some conversion := by
  unfold explicitConversion?
  rw [found]

/-- What a conversion that was found promises. -/
def Promises (catalog : Catalog) (source target : DataType) : Conversion → Prop
  | .identity => source = target
  | .reference => catalog.StepsUp source target
  | .operator method =>
      (∃ owner, catalog.DeclaresMethod owner true method) ∧ method.types = [source] ∧
        method.result = target
  | .widening => source.widensTo target = true
  | .boxing =>
      source ≠ target ∧ target.isNullable = false ∧ catalog.isValueType source = true ∧
        catalog.isAssignable target source = true
  | .lifting =>
      target.isNullable = true ∧ ¬catalog.StepsUp source target ∧
        (source = target.underlying ∨ source.widensTo target.underlying = true)
  | .explicit => True

theorem implicitConversion?_spec {source target : DataType} {conversion : Conversion}
    (found : catalog.implicitConversion? source target = some conversion) :
    catalog.Promises source target conversion := by
  unfold implicitConversion? at found
  split at found
  · rename_i same
    cases found
    exact eq_of_beq same
  · rename_i different
    rw [beq_iff_eq] at different
    split at found
    · rename_i reference
      cases found
      exact Bool.and_eq_true_iff.mp reference
    · rename_i noStep
      rw [Bool.and_eq_true] at noStep
      split at found
      · rename_i widens
        cases found
        exact widens
      · split at found
        · rename_i method declared
          cases found
          obtain ⟨declares, types, result⟩ := declaresMethod_of_conversionOn? declared
          exact ⟨⟨source, declares⟩, types, result⟩
        · split at found
          · rename_i marked
            split at found
            · rename_i inner
              cases found
              rw [Bool.or_eq_true, beq_iff_eq] at inner
              exact ⟨marked, noStep, inner⟩
            · cases found
          · rename_i unmarked
            split at found
            · rename_i boxes
              cases found
              rw [Bool.and_eq_true] at boxes
              exact ⟨different, Bool.eq_false_iff.mpr unmarked, boxes⟩
            · cases found

theorem explicitConversion?_spec {source target : DataType} {conversion : Conversion}
    (found : catalog.explicitConversion? source target = some conversion) :
    catalog.Promises source target conversion := by
  unfold explicitConversion? at found
  cases implicit : catalog.implicitConversion? source target with
  | some other =>
      rw [implicit] at found
      cases found
      exact implicitConversion?_spec implicit
  | none =>
      simp only [implicit] at found
      split at found
      · cases found
        trivial
      · split at found
        · cases found
          trivial
        · split at found
          · cases found
            trivial
          · split at found
            · cases found
              trivial
            · obtain ⟨method, declared, rfl⟩ := Option.map_eq_some_iff.mp found
              exact declaresMethod_of_castOperator? declared

theorem apply_fits {conversion : Conversion} {term : Term} {target : DataType}
    (wellFormed : catalog.WellFormed constant receiver term)
    (found : catalog.explicitConversion? term.type target = some conversion) :
    catalog.WellFormed constant receiver (conversion.apply term target) ∧
      catalog.Serves (conversion.apply term target).type target := by
  have promise := explicitConversion?_spec found
  have converted : catalog.NodeFits constant receiver (.convert term target) := by
    change (catalog.explicitConversion? term.type target).isSome = true
    rw [found]
    rfl
  cases conversion with
  | identity => exact ⟨wellFormed, .inl promise⟩
  | reference => exact ⟨wellFormed, .inr promise⟩
  | operator method =>
      obtain ⟨declares, types, result⟩ := promise
      exact ⟨wellFormed_one rfl wellFormed ⟨declares, passes_of_types types, result⟩, .inl rfl⟩
  | widening | boxing | lifting | explicit =>
      exact ⟨wellFormed_one rfl wellFormed converted, .inl rfl⟩

theorem implicitly?_fits (constants : catalog.Constants constant) {term converted : Term}
    {target : DataType} (wellFormed : catalog.WellFormed constant receiver term)
    (found : catalog.implicitly? term target = some converted) :
    catalog.WellFormed constant receiver converted ∧ catalog.Serves converted.type target := by
  unfold implicitly? at found
  split at found
  · rename_i null
    rw [Bool.and_eq_true] at null
    cases found
    exact ⟨wellFormed_constant (constants.ofNull target null.2), .inl rfl⟩
  · obtain ⟨conversion, implicit, rfl⟩ := Option.map_eq_some_iff.mp found
    exact apply_fits wellFormed (explicitConversion?_of_implicit implicit)

theorem requireImplicit_fits (constants : catalog.Constants constant) {term converted : Term}
    {target : DataType} (wellFormed : catalog.WellFormed constant receiver term)
    (found : catalog.requireImplicit term target = .ok converted) :
    catalog.WellFormed constant receiver converted ∧ catalog.Serves converted.type target := by
  unfold requireImplicit at found
  split at found
  · rename_i implicit
    cases found
    exact implicitly?_fits constants wellFormed implicit
  · cases found

theorem passArgument_fits (constants : catalog.Constants constant) {term passed : Term}
    {target : DataType} (wellFormed : catalog.WellFormed constant receiver term)
    (found : catalog.passArgument target term = .ok passed) :
    catalog.WellFormed constant receiver passed ∧ catalog.Serves passed.type target := by
  unfold passArgument at found
  split at found
  · rename_i implicit
    cases found
    exact implicitly?_fits constants wellFormed implicit
  · split at found
    · rename_i explicit
      cases found
      exact apply_fits wellFormed explicit
    · cases found

theorem omittedArgument_fits (constants : catalog.Constants constant) {parameter : Parameter}
    {passed : Term} (defaultFits : parameter.DefaultFits constant)
    (present : parameter.default.isSome = true)
    (found : catalog.omittedArgument parameter = .ok passed) :
    catalog.WellFormed constant receiver passed ∧
      catalog.Serves passed.type parameter.type := by
  unfold omittedArgument at found
  split at found
  · rename_i isNull
    cases found
    exact ⟨wellFormed_constant (defaultFits .null isNull), .inl rfl⟩
  · rename_i value present notNull
    have fits := defaultFits value notNull
    have nonNull : value.isNull = false := by
      cases value with
      | null => exact absurd rfl present
      | _ => rfl
    rw [nonNull] at fits
    exact passArgument_fits constants (wellFormed_constant fits) found
  · rename_i missing
    rw [missing] at present
    cases present

def ArgumentsFit (catalog : Catalog) (constant : Value → DataType → Prop)
    (receiver : String → DataType → Prop) (parameters : List Parameter)
    (arguments : List Term) : Prop :=
  (∀ argument ∈ arguments, catalog.WellFormed constant receiver argument) ∧
    catalog.Passes parameters arguments

theorem ArgumentsFit.cons {parameter : Parameter} {parameters : List Parameter} {argument : Term}
    {arguments : List Term}
    (first : catalog.WellFormed constant receiver argument ∧
      catalog.Serves argument.type parameter.type)
    (rest : catalog.ArgumentsFit constant receiver parameters arguments) :
    catalog.ArgumentsFit constant receiver (parameter :: parameters) (argument :: arguments) := by
  refine ⟨?_, .cons first.2 rest.2⟩
  intro other member
  rw [List.mem_cons] at member
  rcases member with rfl | later
  · exact first.1
  · exact rest.1 other later

theorem passAll_fits (constants : catalog.Constants constant) {parameters : List Parameter}
    {arguments passed : List Term}
    (defaultsFit : ∀ parameter ∈ parameters, parameter.DefaultFits constant)
    (wellFormed : ∀ argument ∈ arguments, catalog.WellFormed constant receiver argument)
    (omitted : ∀ parameter ∈ parameters.drop arguments.length,
      parameter.default.isSome = true)
    (found : catalog.passAll parameters arguments = .ok passed) :
    catalog.ArgumentsFit constant receiver parameters passed := by
  induction parameters generalizing arguments passed with
  | nil =>
      unfold passAll at found
      cases found
      exact ⟨fun _ member => absurd member List.not_mem_nil, .nil⟩
  | cons parameter parameters ih =>
      have later : ∀ other ∈ parameters, other.DefaultFits constant := fun other member =>
        defaultsFit other (List.mem_cons_of_mem _ member)
      have here := defaultsFit parameter (List.mem_cons_self ..)
      cases arguments with
      | nil =>
          unfold passAll at found
          simp only [bind_eq_ok, pure_eq_ok] at found
          obtain ⟨first, isFirst, rest, areRest, rfl⟩ := found
          have present := omitted parameter (List.mem_cons_self ..)
          refine ArgumentsFit.cons (omittedArgument_fits constants here present isFirst) ?_
          exact ih later wellFormed (fun other member =>
            omitted other (List.mem_cons_of_mem _ member)) areRest
      | cons argument arguments =>
          unfold passAll at found
          simp only [bind_eq_ok, pure_eq_ok] at found
          obtain ⟨first, isFirst, rest, areRest, rfl⟩ := found
          have wellFormedHere := wellFormed argument (List.mem_cons_self ..)
          refine ArgumentsFit.cons (passArgument_fits constants wellFormedHere isFirst) ?_
          exact ih later (fun other member => wellFormed other (List.mem_cons_of_mem _ member))
            omitted areRest

theorem adaptArguments_fits (constants : catalog.Constants constant)
    {parameters : List Parameter} {arguments passed : List Term}
    (defaultsFit : ∀ parameter ∈ parameters, parameter.DefaultFits constant)
    (wellFormed : ∀ argument ∈ arguments, catalog.WellFormed constant receiver argument)
    (found : catalog.adaptArguments parameters arguments = .ok passed) :
    catalog.ArgumentsFit constant receiver parameters passed := by
  unfold adaptArguments at found
  split at found
  · cases found
  · rename_i takes
    have omitted := omitted_of_normal takes
    rw [List.length_map] at omitted
    exact passAll_fits constants defaultsFit wellFormed omitted found
  · rename_i element takes
    simp only [bind_eq_ok, pure_eq_ok] at found
    obtain ⟨fixed, areFixed, items, areItems, rfl⟩ := found
    obtain ⟨last, hasLast, collects⟩ := last_of_expanded takes
    have omitted := omitted_of_expanded takes
    rw [List.length_map] at omitted
    have split : parameters.take (parameters.length - 1) ++ [last] = parameters := by
      rw [← List.dropLast_eq_take]
      exact List.dropLast_append_getLast? last hasLast
    have fitsFixed : catalog.ArgumentsFit constant receiver
        (parameters.take (parameters.length - 1)) fixed := by
      refine passAll_fits constants ?_ ?_ ?_ areFixed
      · exact fun parameter member => defaultsFit parameter (List.mem_of_mem_take member)
      · exact fun argument member => wellFormed argument (List.mem_of_mem_take member)
      · intro parameter member
        apply omitted parameter
        rw [List.length_take] at member
        by_cases fewer : arguments.length ≤ (parameters.take (parameters.length - 1)).length
        · rw [Nat.min_eq_right fewer] at member
          exact member
        · rw [Nat.min_eq_left (by omega), List.drop_length] at member
          cases member
    have fitsItems : ∀ item ∈ items, catalog.WellFormed constant receiver item ∧
        catalog.Serves item.type element := by
      intro item member
      have each := mapM_eq_ok.mp areItems
      obtain ⟨position, inRange, rfl⟩ := List.mem_iff_getElem.mp member
      have bound := inRange
      rw [← each.length_eq] at bound
      refine passArgument_fits constants (wellFormed _ ?_) (each.get bound inRange)
      exact List.mem_of_mem_drop (List.getElem_mem bound)
    have fitsLast : catalog.WellFormed constant receiver (.newArray element items) ∧
        catalog.Serves (Term.newArray element items).type last.type := by
      refine ⟨.intro (fun item member => (fitsItems item member).2)
        (fun item member => (fitsItems item member).1), .inl ?_⟩
      exact (DataType.eq_arrayOf collects.element_eq).symm
    rw [← split]
    refine ⟨?_, ?_⟩
    · intro argument member
      rw [List.mem_append, List.mem_singleton] at member
      rcases member with earlier | rfl
      · exact fitsFixed.1 argument earlier
      · exact fitsLast.1
    · exact List.rel_append fitsFixed.2 (.cons fitsLast.2 .nil)

end Catalog

end Formula
