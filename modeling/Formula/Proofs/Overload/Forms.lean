import Formula.Proofs.Catalog.Hierarchy
import Formula.Proofs.Overload.Applicability

/-!
The two forms of a call, each said by itself: position by position, what the arguments are passed
for and which parameters are left to a default. The search for a form never tries both. It settles
on one by the number of arguments and a look at the last of them, and that is the normal form
wherever the arguments allow it.
-/

namespace Formula.Catalog

section Statements

variable (catalog : Catalog) (parameters : List Parameter) (arguments : List DataType)

/-- Every argument has a parameter that takes it, and the parameters left over have defaults. -/
structure TakesNormally : Prop where
  enough : arguments.length ≤ parameters.length
  compatible : ∀ (position : Nat) (parameter : Parameter) (argument : DataType),
    parameters[position]? = some parameter → arguments[position]? = some argument →
      catalog.isCompatible parameter.type argument = true
  omitted : ∀ (position : Nat) (parameter : Parameter),
    parameters[position]? = some parameter → arguments.length ≤ position →
      parameter.default.isSome = true

/-- The last parameter collects elements of a type: all arguments from its place on. Those before
it are passed as in the normal form. -/
structure TakesExpanded (element : DataType) : Prop where
  collects : ∃ last, parameters.getLast? = some last ∧ Collects last element
  compatible : ∀ (position : Nat) (parameter : Parameter) (argument : DataType),
    position < parameters.length - 1 → parameters[position]? = some parameter →
      arguments[position]? = some argument → catalog.isCompatible parameter.type argument = true
  omitted : ∀ (position : Nat) (parameter : Parameter),
    position < parameters.length - 1 → parameters[position]? = some parameter →
      arguments.length ≤ position → parameter.default.isSome = true
  collected : ∀ (position : Nat) (argument : DataType), parameters.length - 1 ≤ position →
    arguments[position]? = some argument → catalog.isCompatible element argument = true

end Statements

variable {catalog : Catalog} {parameters : List Parameter} {arguments : List DataType}
  {last : Parameter} {element : DataType}

theorem forall_mem_drop_iff {α : Type} {items : List α} {count : Nat} {holds : α → Prop} :
    (∀ item ∈ items.drop count, holds item) ↔
      ∀ (position : Nat) (item : α), items[position]? = some item → count ≤ position →
        holds item := by
  constructor
  · intro all position item found late
    refine all item (List.mem_iff_getElem?.mpr ⟨position - count, ?_⟩)
    rw [List.getElem?_drop, Nat.add_sub_cancel' late]
    exact found
  · intro all item member
    obtain ⟨position, found⟩ := List.mem_iff_getElem?.mp member
    rw [List.getElem?_drop] at found
    exact all (count + position) item found (Nat.le_add_right _ _)

theorem getElem?_take_eq_some_iff {α : Type} {items : List α} {count position : Nat} {item : α} :
    (items.take count)[position]? = some item ↔
      position < count ∧ items[position]? = some item := by
  rw [List.getElem?_take]
  split
  · rename_i inside
    exact (and_iff_right inside).symm
  · rename_i outside
    exact iff_of_false (by simp) fun both => outside both.1

theorem takesNormally_iff :
    catalog.TakesNormally parameters arguments ↔
      arguments.length ≤ parameters.length ∧
        catalog.areCompatible parameters arguments = true ∧
        ∀ parameter ∈ parameters.drop arguments.length, parameter.default.isSome = true := by
  rw [areCompatible_iff, forall_mem_drop_iff]
  exact ⟨fun takes => ⟨takes.enough, takes.compatible, takes.omitted⟩,
    fun ⟨enough, compatible, omitted⟩ => ⟨enough, compatible, omitted⟩⟩

theorem takesExpanded_iff :
    catalog.TakesExpanded parameters arguments element ↔
      (∃ last, parameters.getLast? = some last ∧ Collects last element) ∧
        catalog.areCompatible (parameters.take (parameters.length - 1)) arguments = true ∧
        (∀ parameter ∈ (parameters.take (parameters.length - 1)).drop arguments.length,
          parameter.default.isSome = true) ∧
        ∀ argument ∈ arguments.drop (parameters.length - 1),
          catalog.isCompatible element argument = true := by
  rw [areCompatible_iff, forall_mem_drop_iff, forall_mem_drop_iff]
  simp only [getElem?_take_eq_some_iff, and_imp]
  constructor
  · intro takes
    exact ⟨takes.collects, fun position parameter argument => takes.compatible position parameter
      argument, fun position parameter => takes.omitted position parameter,
      fun position argument found late => takes.collected position argument late found⟩
  · rintro ⟨collects, compatible, omitted, collected⟩
    exact ⟨collects, compatible, omitted, fun position argument late found =>
      collected position argument found late⟩

theorem isCompatible_of_isArray {array argument : DataType} (isArray : array.isArray = true) :
    catalog.isCompatible array argument = catalog.isAssignable array argument := by
  have notObject : array.isObject = false := by
    cases isObject : array.isObject with
    | false => rfl
    | true =>
        rw [eq_of_beq isObject] at isArray
        cases isArray
  have notScalar : array.scalar? = none := by
    unfold DataType.scalar?
    rw [if_neg]
    rintro ⟨flat, _⟩
    unfold DataType.isArray at isArray
    rw [flat] at isArray
    cases isArray
  unfold isCompatible
  rw [notObject, notScalar, Bool.or_false]
  by_cases same : array = argument
  · rw [same, beq_self_eq_true, Bool.true_or, isAssignable_refl]
  · rw [beq_eq_false_iff_ne.mpr same]
    rfl

theorem Collects.isArray (collects : Collects last element) : last.type.isArray = true := by
  have hasElement := collects.element_eq
  unfold DataType.element? at hasElement
  unfold DataType.isArray
  split at hasElement
  · cases hasElement
  · rename_i rank isRank
    rw [isRank]
    exact decide_eq_true (Nat.succ_pos rank)

theorem expandedForm?_of_collects (collects : Collects last element) :
    expandedForm? last = some (.expanded element) := by
  unfold expandedForm?
  rw [if_pos collects.isVariadic, collects.element_eq]
  rfl

theorem getElem?_of_getLast? (hasLast : parameters.getLast? = some last) :
    parameters[parameters.length - 1]? = some last := by
  rw [← hasLast, List.getLast?_eq_getElem?]

theorem TakesExpanded.normally (takes : catalog.TakesExpanded parameters arguments element)
    (hasLast : parameters.getLast? = some last) (enough : arguments.length ≤ parameters.length)
    (fits : ∀ argument, arguments[parameters.length - 1]? = some argument →
      catalog.isCompatible last.type argument = true)
    (orDefault : arguments.length < parameters.length → last.default.isSome = true) :
    catalog.TakesNormally parameters arguments := by
  have isLast := getElem?_of_getLast? hasLast
  have split : ∀ {position : Nat} {parameter : Parameter}, parameters[position]? = some parameter →
      position < parameters.length - 1 ∨ position = parameters.length - 1 ∧ parameter = last := by
    intro position parameter found
    obtain ⟨inRange, _⟩ := List.getElem?_eq_some_iff.mp found
    by_cases before : position < parameters.length - 1
    · exact .inl before
    · have atLast : position = parameters.length - 1 := by omega
      rw [atLast, isLast] at found
      exact .inr ⟨atLast, (Option.some.inj found).symm⟩
  refine ⟨enough, ?_, ?_⟩
  · intro position parameter argument isParameter isArgument
    rcases split isParameter with before | ⟨rfl, rfl⟩
    · exact takes.compatible position parameter argument before isParameter isArgument
    · exact fits argument isArgument
  · intro position parameter isParameter late
    obtain ⟨inRange, _⟩ := List.getElem?_eq_some_iff.mp isParameter
    rcases split isParameter with before | ⟨rfl, rfl⟩
    · exact takes.omitted position parameter before isParameter late
    · exact orDefault (by omega)

theorem formByShape?_of_fewer (fewer : arguments.length < parameters.length)
    (defaults : ∀ parameter ∈ (parameters.take (parameters.length - 1)).drop arguments.length,
      parameter.default.isSome = true) :
    catalog.formByShape? parameters last arguments =
      if last.default.isSome then some .normal else expandedForm? last := by
  have all := List.all_eq_true.mpr defaults
  unfold formByShape?
  simp only [fewer, all, if_true, Bool.not_true, Bool.false_eq_true, if_false]

theorem formByShape?_of_equal (catalog : Catalog) (count : arguments.length = parameters.length)
    (hasLast : parameters.getLast? = some last) :
    ∃ final, arguments[parameters.length - 1]? = some final ∧
      catalog.formByShape? parameters last arguments =
        if last.isVariadic && !catalog.isAssignable last.type final then expandedForm? last
        else some .normal := by
  obtain ⟨inRange, _⟩ := List.getElem?_eq_some_iff.mp (getElem?_of_getLast? hasLast)
  rw [← count] at inRange ⊢
  have isFinal := List.getElem?_eq_getElem inRange
  have hasFinal : arguments.getLast? = some arguments[arguments.length - 1] := by
    rw [List.getLast?_eq_getElem?, isFinal]
  exact ⟨_, isFinal, formByShape?_of_length_eq count hasFinal⟩

theorem applicableForm?_of_takesNormally (takes : catalog.TakesNormally parameters arguments)
    (arrays : ∀ parameter ∈ parameters, parameter.isVariadic = true →
      parameter.type.isArray = true) :
    catalog.applicableForm? parameters arguments = some .normal := by
  obtain ⟨enough, compatible, _⟩ := takesNormally_iff.mp takes
  cases hasLast : parameters.getLast? with
  | none =>
      rw [List.getLast?_eq_none_iff] at hasLast
      subst hasLast
      rw [List.length_nil, Nat.le_zero, List.length_eq_zero_iff] at enough
      subst enough
      rfl
  | some last =>
      have isLast := getElem?_of_getLast? hasLast
      refine applicableForm?_of_normal hasLast ?_ compatible
      by_cases fewer : arguments.length < parameters.length
      · have hasDefault := takes.omitted _ last isLast (by omega)
        rw [formByShape?_of_fewer fewer, if_pos hasDefault]
        exact forall_mem_drop_iff.mpr fun position parameter found late =>
          takes.omitted position parameter (getElem?_take_eq_some_iff.mp found).2 late
      · have count : arguments.length = parameters.length := by omega
        obtain ⟨final, isFinal, shape⟩ := formByShape?_of_equal catalog count hasLast
        have passes := takes.compatible _ last final isLast isFinal
        rw [shape, if_neg]
        rw [Bool.and_eq_true, Bool.not_eq_true', not_and, Bool.not_eq_false]
        intro variadic
        have isArray := arrays last (List.mem_of_getLast? hasLast) variadic
        rwa [isCompatible_of_isArray isArray] at passes

theorem applicableForm?_of_takesExpanded
    (takes : catalog.TakesExpanded parameters arguments element)
    (notNormal : ¬catalog.TakesNormally parameters arguments) :
    catalog.applicableForm? parameters arguments = some (.expanded element) := by
  obtain ⟨⟨last, hasLast, collects⟩, compatible, omitted, collected⟩ := takesExpanded_iff.mp takes
  have isLast := getElem?_of_getLast? hasLast
  obtain ⟨inRange, _⟩ := List.getElem?_eq_some_iff.mp isLast
  refine applicableForm?_of_expanded hasLast ?_ compatible collected
  rw [← expandedForm?_of_collects collects]
  rcases Nat.lt_trichotomy arguments.length parameters.length with fewer | count | more
  · rw [formByShape?_of_fewer fewer omitted, if_neg]
    intro hasDefault
    refine notNormal (takes.normally hasLast (by omega) ?_ fun _ => hasDefault)
    intro argument found
    obtain ⟨given, _⟩ := List.getElem?_eq_some_iff.mp found
    omega
  · obtain ⟨final, isFinal, shape⟩ := formByShape?_of_equal catalog count hasLast
    rw [shape, if_pos]
    rw [collects.isVariadic, Bool.true_and, Bool.not_eq_true']
    by_contra assignable
    rw [Bool.not_eq_false, ← isCompatible_of_isArray collects.isArray] at assignable
    refine notNormal (takes.normally hasLast (Nat.le_of_eq count) ?_ (by omega))
    intro argument found
    rw [isFinal] at found
    cases found
    exact assignable
  · unfold formByShape?
    rw [if_neg (by omega), if_pos more]

theorem takesExpanded_of_applicableForm?
    (takes : catalog.applicableForm? parameters arguments = some (.expanded element)) :
    catalog.TakesExpanded parameters arguments element :=
  takesExpanded_iff.mpr ⟨last_of_expanded takes, areCompatible_of_expanded takes,
    omitted_of_expanded takes, isCompatible_of_expanded takes⟩

theorem takesNormally_of_applicableForm?
    (takes : catalog.applicableForm? parameters arguments = some .normal) :
    catalog.TakesNormally parameters arguments :=
  takesNormally_iff.mpr
    ⟨length_le_of_normal takes, areCompatible_of_normal takes, omitted_of_normal takes⟩

/-- The normal form is chosen wherever it is possible, the expanded one where it is the only one,
and without either there is no call. -/
theorem applicableForm?_forms (catalog : Catalog) (parameters : List Parameter)
    (arguments : List DataType)
    (arrays : ∀ parameter ∈ parameters, parameter.isVariadic = true →
      parameter.type.isArray = true) :
    (catalog.applicableForm? parameters arguments = some .normal ↔
        catalog.TakesNormally parameters arguments) ∧
      (∀ element, catalog.applicableForm? parameters arguments = some (.expanded element) ↔
        catalog.TakesExpanded parameters arguments element ∧
          ¬catalog.TakesNormally parameters arguments) ∧
      (catalog.applicableForm? parameters arguments = none ↔
        ¬catalog.TakesNormally parameters arguments ∧
          ∀ element, ¬catalog.TakesExpanded parameters arguments element) := by
  have normal : catalog.applicableForm? parameters arguments = some .normal ↔
      catalog.TakesNormally parameters arguments :=
    ⟨takesNormally_of_applicableForm?, fun takes => applicableForm?_of_takesNormally takes arrays⟩
  have expanded : ∀ element,
      catalog.applicableForm? parameters arguments = some (.expanded element) ↔
        catalog.TakesExpanded parameters arguments element ∧
          ¬catalog.TakesNormally parameters arguments := by
    refine fun element => ⟨fun takes => ⟨takesExpanded_of_applicableForm? takes, ?_⟩,
      fun takes => applicableForm?_of_takesExpanded takes.1 takes.2⟩
    rw [← normal, takes]
    exact fun impossible => CallForm.noConfusion (Option.some.inj impossible)
  refine ⟨normal, expanded, ?_⟩
  constructor
  · intro refused
    rw [← normal, refused]
    refine ⟨nofun, fun element takes => ?_⟩
    by_cases either : catalog.TakesNormally parameters arguments
    · rw [normal.mpr either] at refused
      cases refused
    · rw [applicableForm?_of_takesExpanded takes either] at refused
      cases refused
  · rintro ⟨noNormal, noExpanded⟩
    cases takes : catalog.applicableForm? parameters arguments with
    | none => rfl
    | some form =>
        cases form with
        | normal => exact absurd (normal.mp takes) noNormal
        | expanded element => exact absurd ((expanded element).mp takes).1 (noExpanded element)

def patternParameters : List Parameter :=
  [.of "format" .string, .variadic "args" .object]

theorem applicableForm?_forms_pattern :
    (∀ parameter ∈ patternParameters, parameter.isVariadic = true →
      parameter.type.isArray = true) ∧
    primitives.TakesExpanded patternParameters [.string, .ofScalar (.integer .int32), .string]
      .object ∧
    primitives.TakesNormally patternParameters [.string, DataType.object.arrayOf] ∧
    ¬primitives.TakesNormally patternParameters [] ∧
    ∀ element, ¬primitives.TakesExpanded patternParameters [] element := by
  have arrays : ∀ parameter ∈ patternParameters, parameter.isVariadic = true →
      parameter.type.isArray = true := by decide
  have chosen := applicableForm?_forms primitives patternParameters
  have collected := ((chosen [.string, .ofScalar (.integer .int32), .string] arrays).2.1
    .object).mp (by decide)
  have passed := (chosen [.string, DataType.object.arrayOf] arrays).1.mp (by decide)
  have refused := (chosen [] arrays).2.2.mp (by decide)
  exact ⟨arrays, collected.1, passed, refused⟩

end Formula.Catalog
