import Formula.Proofs.Library.Concatenations
import Formula.Proofs.Overload.Exactness
import Formula.Proofs.Overload.Forms

/-!
The overloads that concatenate, as they are selected. Few operands have one with a parameter for
each, more of them the one that takes a row, and in either case no other takes the operands as
exactly: those for texts take no objects, and those for objects take texts as something wider.
-/

namespace Formula

namespace Catalog

open Library

variable {catalog : Catalog}

theorem form_fixed {element : DataType} {parameters : List Parameter} {types : List DataType}
    {form : CallForm} (takesEach : ∀ parameter ∈ parameters, TakesOperand element parameter)
    (takes : catalog.applicableForm? parameters types = some form) :
    form = .normal ∧ types.length = parameters.length := by
  cases form with
  | expanded collected =>
      obtain ⟨last, hasLast, collects⟩ := last_of_expanded takes
      have single := (takesEach last (List.mem_of_getLast? hasLast)).single
      rw [collects.isVariadic] at single
      cases single
  | normal =>
      refine ⟨rfl, ?_⟩
      have bound := length_le_of_normal takes
      have omitted := omitted_of_normal takes
      by_contra different
      have fewer : types.length < parameters.length := by omega
      have here := omitted (parameters[types.length]) (by
        rw [List.drop_eq_getElem_cons fewer]
        exact List.mem_cons_self ..)
      rw [(takesEach _ (List.getElem_mem fewer)).default] at here
      cases here

theorem form_variadic {name : String} {element : DataType} {types : List DataType}
    {form : CallForm}
    (takes : catalog.applicableForm? [.variadic name element] types = some form) :
    (form = .normal ∧ types.length = 1) ∨ form = .expanded element := by
  cases form with
  | expanded collected =>
      obtain ⟨last, hasLast, collects⟩ := last_of_expanded takes
      cases hasLast
      have same : some element = some collected := collects.element_eq
      cases same
      exact .inr rfl
  | normal =>
      refine .inl ⟨rfl, ?_⟩
      have bound : types.length ≤ 1 := length_le_of_normal takes
      have omitted := omitted_of_normal takes
      cases types with
      | nil =>
          have here := omitted (.variadic name element) (List.mem_singleton_self _)
          cases here
      | cons first rest =>
          rw [List.length_cons] at bound ⊢
          omega

theorem isCompatible_object (distinct : catalog.isAssignable .string .object = false) :
    catalog.isCompatible .string .object = false := by
  unfold isCompatible
  rw [if_neg (by decide), distinct]
  decide

theorem not_applicable_objects (distinct : catalog.isAssignable .string .object = false)
    {method : Method} (isConcat : IsConcat method .string) {count : Nat} (several : 2 ≤ count)
    (form : CallForm) :
    catalog.applicableForm? method.parameters (List.replicate count .object) ≠ some form := by
  intro takes
  have refused := isCompatible_object distinct
  obtain ⟨rest, rfl⟩ : ∃ rest, count = rest + 1 := ⟨count - 1, by omega⟩
  rcases isConcat.parameters with ⟨nonempty, takesEach⟩ | ⟨name, variadic⟩
  · obtain ⟨isNormal, _⟩ := form_fixed takesEach takes
    subst isNormal
    have fits := areCompatible_of_normal takes
    obtain ⟨first, others, isFirst⟩ := List.exists_cons_of_ne_nil nonempty
    have isText := (takesEach first (by rw [isFirst]; exact List.mem_cons_self ..)).type
    rw [isFirst, List.replicate_succ] at fits
    unfold areCompatible at fits
    rw [List.zip_cons_cons, List.all_cons, Bool.and_eq_true] at fits
    have fitsFirst : catalog.isCompatible first.type .object = true := fits.1
    rw [isText, refused] at fitsFirst
    exact Bool.false_ne_true fitsFirst
  · rw [variadic] at takes
    rcases form_variadic takes with ⟨_, single⟩ | isExpanded
    · rw [List.length_replicate] at single
      omega
    · subst isExpanded
      have fits := isCompatible_of_expanded takes .object (by
        rw [List.length_singleton, Nat.sub_self, List.drop_zero, List.replicate_succ]
        exact List.mem_cons_self ..)
      rw [refused] at fits
      exact Bool.false_ne_true fits

theorem parameterTypes_fixed {element : DataType} {parameters : List Parameter}
    (takesEach : ∀ parameter ∈ parameters, TakesOperand element parameter) :
    parameterTypes parameters = List.replicate parameters.length element := by
  refine List.eq_replicate_iff.mpr ⟨List.length_map _, fun type member => ?_⟩
  obtain ⟨parameter, isParameter, rfl⟩ := List.mem_map.mp member
  exact (takesEach parameter isParameter).type

/-- There are overloads with a parameter for each of so many operands. -/
def IsFew (element : DataType) (count : Nat) : Prop :=
  (element = .string ∧ count ≤ 4) ∨ (element = .object ∧ count ≤ 3)

theorem exists_fixed {element : DataType} {count : Nat} (few : IsFew element count)
    (several : 2 ≤ count) :
    ∃ label, (concatOf label element count).ownedBy .string ∈ concatMethods := by
  rcases few with ⟨rfl, bound⟩ | ⟨rfl, bound⟩
  · refine ⟨"str", List.mem_map_of_mem (List.mem_append_left _ (List.mem_append_left _
      (List.mem_append_left _ (List.mem_map_of_mem ?_))))⟩
    simp only [List.mem_cons, List.not_mem_nil, or_false]
    omega
  · refine ⟨"arg", List.mem_map_of_mem (List.mem_append_left _ (List.mem_append_right _
      (List.mem_map_of_mem ?_)))⟩
    simp only [List.mem_cons, List.not_mem_nil, or_false]
    omega

theorem exists_variadic {element : DataType} (known : element = .string ∨ element = .object) :
    ∃ name, (concatAll name element).ownedBy .string ∈ concatMethods := by
  rcases known with rfl | rfl
  · exact ⟨"values", List.mem_map_of_mem (List.mem_append_left _ (List.mem_append_left _
      (List.mem_append_right _ (List.mem_singleton_self _))))⟩
  · exact ⟨"args", List.mem_map_of_mem (List.mem_append_right _ (List.mem_singleton_self _))⟩

theorem isFew_of_mem {method : Method} (member : method ∈ concatMethods) {element : DataType}
    (known : element = .string ∨ element = .object) {count : Nat} (several : 0 < count)
    (types : parameterTypes method.parameters = List.replicate count element) :
    IsFew element count := by
  have bounds : ∀ method ∈ concatMethods,
      (.string ∈ parameterTypes method.parameters →
        (parameterTypes method.parameters).length ≤ 4) ∧
      (.object ∈ parameterTypes method.parameters →
        (parameterTypes method.parameters).length ≤ 3) := by decide +kernel
  have bound := bounds method member
  have isElement : element ∈ List.replicate count element :=
    List.mem_replicate.mpr ⟨Nat.ne_of_gt several, rfl⟩
  rw [types, List.length_replicate] at bound
  rcases known with rfl | rfl
  · exact .inl ⟨rfl, bound.1 isElement⟩
  · exact .inr ⟨rfl, bound.2 isElement⟩

theorem eq_of_parameterTypes {place other : Nat} {method rival : Method}
    (found : concatMethods[place]? = some method) (foundRival : concatMethods[other]? = some rival)
    (same : parameterTypes rival.parameters = parameterTypes method.parameters) :
    other = place := by
  have distinct : (concatMethods.map fun method => parameterTypes method.parameters).Nodup := by
    decide +kernel
  obtain ⟨inRange, _⟩ := List.getElem?_eq_some_iff.mp foundRival
  refine (List.getElem?_inj (by rwa [List.length_map]) distinct).mp ?_
  rw [List.getElem?_map, List.getElem?_map, found, foundRival, Option.map_some, Option.map_some,
    same]

/-- An overload as it takes several operands of a type: one for each, or all in a row, for texts or
for objects. -/
structure TakesAll (candidate : Applicable) (count : Nat) (element : DataType) : Prop where
  known : element = .string ∨ element = .object
  form : (candidate.form = .normal ∧
      parameterTypes candidate.signature.parameters = List.replicate count element) ∨
    (candidate.form = .expanded element ∧
      parameterTypes candidate.signature.parameters = [element.arrayOf])

theorem TakesAll.typeAt {candidate : Applicable} {count position : Nat} {element : DataType}
    (takes : TakesAll candidate count element) (inRange : position < count) :
    candidate.typeAt position = element := by
  obtain ⟨index, ⟨parameters, owner⟩, form⟩ := candidate
  rcases takes.form with ⟨isForm, types⟩ | ⟨isForm, types⟩
  · cases isForm
    unfold Applicable.typeAt
    simp only
    rw [← List.getElem?_map]
    change ((parameterTypes parameters)[position]?).getD .object = element
    rw [types, List.getElem?_replicate, if_pos inRange]
    rfl
  · cases isForm
    have single : parameters.length = 1 := (List.length_map _).symm.trans (congrArg _ types)
    unfold Applicable.typeAt
    simp only
    rw [single, Nat.sub_self, if_pos (Nat.zero_le _)]

theorem TakesAll.isExact_iff {candidate : Applicable} {count : Nat} {element type : DataType}
    (takes : TakesAll candidate count element) (some : 0 < count) :
    IsExact (List.replicate count type) candidate ↔ element = type := by
  constructor
  · intro exact
    rw [← takes.typeAt some]
    exact exact 0 type (by rw [List.getElem?_replicate, if_pos some])
  · rintro rfl position argument found
    rw [List.getElem?_replicate] at found
    split at found
    · rename_i inRange
      rw [takes.typeAt inRange]
      exact Option.some.inj found
    · cases found

theorem takesAll_of_applies {candidate : Applicable} {count : Nat} {type : DataType}
    (several : 2 ≤ count)
    (applies : catalog.Applies (concatMethods.map Method.signature) (List.replicate count type)
      candidate) :
    ∃ method element, concatMethods[candidate.index]? = some method ∧
      method.signature = candidate.signature ∧ IsConcat method element ∧
      TakesAll candidate count element := by
  obtain ⟨found, takes⟩ := applies
  rw [List.getElem?_map, Option.map_eq_some_iff] at found
  obtain ⟨method, isMethod, same⟩ := found
  obtain ⟨element, isConcat⟩ := isConcat_of_mem (List.mem_of_getElem? isMethod)
  refine ⟨method, element, isMethod, same, isConcat, isConcat.known, ?_⟩
  rw [← same] at takes ⊢
  change catalog.applicableForm? method.parameters _ = _ at takes
  change (_ ∧ parameterTypes method.parameters = _) ∨ (_ ∧ parameterTypes method.parameters = _)
  rcases isConcat.parameters with ⟨_, takesEach⟩ | ⟨name, variadic⟩
  · obtain ⟨isNormal, length⟩ := form_fixed takesEach takes
    rw [List.length_replicate] at length
    exact .inl ⟨isNormal, by rw [parameterTypes_fixed takesEach, length]⟩
  · rw [variadic] at takes ⊢
    rcases form_variadic takes with ⟨_, single⟩ | isExpanded
    · rw [List.length_replicate] at single
      omega
    · exact .inr ⟨isExpanded, rfl⟩

theorem applicableForm?_each (catalog : Catalog) {element : DataType} {parameters : List Parameter}
    (takesEach : ∀ parameter ∈ parameters, TakesOperand element parameter) :
    catalog.applicableForm? parameters (List.replicate parameters.length element) =
      some .normal := by
  refine applicableForm?_of_takesNormally ⟨(List.length_replicate ..).le, ?_, ?_⟩ ?_
  · intro position parameter argument isParameter isArgument
    have isElement := (List.mem_replicate.mp (List.mem_of_getElem? isArgument)).2
    rw [(takesEach parameter (List.mem_of_getElem? isParameter)).type, isElement]
    exact isCompatible_refl element
  · intro position parameter isParameter late
    obtain ⟨inRange, _⟩ := List.getElem?_eq_some_iff.mp isParameter
    rw [List.length_replicate] at late
    omega
  · intro parameter member isVariadic
    rw [(takesEach parameter member).single] at isVariadic
    cases isVariadic

theorem applicableForm?_row (name : String) (element : DataType) {count : Nat}
    (notOne : count ≠ 1) :
    catalog.applicableForm? [.variadic name element] (List.replicate count element) =
      some (.expanded element) := by
  refine applicableForm?_of_takesExpanded ⟨⟨_, rfl, rfl, rfl⟩, ?_, ?_, ?_⟩ ?_
  · intro position parameter argument before
    cases before
  · intro position parameter before
    cases before
  · intro position argument _ isArgument
    rw [(List.mem_replicate.mp (List.mem_of_getElem? isArgument)).2]
    exact isCompatible_refl element
  · intro takes
    have enough := takes.enough
    rw [List.length_replicate, List.length_singleton] at enough
    have hasDefault := takes.omitted 0 (.variadic name element) rfl
      (by rw [List.length_replicate]; omega)
    cases hasDefault

/-- An overload for operands of a type is chosen for them, unless there is one without a row. -/
theorem resolve_of_takesAll {type : DataType} {count index : Nat} {method : Method}
    {form : CallForm} (several : 2 ≤ count) (isMethod : concatMethods[index]? = some method)
    (takes : TakesAll ⟨index, method.signature, form⟩ count type)
    (applies : catalog.applicableForm? method.parameters (List.replicate count type) = some form)
    (onlyRows : form.isExpanded = true → ∀ rival,
      catalog.Applies (concatMethods.map Method.signature) (List.replicate count type) rival →
        rival.form.isExpanded = true) :
    catalog.resolve (concatMethods.map Method.signature) (List.replicate count type) =
      .chosen index form := by
  have some : 0 < count := by omega
  have found : (concatMethods.map Method.signature)[index]? = Option.some method.signature := by
    rw [List.getElem?_map, isMethod]
    rfl
  refine resolve_of_isExact ⟨found, applies⟩ ((takes.isExact_iff some).mpr rfl) ?_
  intro rival appliesRival different
  obtain ⟨other, element, isOther, same, _, takesRival⟩ :=
    takesAll_of_applies several appliesRival
  -- An exact rival in the same form has the same parameters, and no two overloads have.
  have inexact : (element = type →
      parameterTypes rival.signature.parameters = parameterTypes method.parameters) →
      ¬IsExact (List.replicate count type) rival := by
    intro sameTypes exact
    rw [takesRival.isExact_iff some] at exact
    have types := sameTypes exact
    rw [← same] at types
    exact different (eq_of_parameterTypes isMethod isOther types)
  rcases takes.form with ⟨isNormal, types⟩ | ⟨isExpanded, types⟩
  · rcases takesRival.form with ⟨rivalNormal, rivalTypes⟩ | ⟨rivalExpanded, _⟩
    · cases isNormal
      refine .inr ⟨by rw [rivalNormal], inexact ?_⟩
      rintro rfl
      exact rivalTypes.trans types.symm
    · cases isNormal
      exact .inl ⟨rfl, by rw [rivalExpanded]; rfl⟩
  · cases isExpanded
    have rivalRow := onlyRows rfl rival appliesRival
    refine .inr ⟨rivalRow.symm, inexact ?_⟩
    rcases takesRival.form with ⟨rivalNormal, _⟩ | ⟨_, rivalTypes⟩
    · rw [rivalNormal] at rivalRow
      cases rivalRow
    · rintro rfl
      exact rivalTypes.trans types.symm

/-- Without an overload for so many operands of a type, all that can be called take a row. -/
theorem isExpanded_of_not_isFew (distinct : catalog.isAssignable .string .object = false)
    {type : DataType} (known : type = .string ∨ type = .object) {count : Nat}
    (several : 2 ≤ count) (many : ¬IsFew type count) {rival : Applicable}
    (applies : catalog.Applies (concatMethods.map Method.signature) (List.replicate count type)
      rival) : rival.form.isExpanded = true := by
  obtain ⟨method, element, isMethod, same, isConcat, takes⟩ := takesAll_of_applies several applies
  rcases takes.form with ⟨_, types⟩ | ⟨isExpanded, _⟩
  · exfalso
    rw [← same] at types
    have few := isFew_of_mem (List.mem_of_getElem? isMethod) takes.known (by omega) types
    unfold IsFew at few many
    rcases known with rfl | rfl
    · -- There are fewer overloads for objects than for texts.
      rcases few with ⟨_, bound⟩ | ⟨_, bound⟩
      · exact many (.inl ⟨rfl, bound⟩)
      · exact many (.inl ⟨rfl, by omega⟩)
    · rcases few with ⟨rfl, _⟩ | ⟨_, bound⟩
      · have takesObjects := applies.2
        rw [← same] at takesObjects
        exact not_applicable_objects distinct isConcat several _ takesObjects
      · exact many (.inr ⟨rfl, bound⟩)
  · rw [isExpanded]
    rfl

theorem resolve_concatMethods (distinct : catalog.isAssignable .string .object = false)
    {type : DataType} (known : type = .string ∨ type = .object) {count : Nat}
    (several : 2 ≤ count) :
    ∃ index method form, concatMethods[index]? = some method ∧ IsConcat method type ∧
      catalog.resolve (concatMethods.map Method.signature) (List.replicate count type) =
        .chosen index form := by
  by_cases few : IsFew type count
  · obtain ⟨label, member⟩ := exists_fixed few several
    obtain ⟨index, isMethod⟩ := List.mem_iff_getElem?.mp member
    have takesEach := takesOperand_concatOf label type count
    have length : (concatOf label type count).parameters.length = count :=
      (List.length_map _).trans List.length_range
    have types := parameterTypes_fixed takesEach
    have applies := applicableForm?_each catalog takesEach
    rw [length] at types applies
    exact ⟨index, _, .normal, isMethod, isConcat_concatOf label known (by omega),
      resolve_of_takesAll several isMethod ⟨known, .inl ⟨rfl, types⟩⟩ applies nofun⟩
  · obtain ⟨name, member⟩ := exists_variadic known
    obtain ⟨index, isMethod⟩ := List.mem_iff_getElem?.mp member
    exact ⟨index, _, .expanded type, isMethod, isConcat_concatAll name known,
      resolve_of_takesAll several isMethod ⟨known, .inr ⟨rfl, rfl⟩⟩
        (applicableForm?_row name type (by omega)) fun _ _ applies =>
          isExpanded_of_not_isFew distinct known several few applies⟩

end Catalog

end Formula
