import Mathlib.Tactic.ByContra
import Formula.Overload.Applicability

/-!
What the form of a call says about the parameters: the normal form has one for every argument,
and the expanded form ends in one that collects elements.
-/

namespace Formula.Catalog

variable {catalog : Catalog} {parameters : List Parameter} {last : Parameter}
  {arguments : List DataType}

structure Collects (last : Parameter) (element : DataType) : Prop where
  isVariadic : last.isVariadic = true
  element_eq : last.type.element? = some element

@[simp] theorem isCompatible_refl (type : DataType) : catalog.isCompatible type type = true := by
  unfold isCompatible
  rw [beq_self_eq_true, Bool.true_or, Bool.true_or]

theorem expandedForm?_eq_some {form : CallForm} (found : expandedForm? last = some form) :
    ∃ element, form = .expanded element ∧ Collects last element := by
  unfold expandedForm? at found
  split at found
  · rename_i variadic
    rw [Option.map_eq_some_iff] at found
    obtain ⟨element, hasElement, rfl⟩ := found
    exact ⟨element, rfl, variadic, hasElement⟩
  · cases found

theorem formByShape?_normal
    (shape : catalog.formByShape? parameters last arguments = some .normal) :
    arguments.length ≤ parameters.length := by
  unfold formByShape? at shape
  split at shape
  · omega
  · split at shape
    · obtain ⟨element, impossible, _⟩ := expandedForm?_eq_some shape
      cases impossible
    · omega

theorem formByShape?_expanded {element : DataType}
    (shape : catalog.formByShape? parameters last arguments = some (.expanded element)) :
    Collects last element := by
  have collects : expandedForm? last = some (.expanded element) := by
    unfold formByShape? at shape
    dsimp only at shape
    split at shape
    · split at shape
      · cases shape
      · split at shape
        · cases shape
        · exact shape
    · split at shape
      · exact shape
      · split at shape
        · exact shape
        · cases shape
  obtain ⟨other, same, collectsOther⟩ := expandedForm?_eq_some collects
  cases same
  exact collectsOther

theorem formByShape?_of_applicableForm? {form : CallForm}
    (hasLast : parameters.getLast? = some last)
    (takes : catalog.applicableForm? parameters arguments = some form) :
    catalog.formByShape? parameters last arguments = some form := by
  unfold applicableForm? at takes
  simp only [hasLast] at takes
  cases shape : catalog.formByShape? parameters last arguments with
  | none => simp only [shape, reduceCtorEq] at takes
  | some found =>
      cases found with
      | normal =>
          simp only [shape] at takes
          split at takes
          · exact takes
          · cases takes
      | expanded element =>
          simp only [shape] at takes
          split at takes
          · exact takes
          · cases takes

theorem length_le_of_normal
    (takes : catalog.applicableForm? parameters arguments = some .normal) :
    arguments.length ≤ parameters.length := by
  cases hasLast : parameters.getLast? with
  | none =>
      unfold applicableForm? at takes
      simp only [hasLast] at takes
      split at takes
      · rename_i empty
        rw [List.isEmpty_iff.mp empty]
        exact Nat.zero_le _
      · cases takes
  | some last => exact formByShape?_normal (formByShape?_of_applicableForm? hasLast takes)

theorem last_of_expanded {element : DataType}
    (takes : catalog.applicableForm? parameters arguments = some (.expanded element)) :
    ∃ last, parameters.getLast? = some last ∧ Collects last element := by
  cases hasLast : parameters.getLast? with
  | none =>
      unfold applicableForm? at takes
      simp only [hasLast] at takes
      split at takes <;> cases takes
  | some last =>
      exact ⟨last, rfl, formByShape?_expanded (formByShape?_of_applicableForm? hasLast takes)⟩

theorem areCompatible_of_normal
    (takes : catalog.applicableForm? parameters arguments = some .normal) :
    catalog.areCompatible parameters arguments = true := by
  unfold applicableForm? at takes
  split at takes
  · rename_i noLast
    rw [List.getLast?_eq_none_iff.mp noLast]
    rfl
  · split at takes
    · cases takes
    · split at takes
      · assumption
      · cases takes
    · dsimp only at takes
      split at takes <;> cases takes

theorem isCompatible_of_expanded {element : DataType}
    (takes : catalog.applicableForm? parameters arguments = some (.expanded element)) :
    ∀ argument ∈ arguments.drop (parameters.length - 1),
      catalog.isCompatible element argument = true := by
  unfold applicableForm? at takes
  split at takes
  · split at takes <;> cases takes
  · split at takes
    · cases takes
    · split at takes <;> cases takes
    · dsimp only at takes
      split at takes
      · rename_i fits
        cases takes
        rw [Bool.and_eq_true, List.all_eq_true, List.length_take,
          Nat.min_eq_left (Nat.sub_le _ _)] at fits
        exact fits.2
      · cases takes

theorem areCompatible_of_expanded {element : DataType}
    (takes : catalog.applicableForm? parameters arguments = some (.expanded element)) :
    catalog.areCompatible (parameters.take (parameters.length - 1)) arguments = true := by
  unfold applicableForm? at takes
  split at takes
  · split at takes <;> cases takes
  · split at takes
    · cases takes
    · split at takes <;> cases takes
    · dsimp only at takes
      split at takes
      · rename_i fits
        rw [Bool.and_eq_true] at fits
        exact fits.1
      · cases takes

theorem formByShape?_omitted {form : CallForm}
    (shape : catalog.formByShape? parameters last arguments = some form)
    (fewer : arguments.length < parameters.length) :
    (∀ parameter ∈ (parameters.take (parameters.length - 1)).drop arguments.length,
        parameter.default.isSome = true) ∧
      (form = .normal → last.default.isSome = true) := by
  unfold formByShape? at shape
  rw [if_pos fewer] at shape
  dsimp only at shape
  split at shape
  · cases shape
  · rename_i present
    simp only [Bool.not_eq_true, Bool.not_eq_false', List.all_eq_true] at present
    refine ⟨present, ?_⟩
    rintro rfl
    split at shape
    · assumption
    · obtain ⟨element, impossible, _⟩ := expandedForm?_eq_some shape
      cases impossible

theorem omitted_of_normal
    (takes : catalog.applicableForm? parameters arguments = some .normal) :
    ∀ parameter ∈ parameters.drop arguments.length, parameter.default.isSome = true := by
  intro parameter member
  have fewer : arguments.length < parameters.length := by
    by_contra enough
    rw [List.drop_eq_nil_of_le (by omega)] at member
    cases member
  have nonempty : parameters ≠ [] := by
    rintro rfl
    exact Nat.not_lt_zero _ fewer
  have hasLast := List.getLast?_eq_some_getLast nonempty
  obtain ⟨fixed, ofLast⟩ :=
    formByShape?_omitted (formByShape?_of_applicableForm? hasLast takes) fewer
  rw [← List.dropLast_concat_getLast nonempty, List.drop_append_of_le_length (by
    rw [List.length_dropLast]
    omega), List.mem_append, List.mem_singleton] at member
  rcases member with earlier | rfl
  · rw [List.dropLast_eq_take] at earlier
    exact fixed parameter earlier
  · exact ofLast rfl

theorem omitted_of_expanded {element : DataType}
    (takes : catalog.applicableForm? parameters arguments = some (.expanded element)) :
    ∀ parameter ∈ (parameters.take (parameters.length - 1)).drop arguments.length,
      parameter.default.isSome = true := by
  intro parameter member
  obtain ⟨last, hasLast, _⟩ := last_of_expanded takes
  have fewer : arguments.length < parameters.length := by
    by_contra enough
    rw [List.drop_eq_nil_of_le (by rw [List.length_take]; omega)] at member
    cases member
  exact (formByShape?_omitted (formByShape?_of_applicableForm? hasLast takes) fewer).1
    parameter member

theorem areCompatible_cons {parameter : Parameter} {argument : DataType}
    (compatible : catalog.areCompatible (parameter :: parameters) (argument :: arguments) = true) :
    catalog.isCompatible parameter.type argument = true ∧
      catalog.areCompatible parameters arguments = true := by
  unfold areCompatible at compatible
  rw [List.zip_cons_cons, List.all_cons, Bool.and_eq_true] at compatible
  exact compatible

theorem areCompatible_iff :
    catalog.areCompatible parameters arguments = true ↔
      ∀ (position : Nat) (parameter : Parameter) (argument : DataType),
        parameters[position]? = some parameter → arguments[position]? = some argument →
          catalog.isCompatible parameter.type argument = true := by
  unfold areCompatible
  rw [List.all_eq_true]
  constructor
  · intro all position parameter argument isParameter isArgument
    refine all (parameter, argument) (List.mem_of_getElem? (i := position) ?_)
    rw [List.getElem?_zip_eq_some]
    exact ⟨isParameter, isArgument⟩
  · rintro all ⟨parameter, argument⟩ member
    obtain ⟨position, isBoth⟩ := List.mem_iff_getElem?.mp member
    rw [List.getElem?_zip_eq_some] at isBoth
    exact all position parameter argument isBoth.1 isBoth.2

theorem areCompatible_take (parameters : List Parameter) (arguments : List DataType) :
    catalog.areCompatible parameters (arguments.take parameters.length) =
      catalog.areCompatible parameters arguments := by
  have zipped : parameters.zip (arguments.take parameters.length) = parameters.zip arguments := by
    induction parameters generalizing arguments with
    | nil => rfl
    | cons parameter parameters ih =>
        cases arguments with
        | nil => rfl
        | cons argument arguments =>
            rw [List.length_cons, List.take_succ_cons, List.zip_cons_cons, ih, List.zip_cons_cons]
  unfold areCompatible
  rw [zipped]

theorem areCompatible_concat {front : List Parameter} {first : List DataType}
    {final : DataType}
    (count : first.length = front.length) :
    catalog.areCompatible (front ++ [last]) (first ++ [final]) =
      (catalog.areCompatible front (first ++ [final]) && catalog.isCompatible last.type final) := by
  rw [← areCompatible_take front, ← count, List.take_left]
  unfold areCompatible
  rw [List.zip_append count.symm, List.all_append]
  exact congrArg _ (Bool.and_true _)

theorem formByShape?_of_length_ne {others : List DataType} (count : arguments.length = others.length)
    (different : arguments.length ≠ parameters.length) :
    catalog.formByShape? parameters last arguments = catalog.formByShape? parameters last others := by
  unfold formByShape?
  rw [← count]
  split
  · rfl
  · split
    · rfl
    · omega

theorem formByShape?_of_length_eq (count : arguments.length = parameters.length)
    {final : DataType}
    (hasFinal : arguments.getLast? = some final) :
    catalog.formByShape? parameters last arguments =
      if last.isVariadic && !catalog.isAssignable last.type final then expandedForm? last
      else some .normal := by
  unfold formByShape?
  rw [if_neg (by omega), if_neg (by omega), hasFinal]
  rfl

theorem applicableForm?_of_normal (hasLast : parameters.getLast? = some last)
    (shape : catalog.formByShape? parameters last arguments = some .normal)
    (compatible : catalog.areCompatible parameters arguments = true) :
    catalog.applicableForm? parameters arguments = some .normal := by
  unfold applicableForm?
  simp only [hasLast, shape, compatible, if_true]

theorem applicableForm?_of_expanded {element : DataType}
    (hasLast : parameters.getLast? = some last)
    (shape : catalog.formByShape? parameters last arguments = some (.expanded element))
    (compatible : catalog.areCompatible (parameters.take (parameters.length - 1)) arguments = true)
    (collected : ∀ type ∈ arguments.drop (parameters.length - 1),
      catalog.isCompatible element type = true) :
    catalog.applicableForm? parameters arguments = some (.expanded element) := by
  have count : (parameters.take (parameters.length - 1)).length = parameters.length - 1 := by
    rw [List.length_take, Nat.min_eq_left (Nat.sub_le _ _)]
  have all := List.all_eq_true.mpr collected
  unfold applicableForm?
  simp only [hasLast, shape, compatible, count, all, Bool.and_self, if_true]

end Formula.Catalog
