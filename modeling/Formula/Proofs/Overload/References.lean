import Formula.Proofs.Overload.Nearness
import Formula.Proofs.Typing.Arguments

/-!
Parameters for which objects are selected and references are passed. An object does not stand for
every reference: with null added to its type it is taken where a text is not.
-/

namespace Formula

theorem DataType.scalar?_arrayOf (element : DataType) : element.arrayOf.scalar? = none :=
  if_neg fun plain => Nat.succ_ne_zero _ plain.1

namespace Catalog

variable {catalog : Catalog} {parameters : List Parameter} {last : Parameter}
  {types : List DataType} {source target final : DataType}

/-- If the type takes an object, it takes every reference. -/
def TakesReferences (catalog : Catalog) (type : DataType) : Prop :=
  catalog.isCompatible type .object = true →
    ∀ reference, catalog.isReferenceType reference = true →
      catalog.isCompatible type reference = true

theorem takesReferences_object : catalog.TakesReferences .object := by
  intro _ reference _
  have root : DataType.object.isObject = true := beq_self_eq_true DataType.object
  unfold isCompatible
  rw [root, Bool.or_true, Bool.true_or]

theorem takesReferences_arrayOf (element : DataType) :
    catalog.TakesReferences element.arrayOf := by
  intro object
  have assignable := isAssignable_of_isCompatible object (element.scalar?_arrayOf)
  rcases isAssignable_isArray assignable (decide_eq_true (Nat.succ_pos _)) with
    same | ⟨_, _, _, impossible, _⟩
  · cases congrArg DataType.rank same
  · cases impossible

/-- What the parameter is selected for as an object may be passed as any other reference, for the
parameter itself and among the elements that it collects. -/
structure SparesReferences (catalog : Catalog) (parameter : Parameter) : Prop where
  type : catalog.TakesReferences parameter.type
  element : ∀ element, Collects parameter element → catalog.TakesReferences element

theorem areCompatible_references
    (spares : ∀ parameter ∈ parameters, catalog.SparesReferences parameter)
    (references : ∀ type ∈ types, catalog.isReferenceType type = true)
    (objects : catalog.areCompatible parameters (types.map fun _ => .object) = true) :
    catalog.areCompatible parameters types = true := by
  unfold areCompatible at objects ⊢
  rw [List.all_eq_true] at objects ⊢
  rintro ⟨parameter, type⟩ member
  obtain ⟨isParameter, isType⟩ := List.of_mem_zip member
  have object := objects (parameter, .object) (by
    rw [List.zip_map_right]
    exact List.mem_map.mpr ⟨_, member, rfl⟩)
  exact (spares parameter isParameter).type object type (references type isType)

/-- What takes objects is no scalar, and so it takes other types by assignment. -/
theorem isAssignable_of_isCompatible_object (object : catalog.isCompatible target .object = true)
    (compatible : catalog.isCompatible target source = true) :
    catalog.isAssignable target source = true := by
  by_cases root : target = .object
  · rw [root, isAssignable_object]
  · apply isAssignable_of_isCompatible compatible
    by_contra isScalar
    have isSome := Option.isSome_iff_ne_none.mpr isScalar
    have narrow : DataType.object.widensTo target = false := by
      cases target.scalar? <;> rfl
    unfold isCompatible at object
    rw [if_pos isSome, narrow, Bool.or_false, Bool.or_eq_true, beq_iff_eq] at object
    rcases object with same | isObject
    · exact root same
    · exact root (eq_of_beq isObject)

theorem isCompatible_references {element : DataType} {count : Nat}
    (takes : catalog.TakesReferences element)
    (references : ∀ type ∈ types, catalog.isReferenceType type = true)
    (objects : ∀ type ∈ (types.map fun _ => DataType.object).drop count,
      catalog.isCompatible element type = true) :
    ∀ type ∈ types.drop count, catalog.isCompatible element type = true := by
  intro type member
  rw [← List.map_drop] at objects
  have object := objects .object (List.mem_map.mpr ⟨type, member, rfl⟩)
  exact takes object type (references type (List.mem_of_mem_drop member))

/-- With as many arguments as parameters, references may turn the expanded form into the normal
one, but are taken where objects are. -/
theorem applicableForm?_references_concat {front : List Parameter} {first : List DataType}
    {form : CallForm} (count : first.length = front.length)
    (spares : ∀ parameter ∈ front ++ [last], catalog.SparesReferences parameter)
    (references : ∀ type ∈ first ++ [final], catalog.isReferenceType type = true)
    (objects : catalog.applicableForm? (front ++ [last])
      ((first ++ [final]).map fun _ => .object) = some form) :
    (catalog.applicableForm? (front ++ [last]) (first ++ [final])).isSome = true := by
  have hasLast : (front ++ [last]).getLast? = some last := List.getLast?_concat
  have isFront : (front ++ [last]).take ((front ++ [last]).length - 1) = front := by
    rw [← List.dropLast_eq_take, List.dropLast_concat]
  have spare := spares last (List.mem_append_right _ (List.mem_singleton_self _))
  have reference := references final (List.mem_append_right _ (List.mem_singleton_self _))
  have shape : catalog.formByShape? (front ++ [last]) last (first ++ [final]) =
      if last.isVariadic && !catalog.isAssignable last.type final then expandedForm? last
      else some .normal := by
    refine formByShape?_of_length_eq ?_ List.getLast?_concat
    rw [List.length_append, List.length_append, count]
    rfl
  rw [Option.isSome_iff_exists]
  cases form with
  | normal =>
      have all := areCompatible_of_normal objects
      have object : catalog.isCompatible last.type .object = true := by
        rw [List.map_append, List.map_singleton,
          areCompatible_concat (by rw [List.length_map, count]), Bool.and_eq_true] at all
        exact all.2
      have assignable := isAssignable_of_isCompatible_object object (spare.type object final reference)
      rw [assignable, Bool.not_true, Bool.and_false, if_neg Bool.false_ne_true] at shape
      exact ⟨_, applicableForm?_of_normal hasLast shape
        (areCompatible_references spares references all)⟩
  | expanded element =>
      have collects := formByShape?_expanded (formByShape?_of_applicableForm? hasLast objects)
      have fixed := areCompatible_of_expanded objects
      rw [isFront] at fixed
      have compatible := areCompatible_references
        (fun parameter member => spares parameter (List.mem_append_left _ member)) references fixed
      by_cases assignable : catalog.isAssignable last.type final = true
      · rw [assignable, Bool.not_true, Bool.and_false, if_neg Bool.false_ne_true] at shape
        have takesArray : catalog.isCompatible last.type final = true := by
          unfold isCompatible
          rw [DataType.eq_arrayOf collects.element_eq] at assignable ⊢
          rw [assignable, DataType.scalar?_arrayOf, Option.isSome_none, if_neg Bool.false_ne_true,
            Bool.or_true]
        refine ⟨_, applicableForm?_of_normal hasLast shape ?_⟩
        rw [areCompatible_concat count, compatible, takesArray]
        rfl
      · rw [Bool.not_eq_true] at assignable
        rw [assignable, collects.isVariadic, Bool.not_false, Bool.and_true, if_pos rfl,
          expandedForm?, collects.isVariadic, if_pos rfl, collects.element_eq] at shape
        refine ⟨_, applicableForm?_of_expanded hasLast shape (by rw [isFront]; exact compatible) ?_⟩
        exact isCompatible_references (spare.element element collects) references
          (isCompatible_of_expanded objects)

theorem applicableForm?_references
    (spares : ∀ parameter ∈ parameters, catalog.SparesReferences parameter)
    (references : ∀ type ∈ types, catalog.isReferenceType type = true)
    (objects : (catalog.applicableForm? parameters (types.map fun _ => .object)).isSome = true) :
    (catalog.applicableForm? parameters types).isSome = true := by
  obtain ⟨form, objects⟩ := Option.isSome_iff_exists.mp objects
  by_cases asMany : types.length = parameters.length
  · rcases List.eq_nil_or_concat' parameters with rfl | ⟨front, last, rfl⟩
    · rw [List.length_eq_zero_iff.mp asMany]
      rfl
    · rcases List.eq_nil_or_concat' types with rfl | ⟨first, final, rfl⟩
      · simp at asMany
      · rw [List.length_append, List.length_append] at asMany
        exact applicableForm?_references_concat (Nat.add_right_cancel asMany) spares references
          objects
  · cases hasLast : parameters.getLast? with
    | none =>
        rw [List.getLast?_eq_none_iff] at hasLast
        subst hasLast
        cases types with
        | nil => exact absurd rfl asMany
        | cons type types => cases objects
    | some last =>
        have shape := formByShape?_of_applicableForm? hasLast objects
        rw [← formByShape?_of_length_ne (List.length_map _).symm asMany] at shape
        rw [Option.isSome_iff_exists]
        cases form with
        | normal =>
            exact ⟨_, applicableForm?_of_normal hasLast shape
              (areCompatible_references spares references (areCompatible_of_normal objects))⟩
        | expanded element =>
            have collects := formByShape?_expanded shape
            have spare := spares last (List.mem_of_getLast? hasLast)
            refine ⟨_, applicableForm?_of_expanded hasLast shape ?_ ?_⟩
            · exact areCompatible_references
                (fun parameter member => spares parameter (List.mem_of_mem_take member)) references
                (areCompatible_of_expanded objects)
            · exact isCompatible_references (spare.element element collects) references
                (isCompatible_of_expanded objects)

end Catalog

end Formula
