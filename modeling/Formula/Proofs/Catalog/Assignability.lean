import Formula.Proofs.Catalog.Ancestors

/-!
Assignability as reachability. Between plain types it is a path of interface links from one of
the first bases of the source; between arrays it is that of the elements, which must be
references. Links in a circle change nothing about this.
-/

namespace Formula.Catalog

variable {catalog : Catalog} {target source : DataType}

theorem isAssignable_plain_iff (notObject : target.isObject = false)
    (unmarked : target.nullable = false) (notArray : target.isArray = false) :
    catalog.isAssignable target source = true ↔
      target = source ∨ catalog.reaches target source = true := by
  have notMarked : target.isNullable = false := by
    unfold DataType.isNullable
    rw [unmarked, Bool.and_false]
  unfold isAssignable isAssignableAt
  rw [notObject, unmarked, notArray, notMarked, Bool.or_false, Bool.false_and, Bool.and_false,
    Bool.or_false, if_neg Bool.false_ne_true, if_neg Bool.false_ne_true,
    if_neg Bool.false_ne_true]
  by_cases same : target = source
  · rw [beq_iff_eq.mpr same, if_pos rfl]
    exact iff_of_true rfl (.inl same)
  · rw [beq_eq_false_iff_ne.mpr same, if_neg Bool.false_ne_true]
    exact (or_iff_right same).symm

theorem isAssignable_arrays_iff (isTarget : target.isArray = true)
    (isSource : source.isArray = true) :
    catalog.isAssignable target source = true ↔
      target = source ∨ ∃ element own, target.element? = some element ∧
        source.element? = some own ∧ catalog.isReferenceType own = true ∧
        catalog.isAssignable element own = true := by
  constructor
  · intro assignable
    rcases isAssignable_isArray assignable isTarget with
      same | ⟨element, own, isElement, isOwn, step⟩
    · exact .inl same
    · exact .inr ⟨element, own, isElement, isOwn, step.1, step.2⟩
  · have notObject : target.isObject = false := by
      unfold DataType.isObject
      rw [beq_eq_false_iff_ne]
      rintro rfl
      cases isTarget
    have notMarked : target.isNullable = false := by
      rw [Bool.eq_false_iff]
      intro marked
      rw [DataType.isArray_of_isNullable marked] at isTarget
      cases isTarget
    rintro (rfl | ⟨element, own, isElement, isOwn, isReference, assignable⟩)
    · exact isAssignable_refl target
    · have lower : target.rank = element.rank + 1 := by
        unfold DataType.element? at isElement
        split at isElement
        · cases isElement
        · rename_i rank isRank
          cases isElement
          exact isRank
      unfold isAssignable isAssignableAt
      rw [notObject, notMarked, isTarget, isSource, lower, isElement, isOwn]
      simp only [Bool.or_false, Bool.false_and, Bool.and_self, Bool.false_eq_true, if_false,
        if_true, isReference, Bool.true_and]
      split
      · rfl
      · exact assignable

theorem reaches_plain_iff {child : TypeId} :
    catalog.reaches target (.plain child) = true ↔
      ∃ links < chainLimit, ∃ type, catalog.ancestor? links (.plain child) = some type ∧
        (type = target ∨ catalog.Implements type.id target.id) := by
  rw [reaches_iff]
  constructor
  · rintro ⟨type, member, arrives⟩
    obtain ⟨links, within, isAncestor⟩ := mem_baseChain_iff.mp member
    refine ⟨links, within, type, isAncestor, ?_⟩
    exact arrives.imp_right And.right
  · rintro ⟨links, within, type, isAncestor, leads⟩
    have notArray : type.isArray = false := by
      rw [ancestor?_plain isAncestor]
      rfl
    refine ⟨type, mem_baseChain_iff.mpr ⟨links, within, isAncestor⟩, ?_⟩
    exact leads.imp_right fun implements => ⟨notArray, implements⟩

/-- Every search for an interface ends, however links run, and finds what a search without a
bound on its depth finds. With that, a plain type can be used as another one exactly if that one
is a base of it, or an interface above a base, of the first 64 types of the chain; and an array
as an array of other elements exactly if its elements are references that can be used so. -/
theorem isAssignable_reachability (catalog : Catalog) :
    (∀ interface id met, id ∉ met →
      catalog.Searches interface (catalog.directInterfaces id) (id :: met)
        (catalog.implements interface catalog.searchDepth id met).1
        (catalog.implements interface catalog.searchDepth id met).2) ∧
    (∀ target source : DataType, target.isObject = false → target.nullable = false →
      target.isArray = false → source.nullable = false → source.isArray = false →
      (catalog.isAssignable target source = true ↔
        target = source ∨
          ∃ links < 64, ∃ type, catalog.ancestor? links source = some type ∧
            (type = target ∨ catalog.Implements type.id target.id))) ∧
    (∀ target source : DataType, target.isArray = true → source.isArray = true →
      (catalog.isAssignable target source = true ↔
        target = source ∨ ∃ element own, target.element? = some element ∧
          source.element? = some own ∧ catalog.isReferenceType own = true ∧
          catalog.isAssignable element own = true)) := by
  refine ⟨fun interface id met isNew => ?_, ?_, fun _ _ => isAssignable_arrays_iff⟩
  · exact searches_implements interface (catalog.length_unmet_lt met) isNew
  · intro target source notObject unmarked notArray sourceUnmarked sourceNotArray
    have notMarked : source.isNullable = false := by
      unfold DataType.isNullable
      rw [sourceUnmarked, Bool.and_false]
    rw [isAssignable_plain_iff notObject unmarked notArray,
      DataType.eq_plain sourceNotArray notMarked, reaches_plain_iff]
    exact Iff.rfl

/-- Two classes that are bases of each other, and interfaces that list each other. -/
def circular : Catalog :=
  ⟨[ { id := ⟨1⟩, name := "Hen", namespaceName := "App", kind := .classType, base := some ⟨2⟩,
       interfaces := [⟨11⟩] },
     { id := ⟨2⟩, name := "Egg", namespaceName := "App", kind := .classType, base := some ⟨1⟩,
       interfaces := [⟨12⟩, ⟨11⟩, ⟨13⟩] },
     { id := ⟨11⟩, name := "Laid", namespaceName := "App", kind := .interfaceType, base := none,
       interfaces := [⟨12⟩] },
     { id := ⟨12⟩, name := "Hatched", namespaceName := "App", kind := .interfaceType,
       base := none, interfaces := [⟨11⟩] },
     { id := ⟨13⟩, name := "Boiled", namespaceName := "App", kind := .interfaceType, base := none,
       interfaces := [⟨12⟩, ⟨14⟩] } ]⟩

/-- Past interfaces that the first base has been searched for, the second one leads to the last
interface; arrays follow, and the class does not lead to what nobody lists. -/
theorem isAssignable_reachability_circular :
    circular.isAssignable (.plain ⟨14⟩) (.plain ⟨1⟩) = true ∧
      circular.isAssignable (DataType.plain ⟨14⟩).arrayOf (DataType.plain ⟨1⟩).arrayOf = true ∧
      ¬∃ links < 64, ∃ type, circular.ancestor? links (.plain ⟨1⟩) = some type ∧
        (type = .plain ⟨15⟩ ∨ circular.Implements type.id ⟨15⟩) := by
  obtain ⟨_, plain, arrays⟩ := isAssignable_reachability circular
  have leads : circular.Implements ⟨2⟩ ⟨14⟩ :=
    .head (show ⟨13⟩ ∈ circular.directInterfaces ⟨2⟩ by decide)
      (.single (show ⟨14⟩ ∈ circular.directInterfaces ⟨13⟩ by decide))
  have assignable : circular.isAssignable (.plain ⟨14⟩) (.plain ⟨1⟩) = true :=
    (plain _ _ rfl rfl rfl rfl rfl).mpr (.inr ⟨1, by decide, .plain ⟨2⟩, by decide, .inr leads⟩)
  refine ⟨assignable, ?_, fun reached => ?_⟩
  · exact (arrays _ _ rfl rfl).mpr (.inr ⟨_, _, rfl, rfl, by decide, assignable⟩)
  · have missed : circular.isAssignable (.plain ⟨15⟩) (.plain ⟨1⟩) = false := by decide
    rw [(plain (.plain ⟨15⟩) (.plain ⟨1⟩) rfl rfl rfl rfl rfl).mpr (.inr reached)] at missed
    cases missed

end Formula.Catalog
