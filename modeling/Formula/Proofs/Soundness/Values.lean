import Mathlib.Logic.Relation
import Formula.Proofs.Typing.Operators
import Formula.Value.Basic

/-!
Values of a type. A value may stand under a type that its own leads to by any number of steps
between reference types, and this is all that evaluation keeps: steps need not compose into one.
-/

namespace Formula

namespace Catalog

section Relations

variable (catalog : Catalog)

/-- A value has a type: it is null where that is allowed, it is of the very type, or it can be
used as a reference of the type. Null is also what stands for no result. -/
inductive Conforms (type : DataType) : Value → Prop
  | null (accepts : catalog.acceptsNull type = true ∨ type = .void) : Conforms type .null
  | same {value : Value} (isType : value.type = type.underlying) : Conforms type value
  | reference {value : Value} (isReference : catalog.isReferenceType type = true)
      (assignable : catalog.isAssignable type value.type = true) : Conforms type value

def Carries (type : DataType) (value : Value) : Prop :=
  ∃ start, catalog.Conforms start value ∧ Relation.ReflTransGen catalog.StepsUp start type

/-- What objects and functions of a host may be: neither scalars nor arrays nor enumerations. -/
structure Hosted (type : TypeId) : Prop where
  notScalar : type.scalar? = none
  notArray : type ≠ .array
  notEnumeration : catalog.isEnumeration (.plain type) = false

/-- A value is what its type says, down to the items of arrays. Which objects and functions are
is up to the host. -/
inductive Proper (genuine : Value → Prop) : Value → Prop
  | null : Proper genuine .null
  | scalar {value : Value} {kind : Scalar} (isScalar : value.scalar? = some kind) :
      Proper genuine value
  | text (origin : Origin) (text : String) : Proper genuine (.text origin text)
  | enumeration {type : TypeId} (bits : Int64)
      (declared : catalog.isEnumeration (.plain type) = true) :
      Proper genuine (.enumeration type bits)
  | array (origin : Origin) {element : DataType} {items : List Value}
      (proper : ∀ item ∈ items, Proper genuine item)
      (carries : ∀ item ∈ items, catalog.Carries element item) :
      Proper genuine (.array origin element items)
  | object {origin : Origin} {type : TypeId} {content : Content} (hosted : catalog.Hosted type)
      (vouched : genuine (.object origin type content)) :
      Proper genuine (.object origin type content)
  | function {origin : Origin} {type : TypeId} {response : Response}
      (hosted : catalog.Hosted type) (vouched : genuine (.function origin type response)) :
      Proper genuine (.function origin type response)

/-- A proper value may stand under a type. -/
structure Admits (genuine : Value → Prop) (type : DataType) (value : Value) : Prop where
  proper : catalog.Proper genuine value
  carries : catalog.Carries type value

end Relations

variable {catalog : Catalog} {genuine : Value → Prop}

instance (type : DataType) (value : Value) : Decidable (catalog.Conforms type value) :=
  decidable_of_iff
    (value.isNull = true ∧ (catalog.acceptsNull type = true ∨ type = .void) ∨
      value.type = type.underlying ∨
      catalog.isReferenceType type = true ∧ catalog.isAssignable type value.type = true) <| by
    constructor
    · rintro (⟨isNull, accepts⟩ | isType | ⟨isReference, assignable⟩)
      · cases value <;> first
          | exact .null accepts
          | cases isNull
      · exact .same isType
      · exact .reference isReference assignable
    · intro conforms
      cases conforms with
      | null accepts => exact .inl ⟨rfl, accepts⟩
      | same isType => exact .inr (.inl isType)
      | reference isReference assignable => exact .inr (.inr ⟨isReference, assignable⟩)

theorem Conforms.carries {type : DataType} {value : Value}
    (conforms : catalog.Conforms type value) : catalog.Carries type value :=
  ⟨type, conforms, .refl⟩

theorem Carries.step {source target : DataType} {value : Value}
    (carries : catalog.Carries source value) (step : catalog.StepsUp source target) :
    catalog.Carries target value := by
  obtain ⟨start, conforms, path⟩ := carries
  exact ⟨start, conforms, path.tail step⟩

theorem Admits.serves {source target : DataType} {value : Value}
    (admits : catalog.Admits genuine source value) (serves : catalog.Serves source target) :
    catalog.Admits genuine target value := by
  rcases serves with rfl | step
  · exact admits
  · exact ⟨admits.proper, admits.carries.step step⟩

theorem carries_null {type : DataType} (accepts : catalog.acceptsNull type = true) :
    catalog.Carries type .null :=
  Conforms.carries (.null (.inl accepts))

theorem underlying_type (value : Value) : value.type.underlying = value.type := by
  cases value <;> rfl

theorem carries_type (value : Value) : catalog.Carries value.type value :=
  Conforms.carries (.same (underlying_type value).symm)

theorem isNullable_of_isReferenceType {type : DataType}
    (isReference : catalog.isReferenceType type = true) : type.isNullable = false := by
  cases marked : type.isNullable with
  | false => rfl
  | true =>
      unfold isReferenceType isValueType at isReference
      rw [marked, DataType.isArray_of_isNullable marked] at isReference
      simp at isReference

theorem underlying_of_isReferenceType {type : DataType}
    (isReference : catalog.isReferenceType type = true) : type.underlying = type := by
  unfold DataType.underlying
  rw [isNullable_of_isReferenceType isReference]
  rfl

/-- Where no step leads to a type, the values under it have it. -/
theorem Carries.conforms (holds : catalog.HoldsPrimitives)
    (references : catalog.ReferencesAbove) {type : DataType} {value : Value}
    (carries : catalog.Carries type value)
    (notReference : catalog.isReferenceType type = false)
    (notMarked : type.isNullable = true → catalog.isReferenceType type.underlying = false) :
    catalog.Conforms type value := by
  obtain ⟨start, conforms, path⟩ := carries
  cases path with
  | refl => exact conforms
  | tail path step =>
      rcases step.target_cases holds references.noValuesAbove with isReference | ⟨marked, same⟩
      · rw [isReference] at notReference
        cases notReference
      · have noStep := notMarked marked
        rw [same, step.1] at noStep
        cases noStep

theorem type_of_scalar? {value : Value} {kind : Scalar} (isScalar : value.scalar? = some kind) :
    value.type = .ofScalar kind := by
  cases value <;> simp only [Value.scalar?, Option.some.injEq, reduceCtorEq] at isScalar <;>
    rw [← isScalar] <;> rfl

theorem Proper.scalar?_type (holds : catalog.HoldsPrimitives) {value : Value}
    (proper : catalog.Proper genuine value) : value.type.scalar? = value.scalar? := by
  cases proper with
  | null => decide
  | scalar isScalar => rw [type_of_scalar? isScalar, DataType.scalar?_ofScalar, isScalar]
  | text origin text => exact (by decide : DataType.string.scalar? = none)
  | enumeration bits declared =>
      rename_i type
      change (DataType.plain type).scalar? = none
      cases isScalar : (DataType.plain type).scalar? with
      | none => rfl
      | some kind =>
          unfold isEnumeration at declared
          rw [DataType.eq_ofScalar isScalar, holds.underlying?_ofScalar] at declared
          cases declared
  | array origin proper carries =>
      unfold DataType.scalar?
      exact if_neg fun flat => Nat.succ_ne_zero _ flat.1
  | object hosted vouched => exact hosted.notScalar
  | function hosted vouched => exact hosted.notScalar

theorem Conforms.type_ofScalar {value : Value} {kind : Scalar}
    (conforms : catalog.Conforms (.ofScalar kind) value) : value.type = .ofScalar kind := by
  cases conforms with
  | null accepts =>
      rcases accepts with accepts | isVoid
      · rw [acceptsNull_ofScalar] at accepts
        cases accepts
      · have noScalar := congrArg DataType.scalar? isVoid
        rw [DataType.scalar?_ofScalar] at noScalar
        exact absurd noScalar.symm (by simp [show DataType.void.scalar? = none by decide])
  | same isType => exact isType
  | reference isReference _ =>
      rw [isReferenceType_ofScalar] at isReference
      cases isReference

theorem Admits.scalar? (holds : catalog.HoldsPrimitives) (references : catalog.ReferencesAbove)
    {value : Value} {kind : Scalar} (admits : catalog.Admits genuine (.ofScalar kind) value) :
    value.scalar? = some kind := by
  have conforms := admits.carries.conforms holds references (isReferenceType_ofScalar kind)
    (fun marked => absurd marked Bool.false_ne_true)
  rw [← admits.proper.scalar?_type holds, conforms.type_ofScalar, DataType.scalar?_ofScalar]

theorem Admits.scalar?_orNull (holds : catalog.HoldsPrimitives)
    (references : catalog.ReferencesAbove) {value : Value} {type : DataType} {kind : Scalar}
    (marked : type.isNullable = true) (underlying : type.underlying = .ofScalar kind)
    (admits : catalog.Admits genuine type value) : value = .null ∨ value.scalar? = some kind := by
  have isValue : catalog.isReferenceType type = false := by
    cases isReference : catalog.isReferenceType type with
    | false => rfl
    | true =>
        rw [isNullable_of_isReferenceType isReference] at marked
        cases marked
  have conforms := admits.carries.conforms holds references isValue (fun _ => by
    rw [underlying]
    exact isReferenceType_ofScalar kind)
  cases conforms with
  | null accepts => exact .inl rfl
  | same isType =>
      right
      rw [← admits.proper.scalar?_type holds, isType, underlying, DataType.scalar?_ofScalar]
  | reference isReference _ =>
      rw [isValue] at isReference
      cases isReference

theorem carries_scalar {value : Value} {kind : Scalar} (isScalar : value.scalar? = some kind) :
    catalog.Carries (.ofScalar kind) value := by
  rw [← type_of_scalar? isScalar]
  exact carries_type value

theorem admits_scalar {value : Value} {kind : Scalar} (isScalar : value.scalar? = some kind) :
    catalog.Admits genuine (.ofScalar kind) value :=
  ⟨.scalar isScalar, carries_scalar isScalar⟩

theorem Proper.array_of_type {value : Value} {element : DataType}
    (proper : catalog.Proper genuine value) (isArray : value.type.element? = some element) :
    ∃ origin items, value = .array origin element items := by
  cases proper with
  | scalar isScalar =>
      rw [type_of_scalar? isScalar] at isArray
      cases isArray
  | array origin proper carries =>
      cases isArray
      exact ⟨origin, _, rfl⟩
  | null | text | enumeration | object | function => cases isArray

/-- What a value under an array type is: null, or an array whose elements lead to those of the
type. -/
def IsArrayOf (catalog : Catalog) (element : DataType) (value : Value) : Prop :=
  value = .null ∨ ∃ origin own items, value = .array origin own items ∧
    Relation.ReflTransGen catalog.StepsUp own element

theorem isArray_of_element? {type element : DataType} (found : type.element? = some element) :
    type.isArray = true := by
  rw [DataType.eq_arrayOf found]
  exact decide_eq_true (Nat.succ_pos element.rank)

theorem isArrayOf_assignable {type element : DataType} {value : Value}
    (proper : catalog.Proper genuine value) (isElement : type.element? = some element)
    (assignable : catalog.isAssignable type value.type = true) :
    catalog.IsArrayOf element value := by
  right
  rcases isAssignable_isArray assignable (isArray_of_element? isElement) with
    same | ⟨expected, own, hasElement, ownElement, step⟩
  · rw [same] at isElement
    obtain ⟨origin, items, rfl⟩ := proper.array_of_type isElement
    exact ⟨origin, element, items, rfl, .refl⟩
  · obtain ⟨origin, items, rfl⟩ := proper.array_of_type ownElement
    rw [hasElement] at isElement
    cases isElement
    exact ⟨origin, own, items, rfl, .single step⟩

theorem Carries.isArrayOf {type element : DataType} {value : Value}
    (proper : catalog.Proper genuine value) (isElement : type.element? = some element)
    (carries : catalog.Carries type value) : catalog.IsArrayOf element value := by
  obtain ⟨start, conforms, path⟩ := carries
  induction path generalizing element with
  | refl =>
      cases conforms with
      | null accepts => exact .inl rfl
      | same isType =>
          have plain : start.underlying = start := by
            rw [DataType.eq_arrayOf isElement]
            rfl
          rw [plain] at isType
          exact isArrayOf_assignable proper isElement
            (isType ▸ isAssignable_refl value.type)
      | reference _ assignable => exact isArrayOf_assignable proper isElement assignable
  | tail _ step ih =>
      rcases isAssignable_isArray step.2 (isArray_of_element? isElement) with
        same | ⟨expected, own, hasElement, ownElement, elements⟩
      · exact ih (same ▸ isElement)
      · rw [hasElement] at isElement
        cases isElement
        rcases ih ownElement with isNull | ⟨origin, first, items, isArray, leads⟩
        · exact .inl isNull
        · exact .inr ⟨origin, first, items, isArray, leads.tail elements⟩

/-- The items of an array may stand under the element type of any type it stands under. -/
theorem IsArrayOf.items {element : DataType} {value : Value}
    (proper : catalog.Proper genuine value) (isArray : catalog.IsArrayOf element value) :
    value = .null ∨ ∃ origin own items, value = .array origin own items ∧
      ∀ item ∈ items, catalog.Admits genuine element item := by
  rcases isArray with isNull | ⟨origin, own, items, rfl, leads⟩
  · exact .inl isNull
  · refine .inr ⟨origin, own, items, rfl, fun item member => ?_⟩
    cases proper with
    | scalar isScalar => cases isScalar
    | array _ proper carries =>
        obtain ⟨start, conforms, path⟩ := carries item member
        exact ⟨proper item member, start, conforms, path.trans leads⟩

theorem isElement_of_isArray {type : DataType} (isArray : type.isArray = true) :
    ∃ element, type.element? = some element := by
  unfold DataType.isArray at isArray
  unfold DataType.element?
  split
  · rename_i flat
    rw [flat] at isArray
    cases isArray
  · exact ⟨_, rfl⟩

theorem HoldsPrimitives.isEnumeration_arrays (holds : catalog.HoldsPrimitives) :
    catalog.isEnumeration (.plain .array) = false := by
  obtain ⟨entry, found, isClass⟩ :=
    holds.find? (show (TypeId.array, TypeKind.classType) ∈ primitiveKinds by decide)
  unfold isEnumeration underlying?
  simp only [DataType.plain, DataType.isArray, found, Option.bind_some]
  unfold TypeEntry.underlying?
  rw [isClass]
  rfl

theorem Proper.array_of_class (holds : catalog.HoldsPrimitives) {value : Value}
    (proper : catalog.Proper genuine value) (isClass : value.type = .plain .array) :
    ∃ origin element items, value = .array origin element items := by
  have noScalar : value.type.scalar? = none := by
    rw [isClass]
    decide
  rw [proper.scalar?_type holds] at noScalar
  cases proper with
  | scalar isScalar =>
      rw [isScalar] at noScalar
      cases noScalar
  | array origin _ _ => exact ⟨origin, _, _, rfl⟩
  | null => exact absurd isClass (by decide)
  | text origin text => exact absurd isClass (by decide : DataType.string ≠ .plain .array)
  | enumeration bits declared =>
      cases isClass
      rw [holds.isEnumeration_arrays] at declared
      cases declared
  | object hosted vouched =>
      cases isClass
      exact absurd rfl hosted.notArray
  | function hosted vouched =>
      cases isClass
      exact absurd rfl hosted.notArray

theorem isArray_assignable (holds : catalog.HoldsPrimitives)
    (references : catalog.ReferencesAbove) {value : Value} (proper : catalog.Proper genuine value)
    (assignable : catalog.isAssignable (.plain .array) value.type = true) :
    ∃ origin element items, value = .array origin element items := by
  rcases isAssignable_arrays references assignable with isClass | isArray
  · exact proper.array_of_class holds isClass
  · obtain ⟨element, isElement⟩ := isElement_of_isArray isArray
    obtain ⟨origin, items, same⟩ := proper.array_of_type isElement
    exact ⟨origin, element, items, same⟩

theorem Carries.ofArrays (holds : catalog.HoldsPrimitives)
    (references : catalog.ReferencesAbove) {value : Value}
    (proper : catalog.Proper genuine value)
    (carries : catalog.Carries (.plain .array) value) :
    value = .null ∨ ∃ origin element items, value = .array origin element items := by
  obtain ⟨start, conforms, path⟩ := carries
  generalize isClass : DataType.plain .array = target at path
  induction path with
  | refl =>
      subst isClass
      cases conforms with
      | null accepts => exact .inl rfl
      | same isType => exact .inr (proper.array_of_class holds isType)
      | reference _ assignable =>
          exact .inr (isArray_assignable holds references proper assignable)
  | tail path step ih =>
      subst isClass
      rcases isAssignable_arrays references step.2 with same | isArray
      · exact ih same.symm
      · obtain ⟨element, isElement⟩ := isElement_of_isArray isArray
        have above : catalog.Carries _ value := ⟨start, conforms, path⟩
        rcases above.isArrayOf proper isElement with isNull | ⟨origin, own, items, same, _⟩
        · exact .inl isNull
        · exact .inr ⟨origin, own, items, same⟩

/-- The mark for null, if there is one, is on a value type. -/
def MarksValues (catalog : Catalog) (type : DataType) : Prop :=
  type.nullable = true → catalog.isReferenceType (.plain type.id) = false

/-- What can be used as one type, and this as another one, can be used as the other at once. No
catalog has this for marks on reference types, which no step but the last one may add. -/
def Composes (catalog : Catalog) : Prop :=
  ∀ source middle target, catalog.isAssignable middle source = true →
    catalog.StepsUp middle target → catalog.MarksValues target →
    catalog.isAssignable target source = true

theorem MarksValues.underlying {type : DataType} (marks : catalog.MarksValues type)
    (isNullable : type.isNullable = true) : catalog.isReferenceType type.underlying = false := by
  unfold DataType.underlying
  rw [if_pos isNullable]
  unfold DataType.isNullable at isNullable
  rw [Bool.and_eq_true] at isNullable
  exact marks isNullable.2

theorem StepsUp.isReferenceType_target (holds : catalog.HoldsPrimitives)
    (noValues : catalog.NoValuesAbove) {source target : DataType}
    (step : catalog.StepsUp source target) (marks : catalog.MarksValues target) :
    catalog.isReferenceType target = true := by
  rcases step.target_cases holds noValues with isReference | ⟨isNullable, same⟩
  · exact isReference
  · have noStep := marks.underlying isNullable
    rw [same, step.1] at noStep
    cases noStep

theorem Conforms.step (holds : catalog.HoldsPrimitives) (noValues : catalog.NoValuesAbove)
    (composes : catalog.Composes) {source target : DataType} {value : Value}
    (conforms : catalog.Conforms source value) (step : catalog.StepsUp source target)
    (marks : catalog.MarksValues target) : catalog.Conforms target value := by
  have isReference := step.isReferenceType_target holds noValues marks
  cases conforms with
  | null accepts =>
      exact .null (.inl (acceptsNull_of_isReferenceType isReference))
  | same isType =>
      rw [underlying_of_isReferenceType step.1] at isType
      refine .reference isReference ?_
      rw [isType]
      exact step.2
  | reference _ assignable =>
      exact .reference isReference (composes _ _ _ assignable step marks)

theorem stepsUp_of_path (composes : catalog.Composes) {source target : DataType}
    (marks : catalog.MarksValues target)
    (path : Relation.ReflTransGen catalog.StepsUp source target) :
    source = target ∨ catalog.StepsUp source target := by
  induction path using Relation.ReflTransGen.head_induction_on with
  | refl => exact .inl rfl
  | head step _ ih =>
      rcases ih with rfl | further
      · exact .inr step
      · exact .inr ⟨step.1, composes _ _ _ step.2 further marks⟩

theorem Carries.conforms_of_composes (holds : catalog.HoldsPrimitives)
    (references : catalog.ReferencesAbove) (composes : catalog.Composes) {type : DataType}
    {value : Value} (carries : catalog.Carries type value) (marks : catalog.MarksValues type) :
    catalog.Conforms type value := by
  obtain ⟨start, conforms, path⟩ := carries
  rcases stepsUp_of_path composes marks path with rfl | step
  · exact conforms
  · exact conforms.step holds references.noValuesAbove composes step marks

/-- No entry has anything but the root right above it. -/
def Flat (catalog : Catalog) : Prop :=
  ∀ id entry parent, catalog.find? id = some entry → entry.Above parent → parent = .object

theorem Flat.referencesAbove (flat : catalog.Flat) (holds : catalog.HoldsPrimitives) :
    catalog.ReferencesAbove := by
  intro id entry parent found above
  rw [flat id entry parent found above]
  exact ⟨holds.isReferenceType_object, by decide⟩

theorem isAssignable_of_reaches {target source : DataType} (plain : target = .plain target.id)
    (reached : catalog.reaches target source = true) :
    catalog.isAssignable target source = true := by
  have notArray : target.isArray = false := plain ▸ rfl
  have notMarked : target.isNullable = false := plain ▸ rfl
  have unmarked : target.nullable = false := plain ▸ rfl
  unfold isAssignable isAssignableAt
  rw [notArray, notMarked, unmarked, reached, Bool.and_false, Bool.false_and, Bool.or_false]
  simp only [Bool.false_eq_true, if_false]
  exact ite_self true

theorem isAssignable_arrays_of_isArray {source : DataType} (isArray : source.isArray = true) :
    catalog.isAssignable (.plain .array) source = true := by
  refine isAssignable_of_reaches rfl (reaches_iff.mpr ⟨.plain .array, ?_, .inl rfl⟩)
  have base : catalog.base? source = some (.plain .array) := by
    unfold base?
    rw [if_pos isArray]
  unfold chainLimit baseChain
  rw [base]
  refine List.mem_cons_of_mem _ ?_
  unfold baseChain
  split <;> exact List.mem_cons_self ..

theorem isAssignable_arrayOf {element own : DataType} (step : catalog.StepsUp own element) :
    catalog.isAssignable element.arrayOf own.arrayOf = true := by
  have isElement : element.arrayOf.element? = some element := rfl
  have isOwn : own.arrayOf.element? = some own := rfl
  have notMarked : element.arrayOf.isNullable = false := rfl
  have areArrays : (own.arrayOf.isArray && element.arrayOf.isArray) = true := by
    unfold DataType.isArray DataType.arrayOf
    simp
  unfold isAssignable
  change catalog.isAssignableAt (element.rank + 1) _ _ = true
  unfold isAssignableAt
  rw [notMarked, areArrays, isElement, isOwn]
  simp only [Bool.false_and, Bool.false_eq_true, if_false, if_true]
  split
  · rfl
  · rw [Bool.and_eq_true]
    exact step

/-- Steps compose as soon as those to plain types do. -/
theorem composes_of_reaches
    (each : ∀ source middle target, target = .plain target.id →
      catalog.isAssignable middle source = true → catalog.isReferenceType middle = true →
      catalog.reaches target middle = true → catalog.isAssignable target source = true) :
    catalog.Composes := by
  suffices ofRank : ∀ rank source middle target, target.rank = rank →
      catalog.isAssignable middle source = true → catalog.StepsUp middle target →
      catalog.MarksValues target → catalog.isAssignable target source = true from
    fun source middle target => ofRank target.rank source middle target rfl
  intro rank
  induction rank with
  | zero =>
      intro source middle target isRank assignable step marks
      rcases isAssignable_cases step.2 with rfl | rfl | ⟨isNullable, same⟩ |
        ⟨element, own, isElement, _, _⟩ | ⟨plain, reached⟩
      · exact assignable
      · exact isAssignable_object source
      · have noStep := marks.underlying isNullable
        rw [same, step.1] at noStep
        cases noStep
      · rw [DataType.eq_arrayOf isElement] at isRank
        cases isRank
      · exact each source middle target plain assignable step.1 reached
  | succ rank ih =>
      intro source middle target isRank assignable step marks
      have isArray : target.isArray = true := by
        unfold DataType.isArray
        rw [isRank]
        exact decide_eq_true (Nat.succ_pos rank)
      rcases isAssignable_isArray step.2 isArray with
        rfl | ⟨element, own, isElement, isOwn, elements⟩
      · exact assignable
      · have isTarget := DataType.eq_arrayOf isElement
        have isMiddle := DataType.eq_arrayOf isOwn
        subst isTarget isMiddle
        rcases isAssignable_isArray assignable (isArray_of_element? isOwn) with
          rfl | ⟨_, first, same, isFirst, firsts⟩
        · exact step.2
        · cases same
          rw [DataType.eq_arrayOf isFirst]
          have isBelow : element.rank = rank := Nat.succ.inj isRank
          exact isAssignable_arrayOf
            ⟨firsts.1, ih first own element isBelow firsts.2 elements marks⟩

theorem Flat.composes (flat : catalog.Flat) : catalog.Composes := by
  refine composes_of_reaches fun source middle target plain assignable _ reached => ?_
  rcases reaches_cases plain reached with rfl | ⟨isArray, rfl⟩ | rfl |
    ⟨id, entry, parent, found, above, isParent⟩
  · exact assignable
  · rcases isAssignable_isArray assignable isArray with rfl | ⟨_, _, _, isOwn, _⟩
    · exact isAssignable_arrays_of_isArray isArray
    · exact isAssignable_arrays_of_isArray (isArray_of_element? isOwn)
  · exact isAssignable_object source
  · rw [isParent, flat id entry parent found above]
    exact isAssignable_object source

end Catalog

end Formula
