import Formula.Proofs.Catalog.Interfaces
import Formula.Proofs.Evaluation.Lifting

/-!
Conversions that need no cast never fail, and what they give has the type that they lead to. Steps
up the hierarchy, boxing and null added to the very type leave the value as it is; steps need to
compose for that, as they do in an orderly catalog.
-/

namespace Formula

theorem Scalar.widenings_cases {narrow : Scalar} (wide : Scalar)
    (widens : wide ∈ narrow.widenings) :
    narrow = wide ∨ (narrow.width?.isSome = true ∧ wide ≠ .boolean ∧ wide ≠ .decimal) ∨
      (narrow = .single ∧ wide = .double) := by
  revert wide
  cases narrow with
  | integer kind => cases kind <;> decide
  | _ => decide

theorem DataType.widensTo_cases {source target : DataType}
    (widens : source.widensTo target = true) :
    (∃ narrow wide, source = .ofScalar narrow ∧ target = .ofScalar wide ∧
      wide ∈ narrow.widenings) ∨ (source = .string ∧ target = .string) := by
  unfold widensTo at widens
  split at widens
  · rename_i narrow wide isNarrow isWide
    rw [List.contains_iff_mem] at widens
    exact .inl ⟨narrow, wide, eq_ofScalar isNarrow, eq_ofScalar isWide, widens⟩
  · rw [Bool.and_eq_true] at widens
    exact .inr ⟨eq_of_beq widens.1, eq_of_beq widens.2⟩

theorem DataType.underlying_underlying (type : DataType) :
    type.underlying.underlying = type.underlying := by
  by_cases marked : type.isNullable = true
  · have inner : type.underlying = .plain type.id := if_pos marked
    rw [inner]
    rfl
  · have same : type.underlying = type := if_neg marked
    rw [same, same]

namespace Value

theorem castInt_ok (number : Int) {kind : Scalar} (notTruth : kind ≠ .boolean)
    (notDecimal : kind ≠ .decimal) :
    ∃ result, castInt number kind = .ok result ∧ result.scalar? = some kind := by
  cases kind with
  | single | double | integer | character => exact ⟨_, rfl, rfl⟩
  | boolean => exact absurd rfl notTruth
  | decimal => exact absurd rfl notDecimal

theorem toKind_same {value : Value} {kind : Scalar} (isScalar : value.scalar? = some kind) :
    value.toKind kind = .ok value := by
  unfold toKind
  rw [if_pos isScalar]

theorem toInt?_of_width {value : Value} {kind : Scalar} (isScalar : value.scalar? = some kind)
    (hasWidth : kind.width?.isSome = true) : ∃ number, value.toInt? = some number := by
  cases value <;> simp only [scalar?, Option.some.injEq, reduceCtorEq] at isScalar <;>
    subst isScalar <;> first
      | exact ⟨_, rfl⟩
      | cases hasWidth

theorem toKind_widens {value : Value} {narrow wide : Scalar}
    (isScalar : value.scalar? = some narrow) (widens : wide ∈ narrow.widenings) :
    ∃ result, value.toKind wide = .ok result ∧ result.scalar? = some wide := by
  by_cases same : narrow = wide
  · subst same
    exact ⟨value, toKind_same isScalar, isScalar⟩
  · unfold toKind
    rw [isScalar, if_neg fun equal => same (Option.some.inj equal)]
    rcases Scalar.widenings_cases wide widens with equal | ⟨hasWidth, notTruth, notDecimal⟩ |
      ⟨rfl, rfl⟩
    · exact absurd equal same
    · obtain ⟨number, isNumber⟩ := toInt?_of_width isScalar hasWidth
      rw [isNumber]
      exact castInt_ok number notTruth notDecimal
    · cases value <;> first
        | exact ⟨_, rfl, rfl⟩
        | cases isScalar

end Value

namespace Catalog

/-- A value is what its type says: a scalar exactly if that is a scalar type, and under an
enumeration an integer of the kind behind it. -/
structure Faithful (catalog : Catalog) (value : Value) : Prop where
  scalar : value.type.scalar? = value.scalar?
  enumeration : ∀ underlying, catalog.underlying? value.type = some underlying →
    ∃ own number, underlying = .integer own ∧ own.Holds number ∧
      value = .enumeration value.type.id (.ofInt number)

variable {catalog : Catalog}

theorem Orderly.composes (orderly : catalog.Orderly) : catalog.Composes := by
  refine composes_of_reaches fun source middle target plain assignable isReference reached => ?_
  rcases isAssignable_cases assignable with rfl | rfl | ⟨isNullable, _⟩ |
    ⟨element, own, isElement, isOwn, _⟩ | ⟨middlePlain, lower⟩
  · exact isAssignable_of_reaches plain reached
  · rw [orderly.eq_object_of_reaches reached]
    exact isAssignable_object source
  · rw [isNullable_of_isReferenceType isReference] at isNullable
    cases isNullable
  · exact isAssignable_of_reaches plain (reaches_of_isArray (isArray_of_element? isElement)
      (isArray_of_element? isOwn) plain reached)
  · exact isAssignable_of_reaches plain (orderly.reaches_trans middlePlain lower reached)

theorem cast_null {source target : DataType} (accepts : catalog.acceptsNull target = true) :
    catalog.cast .null source target = .ok .null := by
  simp only [cast, castNull, Value.isNull, accepts, if_true]

theorem cast_reference {value : Value} (present : value.isNull = false) {source target : DataType}
    (isReference : catalog.isReferenceType target = true)
    (assignable : catalog.isAssignable target value.type = true) :
    catalog.cast value source target = .ok value := by
  unfold cast
  simp only [present, underlying_of_isReferenceType isReference, isReference, assignable,
    Bool.false_eq_true, if_false, if_true]

theorem cast_value {value : Value} (present : value.isNull = false) {source target : DataType}
    (isSource : catalog.isReferenceType source = false)
    (isTarget : catalog.isReferenceType target.underlying = false) :
    catalog.cast value source target =
      match catalog.underlying? target.underlying with
      | some underlying => catalog.castToEnumeration value target.underlying underlying
      | none =>
          match target.underlying.scalar? with
          | some kind => catalog.castToScalar value target.underlying kind
          | none =>
              if value.type == target.underlying then .ok value
              else .error (catalog.castError value target.underlying) := by
  have notNull : ¬value.isNull = true := ne_true_of_eq_false present
  have notReference : ¬catalog.isReferenceType target.underlying = true :=
    ne_true_of_eq_false isTarget
  have unlike : ¬(catalog.isReferenceType source && value.type != target.underlying) = true := by
    rw [isSource, Bool.false_and]
    exact Bool.false_ne_true
  unfold cast
  exact (if_neg notNull).trans ((if_neg notReference).trans (if_neg unlike))

theorem cast_toScalar (holds : catalog.HoldsPrimitives) {value result : Value}
    (present : value.isNull = false) {source target : DataType}
    (isSource : catalog.isReferenceType source = false) {kind : Scalar}
    (inner : target.underlying = .ofScalar kind) (cast : value.toKind kind = .ok result) :
    catalog.cast value source target = .ok result := by
  have notReference : catalog.isReferenceType target.underlying = false := by
    rw [inner]
    exact isReferenceType_ofScalar kind
  rw [cast_value present isSource notReference, inner, holds.underlying?_ofScalar,
    DataType.scalar?_ofScalar]
  unfold castToScalar
  simp only [cast]

theorem cast_widening (holds : catalog.HoldsPrimitives) {value : Value} {narrow wide : Scalar}
    (isScalar : value.scalar? = some narrow) (widens : wide ∈ narrow.widenings)
    {target : DataType} (inner : target.underlying = .ofScalar wide) :
    ∃ result, catalog.cast value (.ofScalar narrow) target = .ok result ∧
      catalog.Conforms target result := by
  obtain ⟨result, cast, isWide⟩ := Value.toKind_widens isScalar widens
  have present := Value.isNull_of_scalar? isScalar
  refine ⟨result, ?_, .same ?_⟩
  · exact cast_toScalar holds present (isReferenceType_ofScalar narrow) inner cast
  · rw [inner]
    exact type_of_scalar? isWide

theorem castToEnumeration_same {type : TypeId} {target : DataType} {own : IntegerKind}
    {number : Int} (holds : own.Holds number) :
    catalog.castToEnumeration (.enumeration type (.ofInt number)) target (.integer own) =
      .ok (.enumeration target.id (.ofInt number)) := by
  have cast : Value.toKind (.enumeration type (.ofInt number)) (.integer own) =
      .ok (.integer (.wrap own (Int64.ofInt number).toInt)) := rfl
  unfold castToEnumeration
  rw [cast]
  change Except.ok (Value.enumeration target.id (.ofInt (own.wrap _))) = _
  rw [IntegerKind.wrap_toInt_ofInt, IntegerKind.wrap_of_holds holds]

theorem cast_own {value : Value} (faithful : catalog.Faithful value)
    (present : value.isNull = false) {source target : DataType}
    (isSource : catalog.isReferenceType source = false)
    (isTarget : catalog.isReferenceType target.underlying = false)
    (isType : value.type = target.underlying) : catalog.cast value source target = .ok value := by
  rw [cast_value present isSource isTarget, ← isType]
  split
  · rename_i underlying isEnumeration
    obtain ⟨own, number, rfl, inRange, same⟩ := faithful.enumeration underlying isEnumeration
    rw [same]
    exact castToEnumeration_same inRange
  · split
    · rename_i kind isScalar
      rw [faithful.scalar] at isScalar
      unfold castToScalar
      rw [Value.toKind_same isScalar]
    · rw [beq_self_eq_true, if_pos rfl]

theorem Conforms.type_of_value {type : DataType} {value : Value}
    (isValue : catalog.isReferenceType type = false) (present : value.isNull = false)
    (conforms : catalog.Conforms type value) : value.type = type.underlying := by
  cases conforms with
  | null accepts => cases present
  | same isType => exact isType
  | reference isReference _ =>
      rw [isValue] at isReference
      cases isReference

theorem eq_null_of_isNull {value : Value} (isNull : value.isNull = true) : value = .null := by
  cases value <;> first
    | rfl
    | cases isNull

theorem scalar?_of_conforms {value : Value} (faithful : catalog.Faithful value) {kind : Scalar}
    (conforms : catalog.Conforms (.ofScalar kind) value) : value.scalar? = some kind := by
  rw [← faithful.scalar, conforms.type_ofScalar, DataType.scalar?_ofScalar]

theorem isReferenceType_of_boxing (holds : catalog.HoldsPrimitives)
    (noValues : catalog.NoValuesAbove) {source target : DataType} (different : source ≠ target)
    (unmarked : target.isNullable = false) (isValue : catalog.isValueType source = true)
    (assignable : catalog.isAssignable target source = true) :
    catalog.isReferenceType target = true := by
  rcases isAssignable_cases assignable with same | rfl | ⟨marked, _⟩ |
    ⟨_, own, _, isOwn, _⟩ | ⟨plain, reached⟩
  · exact absurd same.symm different
  · exact holds.isReferenceType_object
  · rw [unmarked] at marked
    cases marked
  · unfold isValueType at isValue
    rw [isArray_of_element? isOwn] at isValue
    cases isValue
  · rcases isReferenceType_of_reaches holds noValues plain reached with same | isReference
    · exact absurd same.symm different
    · exact isReference

/-- Without the mark for null, a type can be used as all that it can be used as with it, if steps
compose. -/
theorem isAssignable_of_marked (holds : catalog.HoldsPrimitives) (composes : catalog.Composes)
    {source target : DataType} (marked : source.isNullable = true)
    (unmarked : target.isNullable = false) (assignable : catalog.isAssignable target source = true) :
    catalog.isAssignable target source.underlying = true := by
  have different : source ≠ target := by
    rintro rfl
    rw [unmarked] at marked
    cases marked
  rcases isAssignable_cases assignable with same | rfl | ⟨isMarked, _⟩ |
    ⟨_, own, _, isOwn, _⟩ | ⟨plain, reached⟩
  · exact absurd same.symm different
  · exact isAssignable_object _
  · rw [unmarked] at isMarked
    cases isMarked
  · have isArray := isArray_of_element? isOwn
    rw [DataType.isArray_of_isNullable marked] at isArray
    cases isArray
  · rcases reaches_of_marked marked different reached with reachesRoot | isInterface
    · have isUnmarked : catalog.MarksValues target := by
        intro isMarked
        rw [plain] at isMarked
        cases isMarked
      exact composes _ .object target (isAssignable_object _)
        ⟨holds.isReferenceType_object, isAssignable_of_reaches plain reachesRoot⟩ isUnmarked
    · have inner : source.underlying = .plain source.id := if_pos marked
      rw [inner]
      exact isAssignable_of_reaches plain
        (reaches_of_mem (mem_baseChain_self _) (.inr ⟨rfl, isInterface⟩))

theorem cast_boxing (holds : catalog.HoldsPrimitives) (noValues : catalog.NoValuesAbove)
    {source target : DataType} (composes : source.isNullable = true → catalog.Composes)
    (different : source ≠ target) (unmarked : target.isNullable = false)
    (isValue : catalog.isValueType source = true)
    (assignable : catalog.isAssignable target source = true) {value : Value}
    (conforms : catalog.Conforms source value) :
    catalog.cast value source target = .ok value ∧ catalog.Conforms target value := by
  have isReference :=
    isReferenceType_of_boxing holds noValues different unmarked isValue assignable
  cases present : value.isNull with
  | true =>
      cases eq_null_of_isNull present
      have accepts := acceptsNull_of_isReferenceType isReference
      exact ⟨cast_null accepts, .null (.inl accepts)⟩
  | false =>
      have notReference : catalog.isReferenceType source = false := by
        unfold isReferenceType
        rw [isValue, Bool.not_true, Bool.and_false]
      have serves : catalog.isAssignable target value.type = true := by
        rw [conforms.type_of_value notReference present]
        by_cases marked : source.isNullable = true
        · exact isAssignable_of_marked holds (composes marked) marked unmarked assignable
        · unfold DataType.underlying
          rwa [if_neg marked]
      exact ⟨cast_reference present isReference serves, .reference isReference serves⟩

theorem cast_lifting (holds : catalog.HoldsPrimitives) {source target : DataType}
    (marked : target.isNullable = true) (noStep : ¬catalog.StepsUp source target)
    (inner : source = target.underlying ∨ source.widensTo target.underlying = true) {value : Value}
    (faithful : catalog.Faithful value) (conforms : catalog.Conforms source value) :
    ∃ result, catalog.cast value source target = .ok result ∧ catalog.Conforms target result ∧
      (source = target.underlying → result = value) := by
  have notReference : source = target.underlying → catalog.isReferenceType source = false := by
    rintro rfl
    rw [← Bool.not_eq_true]
    exact fun isReference => noStep ⟨isReference, isAssignable_marked marked⟩
  cases present : value.isNull with
  | true =>
      cases eq_null_of_isNull present
      have accepts : catalog.acceptsNull target = true := by
        unfold acceptsNull
        rw [marked, Bool.true_or]
      exact ⟨.null, cast_null accepts, .null (.inl accepts), fun _ => rfl⟩
  | false =>
      by_cases same : source = target.underlying
      · have isSource := notReference same
        have isType : value.type = target.underlying := by
          rw [conforms.type_of_value isSource present, same]
          exact DataType.underlying_underlying target
        refine ⟨value, cast_own faithful present isSource (same ▸ isSource) isType, .same isType,
          fun _ => rfl⟩
      · rcases DataType.widensTo_cases (inner.resolve_left same) with
          ⟨narrow, wide, rfl, isWide, widens⟩ | ⟨isText, isInner⟩
        · obtain ⟨result, cast, conformsTo⟩ :=
            cast_widening holds (scalar?_of_conforms faithful conforms) widens isWide
          exact ⟨result, cast, conformsTo, fun equal => absurd equal same⟩
        · exact absurd (isText.trans isInner.symm) same

end Catalog

namespace Conversion

/-- The conversions of the language, with what they rely on: that steps compose where the value
may be of another type than it is seen as, and that null is added to no reference type. -/
def Dependable (catalog : Catalog) (source target : DataType) : Conversion → Prop
  | identity | widening | lifting => True
  | reference => catalog.Composes ∧ catalog.MarksValues target
  | boxing => source.isNullable = true → catalog.Composes
  | explicit | operator _ => False

/-- The conversion gives the value that it is given. -/
def KeepsValue (source target : DataType) : Conversion → Prop
  | identity | reference | boxing => True
  | lifting => source = target.underlying
  | widening | explicit | operator _ => False

end Conversion

namespace Setting

variable {setting : Setting}

/-- A conversion of the language that needs no cast succeeds on every value of the source type,
and gives a value of the target type. -/
theorem evaluate_implicitConversion (holds : setting.catalog.HoldsPrimitives)
    (noValues : setting.catalog.NoValuesAbove) {source target : DataType} {conversion : Conversion}
    (found : setting.catalog.implicitConversion? source target = some conversion)
    (dependable : conversion.Dependable setting.catalog source target) {value : Value}
    (faithful : setting.catalog.Faithful value) (conforms : setting.catalog.Conforms source value)
    {term : Term} (isSource : term.type = source) (gives : setting.Holds term value)
    (site : List Nat) :
    ∃ result, setting.evaluate site (conversion.apply term target) = .ok result ∧
      setting.catalog.Conforms target result ∧
      (conversion.KeepsValue source target → result = value) := by
  have promise := Catalog.implicitConversion?_spec found
  have evaluated : setting.evaluate site (.convert term target) =
      setting.catalog.cast value source target := by
    unfold evaluate
    rw [gives, isSource]
    rfl
  cases conversion with
  | identity =>
      cases promise
      exact ⟨value, gives site, conforms, fun _ => rfl⟩
  | reference =>
      obtain ⟨composes, marks⟩ := dependable
      exact ⟨value, gives site, conforms.step holds noValues composes promise marks, fun _ => rfl⟩
  | widening =>
      rcases DataType.widensTo_cases promise with ⟨narrow, wide, rfl, rfl, widens⟩ | ⟨rfl, rfl⟩
      · obtain ⟨result, cast, conformsTo⟩ := Catalog.cast_widening holds
          (Catalog.scalar?_of_conforms faithful conforms) widens (Catalog.underlying_ofScalar wide)
        exact ⟨result, evaluated.trans cast, conformsTo, False.elim⟩
      · -- texts are identical types, which never get as far as the table of widenings
        unfold Catalog.implicitConversion? at found
        rw [beq_self_eq_true, if_pos rfl] at found
        cases found
  | boxing =>
      obtain ⟨different, unmarked, isValue, assignable⟩ := promise
      obtain ⟨cast, conformsTo⟩ := Catalog.cast_boxing holds noValues dependable different unmarked
        isValue assignable conforms
      exact ⟨value, evaluated.trans cast, conformsTo, fun _ => rfl⟩
  | lifting =>
      obtain ⟨marked, noStep, inner⟩ := promise
      obtain ⟨result, cast, conformsTo, keeps⟩ :=
        Catalog.cast_lifting holds marked noStep inner faithful conforms
      exact ⟨result, evaluated.trans cast, conformsTo, keeps⟩
  | explicit | operator => exact dependable.elim

end Setting

namespace Catalog

theorem NoValuesAbove.of_entries {catalog : Catalog} (each : ∀ entry ∈ catalog.entries,
    ∀ parent ∈ entry.base.toList ++ entry.interfaces,
      catalog.isValueType (.plain parent) = false) : catalog.NoValuesAbove := by
  intro id entry parent found above
  refine each entry (find?_mem found).1 parent ?_
  rw [List.mem_append]
  rcases above with isBase | isInterface
  · exact .inl (Option.mem_toList.mpr isBase)
  · exact .inr isInterface

theorem Faithful.of_object {catalog : Catalog} {type : TypeId} (origin : Origin)
    (content : Content) (notScalar : (DataType.plain type).scalar? = none)
    (notEnumeration : catalog.underlying? (.plain type) = none) :
    catalog.Faithful (.object origin type content) where
  scalar := notScalar
  enumeration underlying isEnumeration := by
    rw [show (Value.object origin type content).type = .plain type from rfl, notEnumeration]
      at isEnumeration
    cases isEnumeration

/-- The types of the language and those of a host, each with what is above it. -/
def hosting (types : List (UInt64 × String × TypeKind × Option TypeId × List TypeId)) : Catalog :=
  ⟨primitives.entries ++ types.map fun (id, name, kind, base, interfaces) =>
    { id := ⟨id⟩, name, namespaceName := "App", kind, base, interfaces }⟩

/-- A class under another one, which lists an interface. -/
def drawings : Catalog :=
  hosting [ (1, "Shape", .interfaceType, none, []),
    (2, "Round", .classType, some .object, [⟨1⟩]),
    (3, "Disk", .classType, some ⟨2⟩, []) ]

/-- A structure that lists the truth values as an interface, an interface with a base, and a class
under another one. -/
def misdrawn : Catalog :=
  hosting [ (1, "Flag", .structType, some .object, [.boolean]),
    (2, "Shape", .interfaceType, none, []),
    (3, "Round", .interfaceType, some ⟨2⟩, []),
    (4, "Disk", .classType, some .object, [⟨3⟩]),
    (5, "Node", .classType, some .object, []),
    (6, "Leaf", .classType, some ⟨5⟩, []) ]

theorem orderly_drawings : drawings.Orderly where
  root := by decide +kernel
  interfaces := by decide +kernel
  ends := by decide +kernel

end Catalog

namespace Setting

def hostObject (type : UInt64) : Value :=
  .object (.given 0) ⟨type⟩ (.fields [])

def onDrawings : Setting :=
  { catalog := .drawings }

def onMisdrawn : Setting :=
  { catalog := .misdrawn }

/-- A disk is seen as a shape, and is one. -/
theorem evaluate_implicitConversion_disk :
    ∃ result, onDrawings.evaluate []
        (Conversion.reference.apply (.constant (hostObject 3) (.plain ⟨3⟩)) (.plain ⟨1⟩)) =
          .ok result ∧
      onDrawings.catalog.Conforms (.plain ⟨1⟩) result ∧
      (Conversion.reference.KeepsValue (.plain ⟨3⟩) (.plain ⟨1⟩) → result = hostObject 3) := by
  have holds : onDrawings.catalog.HoldsPrimitives := by
    unfold Catalog.HoldsPrimitives
    decide +kernel
  have noValues : onDrawings.catalog.NoValuesAbove := .of_entries (by decide +kernel)
  have found : onDrawings.catalog.implicitConversion? (.plain ⟨3⟩) (.plain ⟨1⟩) =
      some .reference := by
    have step : (onDrawings.catalog.isReferenceType (.plain ⟨3⟩) &&
        onDrawings.catalog.isAssignable (.plain ⟨1⟩) (.plain ⟨3⟩)) = true := by decide +kernel
    unfold Catalog.implicitConversion?
    rw [if_neg (by decide), if_pos step]
  have unmarked : onDrawings.catalog.MarksValues (.plain ⟨1⟩) := fun marked => by cases marked
  have faithful : onDrawings.catalog.Faithful (hostObject 3) :=
    .of_object _ _ (by decide +kernel) (by decide +kernel)
  exact evaluate_implicitConversion holds noValues found
    ⟨Catalog.orderly_drawings.composes, unmarked⟩ faithful (.same rfl) rfl (fun _ => rfl) []

def Converts (setting : Setting) (source target : DataType) (value : Value) : Prop :=
  ∀ conversion, setting.catalog.implicitConversion? source target = some conversion →
    (∀ method, conversion ≠ .operator method) →
      ∃ result, setting.evaluate [] (conversion.apply (.constant value source) target) =
          .ok result ∧
        setting.catalog.Conforms target result

/-- Looks for a conversion and carries it out to see that it fails. -/
def strays (setting : Setting) (source target : DataType) (value : Value) : Bool :=
  match setting.catalog.implicitConversion? source target with
  | none | some (.operator _) => false
  | some conversion =>
      match setting.evaluate [] (conversion.apply (.constant value source) target) with
      | .error _ => true
      | .ok result => !decide (setting.catalog.Conforms target result)

theorem not_converts_of_strays {setting : Setting} {source target : DataType} {value : Value}
    (strays : setting.strays source target value = true) :
    ¬setting.Converts source target value := by
  intro converts
  unfold Setting.strays at strays
  split at strays
  · cases strays
  · cases strays
  · rename_i conversion notOperator found
    obtain ⟨result, evaluated, conforms⟩ := converts conversion found notOperator
    rw [evaluated] at strays
    simp only [conforms, decide_true, Bool.not_true, Bool.false_eq_true] at strays

/-- A structure boxed to a value type that it lists as an interface; an object under an interface
whose base it cannot be used as; and an object under a class to which null is added. -/
def straying : List (DataType × DataType × Value) :=
  [ (.plain ⟨1⟩, .boolean, hostObject 1),
    (.plain ⟨3⟩, .plain ⟨2⟩, hostObject 4),
    (.plain ⟨5⟩, .orNull ⟨5⟩, hostObject 6) ]

/-- That no value type is the base of a type is not enough. -/
theorem not_converts_misdrawn :
    onMisdrawn.catalog.HoldsPrimitives ∧
      (∀ entry ∈ onMisdrawn.catalog.entries, ∀ base, entry.base = some base →
        onMisdrawn.catalog.isValueType (.plain base) = false) ∧
      ∀ case ∈ straying, onMisdrawn.catalog.Faithful case.2.2 ∧
        onMisdrawn.catalog.Conforms case.1 case.2.2 ∧
        ¬onMisdrawn.Converts case.1 case.2.1 case.2.2 := by
  refine ⟨?_, by decide +kernel, fun case listed => ⟨?_, ?_, ?_⟩⟩
  · unfold Catalog.HoldsPrimitives
    decide +kernel
  · simp only [straying, List.mem_cons, List.not_mem_nil, or_false] at listed
    rcases listed with rfl | rfl | rfl <;>
      exact .of_object _ _ (by decide +kernel) (by decide +kernel)
  · have conform : ∀ case ∈ straying, onMisdrawn.catalog.Conforms case.1 case.2.2 := by
      decide +kernel
    exact conform case listed
  · have stray : ∀ case ∈ straying, onMisdrawn.strays case.1 case.2.1 case.2.2 = true := by
      decide +kernel
    exact not_converts_of_strays (stray case listed)

end Setting

end Formula
