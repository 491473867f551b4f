import Formula.Proofs.Catalog.Search

/-!
The steps by which one type is used as another. Where no entry has a value type above it, a step
leads to a reference type; where none has the class of arrays above it, only arrays lead to
arrays.
-/

namespace Formula

theorem DataType.isArray_of_isNullable {type : DataType} (marked : type.isNullable = true) :
    type.isArray = false := by
  unfold isNullable at marked
  rw [Bool.and_eq_true, beq_iff_eq] at marked
  unfold isArray
  rw [marked.1]
  rfl

theorem DataType.rank_eq_zero {type : DataType} (notArray : type.isArray = false) :
    type.rank = 0 := by
  unfold isArray at notArray
  rw [decide_eq_false_iff_not] at notArray
  exact Nat.eq_zero_of_not_pos notArray

theorem DataType.eq_plain {type : DataType} (notArray : type.isArray = false)
    (unmarked : type.isNullable = false) : type = .plain type.id := by
  have flat := rank_eq_zero notArray
  obtain ⟨id, nullable, rank⟩ := type
  cases flat
  cases (show nullable = false from unmarked)
  rfl

theorem DataType.eq_orNull {type : DataType} (marked : type.isNullable = true) :
    type = .orNull type.id := by
  have flat := rank_eq_zero (isArray_of_isNullable marked)
  obtain ⟨id, nullable, rank⟩ := type
  cases flat
  cases (show nullable = true from marked)
  rfl

def TypeEntry.Above (entry : TypeEntry) (parent : TypeId) : Prop :=
  entry.base = some parent ∨ parent ∈ entry.interfaces

namespace Catalog

variable {catalog : Catalog}

/-- A reference of one type can be used as another type. -/
def StepsUp (catalog : Catalog) (source target : DataType) : Prop :=
  catalog.isReferenceType source = true ∧ catalog.isAssignable target source = true

def NoValuesAbove (catalog : Catalog) : Prop :=
  ∀ id entry parent, catalog.find? id = some entry → entry.Above parent →
    catalog.isValueType (.plain parent) = false

/-- What any entry has above it is a reference type, and not the class of all arrays. -/
def ReferencesAbove (catalog : Catalog) : Prop :=
  ∀ id entry parent, catalog.find? id = some entry → entry.Above parent →
    catalog.isReferenceType (.plain parent) = true ∧ parent ≠ .array

def Descending (catalog : Catalog) (level : TypeId → Nat) : Prop :=
  ∀ entry ∈ catalog.entries, ∀ parent, entry.Above parent → level parent < level entry.id

/-- Links lead from every entry to earlier ones only, for some order of the types. -/
def Acyclic (catalog : Catalog) : Prop :=
  ∃ level : TypeId → Nat, ∀ entry ∈ catalog.entries, ∀ parent, entry.Above parent →
    level parent < level entry.id

theorem Acyclic.of_order (order : List TypeId)
    (descends : ∀ entry ∈ catalog.entries, ∀ parent ∈ entry.base.toList ++ entry.interfaces,
      order.idxOf parent < order.idxOf entry.id) : catalog.Acyclic := by
  refine ⟨order.idxOf, fun entry listed parent above => descends entry listed parent ?_⟩
  rw [List.mem_append]
  rcases above with isBase | isInterface
  · exact .inl (Option.mem_toList.mpr isBase)
  · exact .inr isInterface

theorem mem_of_foldl {α : Type} {add : List α → α → List α}
    (adds : ∀ found item, add found item = found ∨ add found item = found ++ [item])
    {items found : List α} {item : α} (member : item ∈ items.foldl add found) :
    item ∈ found ∨ item ∈ items := by
  induction items generalizing found with
  | nil => exact .inl member
  | cons first rest ih =>
      rw [List.foldl_cons] at member
      rcases ih member with kept | later
      · rcases adds found first with same | grown
        · rw [same] at kept
          exact .inl kept
        · rw [grown, List.mem_append, List.mem_singleton] at kept
          rcases kept with earlier | rfl
          · exact .inl earlier
          · exact .inr (List.mem_cons_self ..)
      · exact .inr (List.mem_cons_of_mem _ later)

theorem mem_directInterfaces {id parent : TypeId} (member : parent ∈ catalog.directInterfaces id) :
    ∃ entry, catalog.find? id = some entry ∧ parent ∈ entry.interfaces := by
  unfold directInterfaces at member
  cases found : catalog.find? id with
  | none =>
      rw [found] at member
      cases member
  | some entry =>
      rw [found] at member
      exact ⟨entry, rfl, member⟩

theorem Implements.declared {id parent : TypeId} (implements : catalog.Implements id parent) :
    ∃ id entry, catalog.find? id = some entry ∧ parent ∈ entry.interfaces := by
  obtain ⟨last, _, lists⟩ := Relation.TransGen.tail'_iff.mp implements
  obtain ⟨entry, found, declared⟩ := mem_directInterfaces lists
  exact ⟨last, entry, found, declared⟩

theorem base?_cases {type base : DataType} (found : catalog.base? type = some base) :
    (type.isArray = true ∧ base = .plain .array) ∨ base = .object ∨
      ∃ id entry parent, catalog.find? id = some entry ∧ entry.Above parent ∧
        base = .plain parent := by
  unfold base? at found
  split at found
  · rename_i array
    cases found
    exact .inl ⟨array, rfl⟩
  · split at found
    · cases found
      exact .inr (.inl rfl)
    · obtain ⟨parent, named, rfl⟩ := Option.map_eq_some_iff.mp found
      obtain ⟨entry, known, isBase⟩ := Option.bind_eq_some_iff.mp named
      exact .inr (.inr ⟨type.id, entry, parent, known, .inl isBase, rfl⟩)

theorem mem_baseChain {limit : Nat} {source type : DataType}
    (member : type ∈ catalog.baseChain limit source) :
    type = source ∨ (source.isArray = true ∧ type = .plain .array) ∨ type = .object ∨
      ∃ id entry parent, catalog.find? id = some entry ∧ entry.Above parent ∧
        type = .plain parent := by
  induction limit generalizing source with
  | zero => cases member
  | succ limit ih =>
      unfold baseChain at member
      cases next : catalog.base? source with
      | none =>
          simp only [next, List.mem_singleton] at member
          exact .inl member
      | some base =>
          simp only [next, List.mem_cons] at member
          rcases member with same | further
          · exact .inl same
          · right
            rcases ih further with rfl | ⟨array, _⟩ | above
            · exact base?_cases next
            · rcases base?_cases next with ⟨_, rfl⟩ | rfl | ⟨_, _, parent, _, _, rfl⟩
              · cases array
              · cases array
              · cases array
            · exact .inr above

theorem reaches_cases {target source : DataType} (plain : target = .plain target.id)
    (reached : catalog.reaches target source = true) :
    target = source ∨ (source.isArray = true ∧ target = .plain .array) ∨ target = .object ∨
      ∃ id entry parent, catalog.find? id = some entry ∧ entry.Above parent ∧
        target = .plain parent := by
  obtain ⟨type, member, arrives⟩ := reaches_iff.mp reached
  rcases arrives with rfl | ⟨_, implements⟩
  · exact mem_baseChain member
  · obtain ⟨id, entry, found, declared⟩ := implements.declared
    exact .inr (.inr (.inr ⟨id, entry, target.id, found, .inr declared, plain⟩))

theorem isAssignable_refl (type : DataType) : catalog.isAssignable type type = true := by
  unfold isAssignable isAssignableAt
  rw [beq_self_eq_true, Bool.true_or, if_pos rfl]

theorem isAssignable_object (source : DataType) :
    catalog.isAssignable .object source = true := by
  have root : DataType.object.isObject = true := beq_self_eq_true DataType.object
  unfold isAssignable isAssignableAt
  rw [root, Bool.or_true, if_pos rfl]

theorem isAssignable_marked {target : DataType} (marked : target.isNullable = true) :
    catalog.isAssignable target target.underlying = true := by
  unfold isAssignable isAssignableAt
  split
  · rfl
  · rw [marked, beq_self_eq_true, Bool.and_self, if_pos rfl]

theorem isAssignable_cases {target source : DataType}
    (assignable : catalog.isAssignable target source = true) :
    target = source ∨ target = .object ∨
      (target.isNullable = true ∧ target.underlying = source) ∨
      (∃ element sourceElement, target.element? = some element ∧
        source.element? = some sourceElement ∧ catalog.StepsUp sourceElement element) ∨
      (target = .plain target.id ∧ catalog.reaches target source = true) := by
  unfold isAssignable isAssignableAt at assignable
  split at assignable
  · rename_i simple
    rw [Bool.or_eq_true, beq_iff_eq] at simple
    rcases simple with same | root
    · exact .inl same
    · exact .inr (.inl (eq_of_beq root))
  · split at assignable
    · rename_i marked
      rw [Bool.and_eq_true, beq_iff_eq] at marked
      exact .inr (.inr (.inl marked))
    · split at assignable
      · split at assignable
        · rename_i rank sourceElement element isRank hasSource hasTarget
          rw [Bool.and_eq_true] at assignable
          have lower : element.rank = rank := by
            unfold DataType.element? at hasTarget
            rw [isRank] at hasTarget
            cases hasTarget
            rfl
          refine .inr (.inr (.inr (.inl ⟨element, sourceElement, hasTarget, hasSource,
            assignable.1, ?_⟩)))
          unfold isAssignable
          rw [lower]
          exact assignable.2
        · cases assignable
      · split at assignable
        · cases assignable
        · rename_i plain
          rw [Bool.not_eq_true, Bool.or_eq_false_iff] at plain
          refine .inr (.inr (.inr (.inr ⟨?_, assignable⟩)))
          obtain ⟨id, nullable, rank⟩ := target
          obtain ⟨flat, unmarked⟩ := plain
          unfold DataType.isArray at flat
          simp only [decide_eq_false_iff_not, Nat.not_lt, Nat.le_zero] at flat unmarked
          subst flat unmarked
          rfl

theorem isReferenceType_of_isArray {type : DataType} (array : type.isArray = true) :
    catalog.isReferenceType type = true := by
  have notVoid : type.isVoid = false := by
    unfold DataType.isVoid
    rw [beq_eq_false_iff_ne]
    rintro rfl
    cases array
  unfold isReferenceType isValueType
  rw [notVoid, array]
  rfl

theorem HoldsPrimitives.isReferenceType_class (holds : catalog.HoldsPrimitives) {id : TypeId}
    (isClass : (id, .classType) ∈ primitiveKinds)
    (notVoid : (DataType.plain id).isVoid = false)
    (notScalar : (DataType.plain id).scalar? = none) :
    catalog.isReferenceType (.plain id) = true := by
  obtain ⟨entry, found, kind⟩ := holds.find? isClass
  have reference : entry.isValueType = false := by
    unfold TypeEntry.isValueType
    rw [kind]
  unfold isReferenceType isValueType
  rw [notVoid, notScalar]
  simp only [DataType.plain, DataType.isArray, DataType.isNullable, found, Option.any_some,
    reference]
  rfl

theorem HoldsPrimitives.isReferenceType_object (holds : catalog.HoldsPrimitives) :
    catalog.isReferenceType .object = true :=
  holds.isReferenceType_class (by decide) (by decide) (by decide)

theorem HoldsPrimitives.isReferenceType_string (holds : catalog.HoldsPrimitives) :
    catalog.isReferenceType .string = true :=
  holds.isReferenceType_class (by decide) (by decide) (by decide)

theorem HoldsPrimitives.isReferenceType_arrays (holds : catalog.HoldsPrimitives) :
    catalog.isReferenceType (.plain .array) = true :=
  holds.isReferenceType_class (by decide) (by decide) (by decide)

theorem HoldsPrimitives.isValueType_void (holds : catalog.HoldsPrimitives) :
    catalog.isValueType .void = true := by
  obtain ⟨entry, found, kind⟩ :=
    holds.find? (show (TypeId.void, TypeKind.structType) ∈ primitiveKinds by decide)
  have isValue : entry.isValueType = true := by
    unfold TypeEntry.isValueType
    rw [kind]
  unfold isValueType
  simp only [DataType.void, DataType.isArray, DataType.isNullable, found, Option.any_some, isValue,
    Bool.or_true, Bool.and_true]
  rfl

theorem HoldsPrimitives.isReferenceType_of_not_value (holds : catalog.HoldsPrimitives)
    {type : DataType} (notValue : catalog.isValueType type = false) :
    catalog.isReferenceType type = true := by
  have notVoid : type.isVoid = false := by
    unfold DataType.isVoid
    rw [beq_eq_false_iff_ne]
    rintro rfl
    rw [holds.isValueType_void] at notValue
    cases notValue
  unfold isReferenceType
  rw [notVoid, notValue]
  rfl

theorem isValueType_of_isReferenceType {type : DataType}
    (isReference : catalog.isReferenceType type = true) : catalog.isValueType type = false := by
  unfold isReferenceType at isReference
  rw [Bool.and_eq_true] at isReference
  exact (Bool.not_eq_true' _).mp isReference.2

theorem ReferencesAbove.noValuesAbove (references : catalog.ReferencesAbove) :
    catalog.NoValuesAbove := by
  intro id entry parent found above
  exact isValueType_of_isReferenceType (references id entry parent found above).1

theorem isReferenceType_of_reaches (holds : catalog.HoldsPrimitives)
    (noValues : catalog.NoValuesAbove) {source target : DataType}
    (plain : target = .plain target.id) (reached : catalog.reaches target source = true) :
    target = source ∨ catalog.isReferenceType target = true := by
  rcases reaches_cases plain reached with same | ⟨_, rfl⟩ | rfl |
    ⟨id, entry, parent, found, above, isParent⟩
  · exact .inl same
  · exact .inr holds.isReferenceType_arrays
  · exact .inr holds.isReferenceType_object
  · rw [isParent]
    exact .inr (holds.isReferenceType_of_not_value (noValues id entry parent found above))

theorem StepsUp.target_cases (holds : catalog.HoldsPrimitives)
    (noValues : catalog.NoValuesAbove) {source target : DataType}
    (step : catalog.StepsUp source target) :
    catalog.isReferenceType target = true ∨
      (target.isNullable = true ∧ target.underlying = source) := by
  obtain ⟨isReference, assignable⟩ := step
  rcases isAssignable_cases assignable with rfl | rfl | marked | ⟨element, _, isElement, _⟩ |
    ⟨plain, reached⟩
  · exact .inl isReference
  · exact .inl holds.isReferenceType_object
  · exact .inr marked
  · left
    apply isReferenceType_of_isArray
    obtain ⟨id, nullable, rank⟩ := target
    cases rank with
    | zero => cases isElement
    | succ rank => exact decide_eq_true (Nat.succ_pos rank)
  · left
    rcases isReferenceType_of_reaches holds noValues plain reached with rfl | isTarget
    · exact isReference
    · exact isTarget

theorem isAssignable_isArray {source target : DataType}
    (assignable : catalog.isAssignable target source = true) (array : target.isArray = true) :
    target = source ∨ ∃ element sourceElement, target.element? = some element ∧
      source.element? = some sourceElement ∧ catalog.StepsUp sourceElement element := by
  rcases isAssignable_cases assignable with same | rfl | ⟨nullable, _⟩ | elements | ⟨plain, _⟩
  · exact .inl same
  · cases array
  · rw [DataType.isArray_of_isNullable nullable] at array
    cases array
  · exact .inr elements
  · rw [plain] at array
    cases array

theorem isAssignable_arrays (references : catalog.ReferencesAbove) {source : DataType}
    (assignable : catalog.isAssignable (.plain .array) source = true) :
    source = .plain .array ∨ source.isArray = true := by
  rcases isAssignable_cases assignable with same | root | ⟨nullable, _⟩ | ⟨_, _, isElement, _⟩ |
    ⟨plain, reached⟩
  · exact .inl same.symm
  · exact absurd root (by decide)
  · cases nullable
  · cases isElement
  · rcases reaches_cases plain reached with same | ⟨array, _⟩ | root |
      ⟨id, entry, parent, found, above, isParent⟩
    · exact .inl same.symm
    · exact .inr array
    · exact absurd root (by decide)
    · have isArrays : parent = .array := (congrArg DataType.id isParent).symm
      exact absurd isArrays (references id entry parent found above).2

end Catalog

end Formula
