import Formula.Proofs.Catalog.Ancestors
import Formula.Proofs.Typing.Arguments

/-!
Heights of types in a hierarchy without circles. The root is at the bottom, every other type is as
high as its level, and each dimension of an array outweighs all that is above the class of arrays.
What a type can be used as is lower than the type, as long as this adds no mark for null.
-/

namespace Formula.Catalog

/-- Nothing is above the root, and no entry has a scalar above it, decimals apart. -/
structure Capped (catalog : Catalog) : Prop where
  root : ∀ entry ∈ catalog.entries, entry.id = .object → ∀ parent, ¬entry.Above parent
  scalars : ∀ entry ∈ catalog.entries, ∀ parent, entry.Above parent →
    isTableScalar (.plain parent) = false

/-- The levels of the types, the root below all others, and the dimensions of arrays on top. -/
def height (level : TypeId → Nat) (type : DataType) : Nat :=
  (if type.id = .object then 0 else level type.id + 1) + type.rank * (level .array + 2)

variable {catalog : Catalog} {level : TypeId → Nat}

theorem height_plain_le (level : TypeId → Nat) (id : TypeId) :
    height level (.plain id) ≤ level id + 1 := by
  unfold height DataType.plain
  dsimp only
  rw [Nat.zero_mul, Nat.add_zero]
  split
  · exact Nat.zero_le _
  · exact Nat.le_refl _

theorem le_height {type : DataType} (notRoot : type.id ≠ .object) :
    level type.id + 1 ≤ height level type := by
  unfold height
  rw [if_neg notRoot]
  exact Nat.le_add_right _ _

theorem height_arrayOf (level : TypeId → Nat) (type : DataType) :
    height level type.arrayOf = height level type + (level .array + 2) := by
  unfold height DataType.arrayOf
  dsimp only
  rw [Nat.succ_mul, Nat.add_assoc]

theorem le_height_of_isArray {type : DataType} (isArray : type.isArray = true) :
    level .array + 2 ≤ height level type := by
  have dimensions : 0 < type.rank := of_decide_eq_true isArray
  exact Nat.le_trans (Nat.le_mul_of_pos_left _ dimensions) (Nat.le_add_left _ _)

theorem height_object (level : TypeId → Nat) : height level .object = 0 := by
  simp [height, DataType.object]

theorem height_object_lt (level : TypeId → Nat) (type : DataType) :
    .object = type ∨ height level .object < height level type ∨ type = .orNull .object := by
  rw [height_object]
  by_cases isRoot : type.id = .object
  · cases isArray : type.isArray with
    | true => exact .inr (.inl (Nat.lt_of_lt_of_le (Nat.succ_pos _) (le_height_of_isArray isArray)))
    | false =>
        cases marked : type.isNullable with
        | true => exact .inr (.inr (isRoot ▸ DataType.eq_orNull marked))
        | false => exact .inl (isRoot ▸ DataType.eq_plain isArray marked).symm
  · exact .inr (.inl (Nat.lt_of_lt_of_le (Nat.succ_pos _) (le_height isRoot)))

section Walks

variable (capped : catalog.Capped) (descending : catalog.Descending level)

include capped descending

/-- A type that an entry has right above it is lower than any type of that entry. -/
theorem height_lt_of_above {type : DataType} {entry : TypeEntry} {parent : TypeId}
    (found : catalog.find? type.id = some entry) (above : entry.Above parent) :
    height level (.plain parent) < height level type := by
  obtain ⟨listed, isId⟩ := find?_mem found
  have notRoot : type.id ≠ .object := fun same => capped.root entry listed (isId.trans same) _ above
  have lower := descending entry listed parent above
  rw [isId] at lower
  calc height level (.plain parent) ≤ level parent + 1 := height_plain_le level parent
    _ < level type.id + 1 := Nat.succ_lt_succ lower
    _ ≤ height level type := le_height notRoot

theorem height_lt_of_implements {type : DataType} {interface : TypeId}
    (implements : catalog.Implements type.id interface) :
    height level (.plain interface) < height level type := by
  have step : ∀ {type : DataType} {parent : TypeId}, parent ∈ catalog.directInterfaces type.id →
      height level (.plain parent) < height level type := by
    intro type parent lists
    obtain ⟨entry, found, declared⟩ := mem_directInterfaces lists
    exact height_lt_of_above capped descending found (.inr declared)
  induction implements with
  | single lists => exact step lists
  | @tail middle _ _ lists ih => exact (@step (.plain middle) _ lists).trans ih

theorem height_base {source base : DataType} (isBase : catalog.base? source = some base) :
    height level base < height level source ∨ (source = .orNull .object ∧ base = .object) := by
  unfold base? at isBase
  split at isBase
  · rename_i isArray
    cases isBase
    exact .inl (Nat.lt_of_lt_of_le (Nat.lt_succ_of_le (height_plain_le level .array))
      (le_height_of_isArray isArray))
  · split at isBase
    · rename_i marked
      cases isBase
      by_cases isRoot : source.id = .object
      · exact .inr ⟨isRoot ▸ DataType.eq_orNull marked, rfl⟩
      · rw [height_object]
        exact .inl (Nat.lt_of_lt_of_le (Nat.succ_pos _) (le_height isRoot))
    · obtain ⟨parent, named, rfl⟩ := Option.map_eq_some_iff.mp isBase
      obtain ⟨entry, found, declared⟩ := Option.bind_eq_some_iff.mp named
      exact .inl (height_lt_of_above capped descending found (.inl declared))

theorem height_baseChain {limit : Nat} {source type : DataType}
    (member : type ∈ catalog.baseChain limit source) :
    type = source ∨ height level type < height level source ∨
      (source = .orNull .object ∧ type = .object) := by
  induction limit generalizing source with
  | zero => cases member
  | succ limit ih =>
      unfold baseChain at member
      cases above : catalog.base? source with
      | none =>
          rw [above] at member
          exact .inl (List.mem_singleton.mp member)
      | some base =>
          rw [above] at member
          rcases List.mem_cons.mp member with same | further
          · exact .inl same
          · right
            rcases height_base capped descending above with lower | ⟨rfl, rfl⟩
            · rcases ih further with rfl | lowest | ⟨_, rfl⟩
              · exact .inl lower
              · exact .inl (lowest.trans lower)
              · rw [height_object]
                exact .inl (Nat.zero_lt_of_lt lower)
            · rcases ih further with same | impossible | ⟨impossible, _⟩
              · exact .inr ⟨rfl, same⟩
              · rw [height_object] at impossible
                cases impossible
              · cases impossible

theorem height_lt_of_reaches {source target : DataType} (plain : target = .plain target.id)
    (reached : catalog.reaches target source = true) :
    target = source ∨ height level target < height level source ∨
      (source = .orNull .object ∧ target = .object) := by
  obtain ⟨type, member, arrives⟩ := reaches_iff.mp reached
  have onChain := height_baseChain capped descending member
  rcases arrives with rfl | ⟨_, implements⟩
  · exact onChain
  · have lower : height level target < height level type := by
      rw [plain]
      exact height_lt_of_implements capped descending implements
    rcases onChain with rfl | further | ⟨_, rfl⟩
    · exact .inr (.inl lower)
    · exact .inr (.inl (lower.trans further))
    · rw [height_object] at lower
      cases lower

/-- What a type can be used as is lower than the type, unless this adds a mark for null or takes
one off the root. -/
theorem height_lt_of_isAssignable {source target : DataType} (unmarked : target.nullable = false)
    (assignable : catalog.isAssignable target source = true) :
    target = source ∨ height level target < height level source ∨
      (source = .orNull .object ∧ target = .object) := by
  induction isRank : target.rank generalizing source target with
  | zero =>
      rcases isAssignable_cases assignable with same | rfl | ⟨marked, _⟩ | ⟨_, _, isElement, _⟩ |
        ⟨plain, reached⟩
      · exact .inl same
      · exact (height_object_lt level source).imp_right (.imp_right (⟨·, rfl⟩))
      · unfold DataType.isNullable at marked
        rw [unmarked, Bool.and_false] at marked
        cases marked
      · rw [DataType.eq_arrayOf isElement] at isRank
        cases isRank
      · exact height_lt_of_reaches capped descending plain reached
  | succ rank ih =>
      have isArray : target.isArray = true := by
        unfold DataType.isArray
        rw [isRank]
        exact decide_eq_true (Nat.succ_pos rank)
      rcases isAssignable_isArray assignable isArray with
        same | ⟨element, own, isElement, isOwn, isReference, step⟩
      · exact .inl same
      · have isTarget := DataType.eq_arrayOf isElement
        have isSource := DataType.eq_arrayOf isOwn
        subst isTarget isSource
        rw [height_arrayOf, height_arrayOf, Nat.add_lt_add_iff_right]
        rcases @ih own element unmarked step (Nat.succ.inj isRank) with rfl | lower | ⟨rfl, _⟩
        · exact .inl rfl
        · exact .inr (.inl lower)
        · -- An element marked for null is no reference.
          cases isReference

end Walks

end Formula.Catalog
