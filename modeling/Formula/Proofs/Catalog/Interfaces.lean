import Formula.Proofs.Catalog.Hierarchy

/-!
Walks up the bases, and what a type reaches by them. Where interfaces have no base and chains of
bases end before the walk does, what is reached from what a type reaches is reached from the type.
-/

namespace Formula

namespace Catalog

variable {catalog : Catalog}

/-- Where every link up the bases leads, and where it ends. -/
structure Orderly (catalog : Catalog) : Prop where
  root : ∀ entry ∈ catalog.entries, entry.id = .object →
    entry.base = none ∧ entry.interfaces = []
  interfaces : ∀ entry ∈ catalog.entries, ∀ parent ∈ entry.interfaces,
    catalog.base? (.plain parent) = none
  /-- A walk up the bases ends, also one from an array or from a type with null added. -/
  ends : ∀ entry ∈ catalog.entries, catalog.depth entry.type + 1 < chainLimit

theorem baseChain_of_length {limit : Nat} {type : DataType}
    (ends : (catalog.baseChain (limit + 1) type).length ≤ limit) (more : Nat) :
    catalog.baseChain (limit + more) type = catalog.baseChain limit type := by
  induction limit generalizing type with
  | zero =>
      unfold baseChain at ends
      split at ends
      · exact absurd ends (by simp)
      · exact absurd ends (by simp)
  | succ limit ih =>
      rw [Nat.succ_add]
      unfold baseChain at ends ⊢
      cases above : catalog.base? type with
      | none => rfl
      | some base =>
          simp only [above, List.length_cons, Nat.add_le_add_iff_right] at ends
          simp only [List.cons.injEq, true_and]
          exact ih ends

theorem baseChain_prefix {fewer limit : Nat} (within : fewer ≤ limit) (type : DataType) :
    catalog.baseChain fewer type <+: catalog.baseChain limit type := by
  induction fewer generalizing limit type with
  | zero => exact List.nil_prefix
  | succ fewer ih =>
      cases limit with
      | zero => omega
      | succ limit =>
          unfold baseChain
          cases catalog.base? type with
          | none => exact List.prefix_rfl
          | some base =>
              exact List.prefix_cons_inj _ |>.mpr (ih (Nat.le_of_succ_le_succ within) base)

theorem mem_baseChain_self (type : DataType) : type ∈ catalog.baseChain chainLimit type := by
  unfold chainLimit baseChain
  split
  · exact List.mem_singleton_self type
  · exact List.mem_cons_self ..

theorem mem_baseChain_trans {limit more : Nat} {source middle type : DataType}
    (lower : middle ∈ catalog.baseChain limit source)
    (upper : type ∈ catalog.baseChain more middle) :
    type ∈ catalog.baseChain (limit + more) source := by
  induction limit generalizing source with
  | zero => cases lower
  | succ limit ih =>
      have longer := (catalog.baseChain_prefix (Nat.le_add_left more (limit + 1)) middle).subset
      unfold baseChain at lower
      cases above : catalog.base? source with
      | none =>
          rw [above] at lower
          cases List.mem_singleton.mp lower
          exact longer upper
      | some base =>
          rw [above, List.mem_cons] at lower
          rcases lower with rfl | further
          · exact longer upper
          · rw [Nat.succ_add]
            unfold baseChain
            rw [above]
            exact List.mem_cons_of_mem _ (ih further)

theorem length_of_top {type : DataType} (isTop : catalog.base? type = none) :
    (catalog.baseChain (chainLimit + 1) type).length = 1 := by
  rw [baseChain, isTop]
  rfl

theorem baseChain_of_base {type base : DataType} (above : catalog.base? type = some base) :
    catalog.baseChain chainLimit type = type :: catalog.baseChain (chainLimit - 1) base := by
  rw [show chainLimit = (chainLimit - 1) + 1 from rfl, baseChain, above]
  rfl

theorem reaches_of_mem {target source type : DataType}
    (member : type ∈ catalog.baseChain chainLimit source)
    (arrives : catalog.Arrives type target) : catalog.reaches target source = true :=
  reaches_iff.mpr ⟨type, member, arrives⟩

theorem reaches_of_isArray {first second target : DataType} (isArray : first.isArray = true)
    (isSecond : second.isArray = true) (plain : target = .plain target.id)
    (reached : catalog.reaches target first = true) : catalog.reaches target second = true := by
  have base : ∀ type : DataType, type.isArray = true →
      catalog.base? type = some (.plain .array) := fun type isArray => if_pos isArray
  obtain ⟨type, member, arrives⟩ := reaches_iff.mp reached
  rw [baseChain_of_base (base first isArray), List.mem_cons] at member
  rcases member with rfl | above
  · rcases arrives with rfl | ⟨notArray, _⟩
    · rw [plain] at isArray
      cases isArray
    · rw [isArray] at notArray
      cases notArray
  · refine reaches_of_mem ?_ arrives
    rw [baseChain_of_base (base second isSecond)]
    exact List.mem_cons_of_mem second above

/-- With null added, a type reaches what the root reaches and the interfaces that it lists. -/
theorem reaches_of_marked {source target : DataType} (marked : source.isNullable = true)
    (different : source ≠ target) (reached : catalog.reaches target source = true) :
    catalog.reaches target .object = true ∨ catalog.Implements source.id target.id := by
  have notArray := DataType.isArray_of_isNullable marked
  have base : catalog.base? source = some .object := by
    unfold base?
    rw [notArray, marked]
    rfl
  obtain ⟨type, member, arrives⟩ := reaches_iff.mp reached
  rw [baseChain_of_base base, List.mem_cons] at member
  rcases member with rfl | above
  · rcases arrives with same | ⟨_, implements⟩
    · exact absurd same different
    · exact .inr implements
  · have longer := catalog.baseChain_prefix (Nat.sub_le chainLimit 1) .object
    exact .inl (reaches_of_mem (longer.subset above) arrives)

theorem base?_plain {type base : DataType} (above : catalog.base? type = some base) :
    base = .plain base.id := by
  rcases base?_cases above with ⟨_, rfl⟩ | rfl | ⟨_, _, parent, _, _, rfl⟩
  · rfl
  · rfl
  · rfl

namespace Orderly

variable (orderly : catalog.Orderly)

include orderly

theorem length_plain (id : TypeId) :
    (catalog.baseChain (chainLimit + 1) (.plain id)).length < chainLimit := by
  cases found : catalog.find? id with
  | none =>
      rw [length_of_top]
      · decide
      · unfold base?
        simp only [DataType.plain, DataType.isArray, DataType.isNullable, found]
        rfl
  | some entry =>
      obtain ⟨listed, isId⟩ := find?_mem found
      have ends := orderly.ends entry listed
      unfold depth TypeEntry.type at ends
      rw [isId] at ends
      omega

theorem length_baseChain (type : DataType) :
    (catalog.baseChain (chainLimit + 1) type).length ≤ chainLimit := by
  cases above : catalog.base? type with
  | none =>
      rw [length_of_top above]
      decide
  | some base =>
      have longer := (catalog.baseChain_prefix (Nat.le_add_right chainLimit 1) base).length_le
      have ends := orderly.length_plain base.id
      rw [← base?_plain above] at ends
      rw [baseChain, above, List.length_cons]
      omega

theorem mem_baseChain {source middle type : DataType}
    (lower : middle ∈ catalog.baseChain chainLimit source)
    (upper : type ∈ catalog.baseChain chainLimit middle) :
    type ∈ catalog.baseChain chainLimit source := by
  rw [← baseChain_of_length (orderly.length_baseChain source) chainLimit]
  exact mem_baseChain_trans lower upper

theorem base?_interface {id parent : TypeId} (implements : catalog.Implements id parent) :
    catalog.base? (.plain parent) = none := by
  obtain ⟨_, entry, found, declared⟩ := implements.declared
  exact orderly.interfaces entry (find?_mem found).1 parent declared

theorem eq_object_of_reaches {target : DataType} (reached : catalog.reaches target .object = true) :
    target = .object := by
  have nothing : catalog.base? .object = none ∧ catalog.directInterfaces .object = [] := by
    unfold base? directInterfaces
    cases found : catalog.find? .object with
    | none => simp [DataType.object, DataType.isArray, DataType.isNullable, found]
    | some entry =>
        obtain ⟨listed, isId⟩ := find?_mem found
        obtain ⟨noBase, noInterfaces⟩ := orderly.root entry listed isId
        simp [DataType.object, DataType.isArray, DataType.isNullable, found, noBase, noInterfaces]
  obtain ⟨type, member, arrives⟩ := reaches_iff.mp reached
  rw [show chainLimit = 63 + 1 from rfl, baseChain, nothing.1, List.mem_singleton] at member
  subst member
  rcases arrives with same | ⟨_, implements⟩
  · exact same.symm
  · exact absurd implements (not_implements_of_none nothing.2 _)

theorem reaches_trans {source middle target : DataType} (plain : middle = .plain middle.id)
    (lower : catalog.reaches middle source = true) (upper : catalog.reaches target middle = true) :
    catalog.reaches target source = true := by
  rw [reaches_iff] at lower upper ⊢
  obtain ⟨first, isBase, leads⟩ := lower
  obtain ⟨second, isAbove, arrives⟩ := upper
  rcases leads with rfl | ⟨notArray, isInterface⟩
  · exact ⟨second, orderly.mem_baseChain isBase isAbove, arrives⟩
  · have isTop := orderly.base?_interface isInterface
    rw [← plain] at isTop
    have same : second = middle := by
      unfold chainLimit baseChain at isAbove
      rw [isTop] at isAbove
      exact List.mem_singleton.mp isAbove
    subst same
    refine ⟨first, isBase, .inr ⟨notArray, ?_⟩⟩
    rcases arrives with rfl | ⟨_, further⟩
    · exact isInterface
    · exact isInterface.trans further

end Orderly

end Catalog

end Formula
