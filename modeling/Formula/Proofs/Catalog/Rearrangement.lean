import Mathlib.Data.List.Pairwise
import Formula.Proofs.Typing.Lookup

/-!
Catalogs that hold the same types with the same members and methods, though not in the same order.
What a catalog says of types is the same for both, lookups find the same members and methods in
another order, and a conversion that a type declares is found in any order, as there is only one.
-/

namespace Formula

/-- The methods can stand side by side in one type. -/
def Method.Differs (one other : Method) : Prop :=
  ¬(one.name = other.name ∧ one.types = other.types ∧ one.result = other.result)

instance : Std.Symm Method.Differs where
  symm _ _ differs := fun ⟨name, types, result⟩ =>
    differs ⟨name.symm, types.symm, result.symm⟩

namespace TypeEntry

def bare (entry : TypeEntry) : TypeEntry :=
  { entry with members := [], methods := [] }

structure Rearranges (entry other : TypeEntry) : Prop where
  bare : entry.bare = other.bare
  members : entry.members.Perm other.members
  methods : entry.methods.Perm other.methods

/-- Members and methods know where they are declared, and no method is declared twice. -/
structure Declares (entry : TypeEntry) : Prop where
  members : ∀ member ∈ entry.members, member.owner = entry.id
  methods : ∀ method ∈ entry.methods, method.owner = entry.id
  apart : entry.methods.Pairwise Method.Differs

namespace Rearranges

variable {entry other : TypeEntry}

theorem id (same : entry.Rearranges other) : entry.id = other.id :=
  show entry.bare.id = other.bare.id from congrArg TypeEntry.id same.bare

theorem base (same : entry.Rearranges other) : entry.base = other.base :=
  show entry.bare.base = other.bare.base from congrArg TypeEntry.base same.bare

end Rearranges

end TypeEntry

section Lists

variable {α β : Type}

theorem rel_cases {related : α → β → Prop} {found : Option α} {other : Option β}
    (rel : Option.Rel related found other) :
    (found = none ∧ other = none) ∨
      ∃ item another, found = some item ∧ other = some another ∧ related item another := by
  cases rel with
  | none => exact .inl ⟨rfl, rfl⟩
  | @some item another relates => exact .inr ⟨item, another, rfl, rfl, relates⟩

theorem find?_of_perm {items others : List α} (perm : items.Perm others) {test : α → Bool}
    (only : ∀ one ∈ items, ∀ other ∈ items, test one = true → test other = true → one = other) :
    items.find? test = others.find? test := by
  cases found : items.find? test with
  | none =>
      symm
      rw [List.find?_eq_none] at found ⊢
      exact fun item member => found item (perm.mem_iff.mpr member)
  | some one =>
      have isOne := List.mem_of_find?_eq_some found
      have passes := List.find?_some found
      cases foundOther : others.find? test with
      | none =>
          rw [List.find?_eq_none] at foundOther
          exact absurd passes (foundOther one (perm.mem_iff.mp isOne))
      | some other =>
          have isOther := perm.mem_iff.mpr (List.mem_of_find?_eq_some foundOther)
          rw [only one isOne other isOther passes (List.find?_some foundOther)]

def addUnless (hides : α → α → Bool) (found : List α) (item : α) : List α :=
  if found.any (hides · item) then found else found ++ [item]

variable {hides : α → α → Bool}

/-- Items that do not hide each other are hidden by what was found before them only. -/
theorem foldl_addUnless_block {block found : List α}
    (apart : ∀ one ∈ block, ∀ other ∈ block, hides one other = false) :
    block.foldl (addUnless hides) found =
      found ++ block.filter fun item => !found.any (hides · item) := by
  induction block generalizing found with
  | nil => rw [List.foldl_nil, List.filter_nil, List.append_nil]
  | cons first rest ih =>
      have restApart : ∀ one ∈ rest, ∀ other ∈ rest, hides one other = false :=
        fun one isOne other isOther =>
          apart one (List.mem_cons_of_mem _ isOne) other (List.mem_cons_of_mem _ isOther)
      rw [List.foldl_cons, ih restApart]
      unfold addUnless
      by_cases hidden : found.any (hides · first) = true
      · rw [if_pos hidden, List.filter_cons_of_neg]
        rw [hidden]
        exact Bool.false_ne_true
      · have visible := Bool.eq_false_iff.mpr hidden
        rw [if_neg hidden, List.filter_cons_of_pos (by rw [visible]; rfl), List.append_assoc,
          List.singleton_append]
        congr 2
        refine List.filter_congr fun item member => ?_
        have aside := apart first (List.mem_cons_self ..) item (List.mem_cons_of_mem _ member)
        rw [List.any_append, List.any_cons, List.any_nil, aside, Bool.or_false, Bool.or_false]

/-- Block by block, the order within the blocks is only the order of what is found. -/
theorem foldl_addUnless_perm {blocks others : List (List α)}
    (same : List.Forall₂ List.Perm blocks others)
    (apart : ∀ block ∈ blocks, ∀ one ∈ block, ∀ other ∈ block, hides one other = false)
    {found other : List α} (start : found.Perm other) :
    (blocks.flatten.foldl (addUnless hides) found).Perm
      (others.flatten.foldl (addUnless hides) other) := by
  induction same generalizing found other with
  | nil => exact start
  | @cons block another blocks others perm _ ih =>
      have here := apart block (List.mem_cons_self ..)
      have there : ∀ one ∈ another, ∀ other ∈ another, hides one other = false :=
        fun one isOne other isOther =>
          here one (perm.mem_iff.mpr isOne) other (perm.mem_iff.mpr isOther)
      rw [List.flatten_cons, List.flatten_cons, List.foldl_append, List.foldl_append,
        foldl_addUnless_block here, foldl_addUnless_block there]
      refine ih (fun block member => apart block (List.mem_cons_of_mem _ member)) ?_
      have sameTest : (fun item => !found.any (hides · item)) =
          fun item => !other.any (hides · item) := by
        funext item
        rw [start.any_eq]
      rw [sameTest]
      exact start.append (perm.filter _)

end Lists

namespace Catalog

theorem directInterfaces_eq {catalog : Catalog} {id : TypeId} :
    catalog.directInterfaces id = (catalog.find? id).elim [] TypeEntry.interfaces := by
  unfold directInterfaces
  cases catalog.find? id with
  | none | some _ => rfl

theorem nameBy_eq {catalog : Catalog} {nameOf : TypeEntry → String} {type : DataType} :
    catalog.nameBy nameOf type =
      (catalog.find? type.id).elim type.id.toText nameOf ++ shapeMarks type := by
  unfold nameBy
  cases catalog.find? type.id with
  | none | some _ => rfl

/-- The same types, each with the same members and methods in any order. -/
structure Rearranges (first second : Catalog) : Prop where
  size : first.size = second.size
  entries : ∀ id, Option.Rel TypeEntry.Rearranges (first.find? id) (second.find? id)
  declared : ∀ id entry, first.find? id = some entry → entry.Declares

namespace Rearranges

variable {first second : Catalog} (same : first.Rearranges second)

include same

theorem read {β : Type} (reading : Option TypeEntry → β)
    (plain : ∀ entry : TypeEntry, reading (some entry) = reading (some entry.bare))
    (id : TypeId) : reading (first.find? id) = reading (second.find? id) := by
  rcases rel_cases (same.entries id) with ⟨found, other⟩ | ⟨entry, another, found, other, rearranges⟩
  · rw [found, other]
  · rw [found, other, plain, rearranges.bare, ← plain]

theorem contains : first.contains = second.contains := by
  funext id
  exact same.read Option.isSome (fun _ => rfl) id

theorem isValueType : first.isValueType = second.isValueType := by
  funext type
  unfold Catalog.isValueType
  rw [same.read (Option.any TypeEntry.isValueType) (fun _ => rfl)]

theorem isReferenceType : first.isReferenceType = second.isReferenceType := by
  funext type
  unfold Catalog.isReferenceType
  rw [same.isValueType]

theorem acceptsNull : first.acceptsNull = second.acceptsNull := by
  funext type
  unfold Catalog.acceptsNull
  rw [same.isReferenceType]

theorem underlying? : first.underlying? = second.underlying? := by
  funext type
  unfold Catalog.underlying?
  rw [same.read (Option.bind · TypeEntry.underlying?) (fun _ => rfl)]

theorem isEnumeration : first.isEnumeration = second.isEnumeration := by
  funext type
  unfold Catalog.isEnumeration
  rw [same.underlying?]

theorem isDelegate : first.isDelegate = second.isDelegate := by
  funext type
  unfold Catalog.isDelegate
  rw [same.read (Option.any fun entry => decide (entry.kind = .delegateType)) (fun _ => rfl)]

theorem isInterface : first.isInterface = second.isInterface := by
  funext type
  unfold Catalog.isInterface
  rw [same.read (Option.any fun entry => decide (entry.kind = .interfaceType)) (fun _ => rfl)]

theorem base? : first.base? = second.base? := by
  funext type
  unfold Catalog.base?
  rw [same.read (Option.bind · TypeEntry.base) (fun _ => rfl)]

theorem baseChain : first.baseChain = second.baseChain := by
  funext limit
  induction limit with
  | zero => rfl
  | succ limit ih =>
      funext type
      unfold Catalog.baseChain
      rw [same.base?, ih]

theorem depth : first.depth = second.depth := by
  funext type
  unfold Catalog.depth
  rw [same.baseChain]

theorem directInterfaces : first.directInterfaces = second.directInterfaces := by
  funext id
  rw [Catalog.directInterfaces_eq, Catalog.directInterfaces_eq]
  exact same.read (Option.elim · [] TypeEntry.interfaces) (fun _ => rfl) id

theorem implements : first.implements = second.implements := by
  funext interface depth
  induction depth with
  | zero => rfl
  | succ depth ih =>
      funext id met
      unfold Catalog.implements
      rw [same.directInterfaces, ih]

theorem reaches : first.reaches = second.reaches := by
  funext target source
  unfold Catalog.reaches Catalog.arrives Catalog.searchDepth
  rw [same.baseChain, same.implements, same.size]

theorem isAssignableAt : first.isAssignableAt = second.isAssignableAt := by
  funext rank
  induction rank with
  | zero =>
      funext target source
      unfold Catalog.isAssignableAt
      rw [same.reaches]
  | succ rank ih =>
      funext target source
      unfold Catalog.isAssignableAt
      rw [same.reaches, same.isReferenceType]
      cases source.element? with
      | none => rfl
      | some sourceElement =>
          cases target.element? with
          | none => rfl
          | some targetElement =>
              dsimp only
              rw [ih]

theorem isAssignable : first.isAssignable = second.isAssignable := by
  funext target source
  unfold Catalog.isAssignable
  rw [same.isAssignableAt]

theorem nameBy {nameOf : TypeEntry → String}
    (plain : ∀ entry : TypeEntry, nameOf entry = nameOf entry.bare) :
    first.nameBy nameOf = second.nameBy nameOf := by
  funext type
  rw [Catalog.nameBy_eq, Catalog.nameBy_eq,
    same.read (Option.elim · type.id.toText nameOf) plain]

theorem shortName : first.shortName = second.shortName := by
  funext type
  unfold Catalog.shortName
  rw [same.nameBy fun _ => rfl]

theorem qualifiedName : first.qualifiedName = second.qualifiedName := by
  funext type
  unfold Catalog.qualifiedName
  rw [same.nameBy fun _ => rfl]

theorem methodLine : first.methodLine = second.methodLine := by
  funext method
  unfold Catalog.methodLine Catalog.declaredIn Catalog.parameterNames
  rw [same.shortName, same.qualifiedName]

theorem memberLine : first.memberLine = second.memberLine := by
  funext member
  unfold Catalog.memberLine Catalog.declaredIn Catalog.parameterNames
  rw [same.shortName, same.qualifiedName]

theorem conversionOn? : first.conversionOn? = second.conversionOn? := by
  funext owner name source target
  unfold Catalog.conversionOn?
  split
  · rfl
  · rcases rel_cases (same.entries owner.id) with
      ⟨found, other⟩ | ⟨entry, another, found, other, rearranges⟩
    · rw [found, other]
    · rw [found, other, Option.bind_some, Option.bind_some]
      refine find?_of_perm rearranges.methods fun one isOne two isTwo passesOne passesTwo => ?_
      simp only [Bool.and_eq_true, beq_iff_eq] at passesOne passesTwo
      by_contra different
      refine (same.declared owner.id entry found).apart.forall isOne isTwo different ⟨?_, ?_, ?_⟩
      · rw [passesOne.1.1.2, passesTwo.1.1.2]
      · rw [passesOne.2, passesTwo.2]
      · rw [passesOne.1.2, passesTwo.1.2]

theorem implicitOperator? : first.implicitOperator? = second.implicitOperator? := by
  funext source target
  unfold Catalog.implicitOperator?
  rw [same.conversionOn?]

theorem castOperator? : first.castOperator? = second.castOperator? := by
  funext source target
  unfold Catalog.castOperator?
  rw [same.conversionOn?]

theorem implicitConversion? : first.implicitConversion? = second.implicitConversion? := by
  funext source target
  unfold Catalog.implicitConversion?
  rw [same.isReferenceType, same.isAssignable, same.implicitOperator?, same.isValueType]

theorem explicitConversion? : first.explicitConversion? = second.explicitConversion? := by
  funext source target
  unfold Catalog.explicitConversion? Catalog.isNumberLike
  rw [same.implicitConversion?, same.isEnumeration, same.isAssignable, same.isInterface,
    same.isReferenceType, same.castOperator?]

theorem entryFor? (type : DataType) :
    Option.Rel TypeEntry.Rearranges (first.entryFor? type) (second.entryFor? type) := by
  unfold Catalog.entryFor?
  split
  · exact same.entries .array
  · split
    · exact same.entries .nullable
    · exact same.entries type.id

theorem entryFor?_id (type : DataType) :
    (first.entryFor? type).map TypeEntry.id = (second.entryFor? type).map TypeEntry.id := by
  rcases rel_cases (same.entryFor? type) with
    ⟨found, other⟩ | ⟨entry, another, found, other, rearranges⟩
  · rw [found, other]
  · rw [found, other]
    exact congrArg some rearranges.id

theorem entryBases (limit : Nat) (seen : List TypeId) {entry other : TypeEntry}
    (rearranges : entry.Rearranges other) :
    List.Forall₂ TypeEntry.Rearranges (first.entryBases limit seen entry)
      (second.entryBases limit seen other) := by
  induction limit generalizing seen entry other with
  | zero => exact .cons rearranges .nil
  | succ limit ih =>
      have alone := List.Forall₂.cons rearranges List.Forall₂.nil
      unfold Catalog.entryBases
      rw [← rearranges.base]
      cases entry.base with
      | none => exact alone
      | some id =>
          rw [Option.bind_some, Option.bind_some]
          rcases rel_cases (same.entries id) with
            ⟨found, another⟩ | ⟨base, above, found, another, sameBase⟩
          · rw [found, another]
            exact alone
          · rw [found, another]
            simp only [← sameBase.id]
            split
            · exact alone
            · exact .cons rearranges (ih _ sameBase)

theorem declaringEntries (type : DataType) (isStatic : Bool) :
    List.Forall₂ TypeEntry.Rearranges (first.declaringEntries type isStatic)
      (second.declaringEntries type isStatic) := by
  unfold Catalog.declaringEntries
  rcases rel_cases (same.entryFor? type) with
    ⟨found, other⟩ | ⟨entry, another, found, other, rearranges⟩
  · rw [found, other]
    exact .nil
  · rw [found, other, same.size]
    cases isStatic with
    | true => exact .cons rearranges .nil
    | false =>
        simp only [Bool.false_eq_true, if_false, ← rearranges.id]
        exact same.entryBases _ _ rearranges

theorem declares {type : DataType} {isStatic : Bool} {entry : TypeEntry}
    (declaring : entry ∈ first.declaringEntries type isStatic) : entry.Declares :=
  same.declared entry.id entry (declaringEntries_find? declaring)

theorem declared_perm {β : Type} {listed : TypeEntry → List β}
    (perm : ∀ entry other : TypeEntry, entry.Rearranges other →
      (listed entry).Perm (listed other)) (type : DataType) (isStatic : Bool) (test : β → Bool) :
    List.Forall₂ List.Perm
      ((first.declaringEntries type isStatic).map fun entry => (listed entry).filter test)
      ((second.declaringEntries type isStatic).map fun entry => (listed entry).filter test) := by
  rw [List.forall₂_map_left_iff, List.forall₂_map_right_iff]
  exact (same.declaringEntries type isStatic).imp fun entry other rearranges =>
    (perm entry other rearranges).filter test

theorem members (type : DataType) (name : String) (isStatic : Bool) :
    (first.members type name isStatic).Perm (second.members type name isStatic) := by
  unfold Catalog.members
  rw [List.filter_flatMap, List.filter_flatMap, List.flatMap_def, List.flatMap_def]
  refine @foldl_addUnless_perm _ (fun earlier member =>
    earlier.name == member.name && earlier.owner != member.owner) _ _
    (same.declared_perm (fun _ _ rearranges => rearranges.members) _ _ _) ?_ _ _ .nil
  intro block isBlock one isOne other isOther
  obtain ⟨entry, declaring, rfl⟩ := List.mem_map.mp isBlock
  have owner := (same.declares declaring).members
  rw [owner one (List.mem_filter.mp isOne).1, owner other (List.mem_filter.mp isOther).1,
    bne_self_eq_false, Bool.and_false]

theorem methods (type : DataType) (name : String) (isStatic : Bool) :
    (first.methods type name isStatic).Perm (second.methods type name isStatic) := by
  unfold Catalog.methods
  rw [List.filter_flatMap, List.filter_flatMap, List.flatMap_def, List.flatMap_def]
  refine @foldl_addUnless_perm _ (fun earlier method =>
    earlier.owner != method.owner && earlier.name == method.name &&
      earlier.types == method.types) _ _
    (same.declared_perm (fun _ _ rearranges => rearranges.methods) _ _ _) ?_ _ _ .nil
  intro block isBlock one isOne other isOther
  obtain ⟨entry, declaring, rfl⟩ := List.mem_map.mp isBlock
  have owner := (same.declares declaring).methods
  rw [owner one (List.mem_filter.mp isOne).1, owner other (List.mem_filter.mp isOther).1,
    bne_self_eq_false, Bool.false_and, Bool.false_and]

theorem indexers (type : DataType) : (first.indexers type).Perm (second.indexers type) := by
  unfold Catalog.indexers
  rw [List.filter_flatMap, List.filter_flatMap, List.flatMap_def, List.flatMap_def]
  exact List.Perm.flatten_congr
    (same.declared_perm (fun _ _ rearranges => rearranges.members) _ _ _)

end Rearranges

end Catalog

end Formula
