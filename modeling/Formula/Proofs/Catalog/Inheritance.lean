import Formula.Proofs.Catalog.Assignability
import Formula.Proofs.Typing.Lookup

/-!
What a type inherits, and from whom. The entries that a lookup goes through are bases of each
other, as far up as there are any, and no entry comes twice. A type can be used as the bases it
inherits from, and is deeper than they are, as far as a walk up the bases goes.
-/

namespace Formula.Catalog

/-- Members and methods know where they are declared. -/
structure Owned (catalog : Catalog) : Prop where
  members : ∀ entry ∈ catalog.entries, ∀ member ∈ entry.members, member.owner = entry.id
  methods : ∀ entry ∈ catalog.entries, ∀ method ∈ entry.methods, method.owner = entry.id

/-- A lookup on an instance of the type finds something that the owner declares. -/
inductive Provides (catalog : Catalog) (type : DataType) (owner : TypeId) : Prop
  | member {name member} (found : member ∈ catalog.members type name false)
      (declared : member.owner = owner)
  | method {name method} (found : method ∈ catalog.methods type name false)
      (declared : method.owner = owner)
  | indexer {indexer} (found : indexer ∈ catalog.indexers type) (declared : indexer.owner = owner)

variable {catalog : Catalog}

def Below (catalog : Catalog) (lower upper : TypeEntry) : Prop :=
  catalog.Descends lower.id upper.id ∧ lower.id ≠ upper.id

theorem extends_of_base {entry base : TypeEntry} (found : catalog.find? entry.id = some entry)
    (above : entry.base.bind catalog.find? = some base) : catalog.Extends entry.id base.id := by
  obtain ⟨id, isBase, isFound⟩ := Option.bind_eq_some_iff.mp above
  rw [(find?_mem isFound).2]
  exact ⟨entry, found, isBase⟩

theorem find?_base {entry base : TypeEntry} (above : entry.base.bind catalog.find? = some base) :
    catalog.find? base.id = some base := by
  obtain ⟨_, _, isFound⟩ := Option.bind_eq_some_iff.mp above
  exact find?_id isFound

/-- After the entry itself there come only entries above it that have not been seen. -/
theorem mem_entryBases {limit : Nat} {seen : List TypeId} {entry upper : TypeEntry}
    (found : catalog.find? entry.id = some entry)
    (member : upper ∈ catalog.entryBases limit seen entry) :
    upper = entry ∨ (catalog.Descends entry.id upper.id ∧ upper.id ∉ seen) := by
  induction limit generalizing seen entry with
  | zero => exact .inl (List.mem_singleton.mp member)
  | succ limit ih =>
      unfold entryBases at member
      cases above : entry.base.bind catalog.find? with
      | none =>
          simp only [above, List.mem_singleton] at member
          exact .inl member
      | some base =>
          have extends_ := extends_of_base found above
          simp only [above] at member
          split at member
          · exact .inl (List.mem_singleton.mp member)
          · rename_i isNew
            rcases List.mem_cons.mp member with same | further
            · exact .inl same
            · right
              rcases ih (find?_base above) further with rfl | ⟨descends, unseen⟩
              · exact ⟨.single extends_, isNew⟩
              · exact ⟨.head extends_ descends, fun isSeen =>
                  unseen (List.mem_cons_of_mem _ isSeen)⟩

theorem entryBases_pairwise {limit : Nat} {seen : List TypeId} {entry : TypeEntry}
    (found : catalog.find? entry.id = some entry) (isSeen : entry.id ∈ seen) :
    (catalog.entryBases limit seen entry).Pairwise catalog.Below := by
  induction limit generalizing seen entry with
  | zero => exact List.pairwise_singleton _ entry
  | succ limit ih =>
      unfold entryBases
      cases above : entry.base.bind catalog.find? with
      | none => exact List.pairwise_singleton _ entry
      | some base =>
          have extends_ := extends_of_base found above
          have known := find?_base above
          dsimp only
          split
          · exact List.pairwise_singleton _ entry
          · rename_i isNew
            refine List.pairwise_cons.mpr ⟨fun upper member => ?_,
              ih known (List.mem_cons_self ..)⟩
            rcases mem_entryBases known member with rfl | ⟨descends, unseen⟩
            · exact ⟨.single extends_, fun same => isNew (same ▸ isSeen)⟩
            · exact ⟨.head extends_ descends, fun same =>
                unseen (same ▸ List.mem_cons_of_mem _ isSeen)⟩

theorem declaringEntries_pairwise (type : DataType) (isStatic : Bool) :
    (catalog.declaringEntries type isStatic).Pairwise catalog.Below := by
  unfold declaringEntries
  cases found : catalog.entryFor? type with
  | none => exact .nil
  | some first =>
      dsimp only
      split
      · exact List.pairwise_singleton _ first
      · exact entryBases_pairwise (entryFor?_find? found) (List.mem_cons_self ..)

/-- Every base is on a lower level than what extends it. -/
def Falling (catalog : Catalog) (level : TypeId → Nat) : Prop :=
  ∀ child parent, catalog.Extends child parent → level parent < level child

theorem Acyclic.exists_falling (acyclic : catalog.Acyclic) : ∃ level, catalog.Falling level := by
  obtain ⟨level, descending⟩ := acyclic
  refine ⟨level, ?_⟩
  rintro child parent ⟨entry, found, isBase⟩
  obtain ⟨listed, rfl⟩ := find?_mem found
  exact descending entry listed parent (.inl isBase)

theorem Descends.level_lt {level : TypeId → Nat} (falling : catalog.Falling level)
    {lower upper : TypeId} (descends : catalog.Descends lower upper) :
    level upper < level lower := by
  induction descends with
  | single extends_ => exact falling _ _ extends_
  | tail _ extends_ ih => exact (falling _ _ extends_).trans ih

theorem Acyclic.not_descends (acyclic : catalog.Acyclic) (id : TypeId) :
    ¬catalog.Descends id id := by
  obtain ⟨level, falling⟩ := acyclic.exists_falling
  exact fun descends => Nat.lt_irrefl _ (descends.level_lt falling)

theorem mem_entryBases_self (limit : Nat) (seen : List TypeId) (entry : TypeEntry) :
    entry ∈ catalog.entryBases limit seen entry := by
  cases limit with
  | zero => exact List.mem_singleton_self entry
  | succ limit =>
      unfold entryBases
      split
      · exact List.mem_singleton_self entry
      · split
        · exact List.mem_singleton_self entry
        · exact List.mem_cons_self ..

/-- Where there are no circles, a walk does not stop below a registered base: it meets no entry
again that it has seen, and has seen fewer of them than there are. -/
theorem mem_entryBases_of_descends {level : TypeId → Nat} (falling : catalog.Falling level)
    {limit : Nat} {seen : List TypeId} {entry upper : TypeEntry}
    (found : catalog.find? entry.id = some entry) (isUpper : catalog.find? upper.id = some upper)
    (descends : catalog.Descends entry.id upper.id) (apart : seen.Nodup)
    (registered : seen ⊆ catalog.entries.map TypeEntry.id)
    (below : ∀ id ∈ seen, level entry.id ≤ level id) (within : catalog.size < limit + seen.length) :
    upper ∈ catalog.entryBases limit seen entry := by
  induction limit generalizing seen entry with
  | zero =>
      have few := (List.subperm_of_subset apart registered).length_le
      rw [List.length_map] at few
      rw [Nat.zero_add] at within
      exact absurd few (Nat.not_le_of_lt within)
  | succ limit ih =>
      obtain ⟨parent, extends_, further⟩ := Relation.TransGen.head'_iff.mp descends
      obtain ⟨own, isOwn, isBase⟩ := extends_
      cases found.symm.trans isOwn
      rw [Relation.reflTransGen_iff_eq_or_transGen] at further
      obtain ⟨base, isFound⟩ : ∃ base, catalog.find? parent = some base := by
        rcases further with rfl | more
        · exact ⟨upper, isUpper⟩
        · obtain ⟨_, ⟨base, isFound, _⟩, _⟩ := Relation.TransGen.head'_iff.mp more
          exact ⟨base, isFound⟩
      obtain ⟨listed, rfl⟩ := find?_mem isFound
      have lower : level base.id < level entry.id := falling _ _ ⟨entry, found, isBase⟩
      have isNew : base.id ∉ seen := fun isSeen => Nat.not_lt_of_le (below _ isSeen) lower
      unfold entryBases
      rw [isBase, Option.bind_some, isFound]
      dsimp only
      rw [if_neg isNew]
      right
      rcases further with same | more
      · rw [same] at isUpper
        cases isUpper.symm.trans isFound
        exact mem_entryBases_self ..
      · refine ih isFound more (List.nodup_cons.mpr ⟨isNew, apart⟩) ?_ ?_ ?_
        · exact List.cons_subset.mpr ⟨List.mem_map_of_mem listed, registered⟩
        · intro id member
          rcases List.mem_cons.mp member with rfl | isSeen
          · exact Nat.le_refl _
          · exact Nat.le_trans (Nat.le_of_lt lower) (below id isSeen)
        · rw [List.length_cons]
          omega

def OnChain (catalog : Catalog) (type : DataType) (entry : TypeEntry) : Prop :=
  catalog.find? entry.id = some entry ∧ ∃ first, catalog.entryFor? type = some first ∧
    (entry = first ∨ catalog.Descends first.id entry.id)

/-- Without circles, a lookup on an instance goes through all registered bases of the type. -/
theorem Falling.mem_declaringEntries_iff {level : TypeId → Nat} (falling : catalog.Falling level)
    {type : DataType} {entry : TypeEntry} :
    entry ∈ catalog.declaringEntries type false ↔ catalog.OnChain type entry := by
  unfold OnChain declaringEntries
  cases isFirst : catalog.entryFor? type with
  | none => exact iff_of_false List.not_mem_nil fun ⟨_, _, impossible, _⟩ => nomatch impossible
  | some first =>
      have found := entryFor?_find? isFirst
      simp only [Bool.false_eq_true, if_false]
      constructor
      · intro member
        exact ⟨entryBases_find? found member, first, rfl,
          (mem_entryBases found member).imp_right And.left⟩
      · rintro ⟨isEntry, other, same, upward⟩
        cases same
        rcases upward with rfl | descends
        · exact mem_entryBases_self ..
        · refine mem_entryBases_of_descends falling found isEntry descends
            (List.nodup_singleton _) ?_ ?_ ?_
          · exact List.cons_subset.mpr ⟨List.mem_map_of_mem (find?_mem found).1, List.nil_subset _⟩
          · exact fun id member => Nat.le_of_eq (List.mem_singleton.mp member ▸ rfl)
          · exact Nat.lt_succ_self _

theorem mem_declaringEntries_iff (acyclic : catalog.Acyclic) {type : DataType}
    {entry : TypeEntry} :
    entry ∈ catalog.declaringEntries type false ↔ catalog.OnChain type entry := by
  obtain ⟨level, falling⟩ := acyclic.exists_falling
  exact falling.mem_declaringEntries_iff

theorem exists_links_of_declaringEntries {type : DataType} (unmarked : type.isNullable = false)
    {entry : TypeEntry} (member : entry ∈ catalog.declaringEntries type false) :
    ∃ links, catalog.ancestor? links type = some (.plain entry.id) := by
  unfold declaringEntries at member
  cases found : catalog.entryFor? type with
  | none =>
      rw [found] at member
      cases member
  | some first =>
      simp only [found, Bool.false_eq_true, if_false] at member
      have upward : ∃ links,
          catalog.ancestor? links (.plain first.id) = some (.plain entry.id) := by
        rcases mem_entryBases (entryFor?_find? found) member with rfl | ⟨descends, _⟩
        · exact ⟨0, rfl⟩
        · obtain ⟨links, _, isAncestor⟩ := descends.exists_links
          exact ⟨links, isAncestor⟩
      by_cases isArray : type.isArray = true
      · -- An array has its members from the entry of all arrays, one link up.
        obtain ⟨links, isAncestor⟩ := upward
        unfold entryFor? at found
        rw [if_pos isArray] at found
        rw [(find?_mem found).2] at isAncestor
        refine ⟨links + 1, ?_⟩
        rw [ancestor?, base?, if_pos isArray]
        exact isAncestor
      · have isOwn : first.id = type.id := by
          unfold entryFor? at found
          rw [if_neg isArray, unmarked, if_neg Bool.false_ne_true] at found
          exact (find?_mem found).2
        rw [DataType.eq_plain (Bool.eq_false_iff.mpr isArray) unmarked, ← isOwn]
        exact upward

section Owners

variable {type : DataType} {name : String} {isStatic : Bool}

theorem mem_entries_of_declaringEntries {entry : TypeEntry}
    (declaring : entry ∈ catalog.declaringEntries type isStatic) : entry ∈ catalog.entries :=
  (find?_mem (declaringEntries_find? declaring)).1

theorem Owned.of_members (owned : catalog.Owned) {member : Member}
    (found : member ∈ catalog.members type name isStatic) :
    ∃ entry ∈ catalog.declaringEntries type isStatic, member.owner = entry.id := by
  obtain ⟨⟨_, entry, declaring, listed⟩, _⟩ := declaresMember_of_members found
  exact ⟨entry, declaring,
    owned.members entry (mem_entries_of_declaringEntries declaring) member listed⟩

theorem Owned.of_methods (owned : catalog.Owned) {method : Method}
    (found : method ∈ catalog.methods type name isStatic) :
    ∃ entry ∈ catalog.declaringEntries type isStatic, method.owner = entry.id := by
  obtain ⟨_, entry, declaring, listed⟩ := declaresMethod_of_methods found
  exact ⟨entry, declaring,
    owned.methods entry (mem_entries_of_declaringEntries declaring) method listed⟩

theorem Owned.of_indexers (owned : catalog.Owned) {indexer : Member}
    (found : indexer ∈ catalog.indexers type) :
    ∃ entry ∈ catalog.declaringEntries type false, indexer.owner = entry.id := by
  obtain ⟨_, entry, declaring, listed⟩ := declaresMember_of_indexers found
  exact ⟨entry, declaring,
    owned.members entry (mem_entries_of_declaringEntries declaring) indexer listed⟩

end Owners

theorem Provides.exists_links (owned : catalog.Owned) {type : DataType} {owner : TypeId}
    (unmarked : type.isNullable = false) (provides : catalog.Provides type owner) :
    ∃ links, catalog.ancestor? links type = some (.plain owner) := by
  obtain ⟨entry, declaring, isOwner⟩ :
      ∃ entry ∈ catalog.declaringEntries type false, owner = entry.id := by
    cases provides with
    | member found declared => exact declared ▸ owned.of_members found
    | method found declared => exact declared ▸ owned.of_methods found
    | indexer found declared => exact declared ▸ owned.of_indexers found
  rw [isOwner]
  exact exists_links_of_declaringEntries unmarked declaring

theorem isAssignable_owner_iff {type : DataType} {owner : TypeId} :
    catalog.isAssignable (.plain owner) type = true ↔
      owner = .object ∨ ∃ links < chainLimit, ∃ below,
        catalog.ancestor? links type = some below ∧ catalog.Arrives below (.plain owner) := by
  by_cases isObject : owner = .object
  · subst isObject
    exact iff_of_true (isAssignable_object type) (.inl rfl)
  · have notObject : (DataType.plain owner).isObject = false := by
      rw [DataType.isObject, beq_eq_false_iff_ne]
      exact fun same => isObject (congrArg DataType.id same)
    rw [isAssignable_plain_iff notObject rfl rfl, reaches_iff, or_iff_right isObject]
    have within : (∃ below ∈ catalog.baseChain chainLimit type,
        catalog.Arrives below (.plain owner)) ↔ ∃ links < chainLimit, ∃ below,
          catalog.ancestor? links type = some below ∧ catalog.Arrives below (.plain owner) := by
      constructor
      · rintro ⟨below, member, arrives⟩
        obtain ⟨links, bounded, isAncestor⟩ := mem_baseChain_iff.mp member
        exact ⟨links, bounded, below, isAncestor, arrives⟩
      · rintro ⟨links, bounded, below, isAncestor, arrives⟩
        exact ⟨below, mem_baseChain_iff.mpr ⟨links, bounded, isAncestor⟩, arrives⟩
    rw [within, or_iff_right_iff_imp]
    rintro rfl
    exact ⟨0, Nat.succ_pos _, _, rfl, .inl rfl⟩

/-- What a type inherits from is a base of it, any number of links up. The type can be used as
that base if it is the root, or if one of the first 64 types of the chain is it or lists it as an
interface; and its depth is greater than that of a proper base exactly if the latter is less than
64 links deep. Both hold where the chain of the type itself ends before. -/
theorem inherited_assignable (owned : catalog.Owned) {type : DataType} {owner : TypeId}
    (unmarked : type.isNullable = false) (provides : catalog.Provides type owner) :
    (∃ links, catalog.ancestor? links type = some (.plain owner)) ∧
      (catalog.isAssignable (.plain owner) type = true ↔
        owner = .object ∨ ∃ links < 64, ∃ below,
          catalog.ancestor? links type = some below ∧ catalog.Arrives below (.plain owner)) ∧
      (type ≠ .plain owner →
        (catalog.depth (.plain owner) < catalog.depth type ↔
          catalog.depth (.plain owner) < 64)) ∧
      (catalog.depth type < 64 →
        catalog.isAssignable (.plain owner) type = true ∧
          (type ≠ .plain owner → catalog.depth (.plain owner) < catalog.depth type)) := by
  obtain ⟨links, isAncestor⟩ := provides.exists_links owned unmarked
  have deeper : type ≠ .plain owner →
      (catalog.depth (.plain owner) < catalog.depth type ↔ catalog.depth (.plain owner) < 64) := by
    intro proper
    refine depth_lt_iff (Nat.pos_of_ne_zero ?_) isAncestor
    rintro rfl
    exact proper (Option.some.inj isAncestor)
  refine ⟨⟨links, isAncestor⟩, isAssignable_owner_iff, deeper, fun ends => ?_⟩
  have counted : ∀ {above : Nat}, (catalog.ancestor? above (.plain owner)).isSome = true →
      links + above ≤ catalog.depth type := by
    intro above isSome
    refine le_depth_of_isSome ends ?_
    rw [ancestor?_add, isAncestor]
    exact isSome
  have within : links < 64 := Nat.lt_of_le_of_lt (@counted 0 rfl) ends
  have ownerEnds := counted (le_depth_iff.mp (Nat.le_refl (catalog.depth (.plain owner)))).2
  refine ⟨isAssignable_owner_iff.mpr (.inr ⟨links, within, _, isAncestor, .inl rfl⟩),
    fun proper => (deeper proper).mpr (by omega)⟩

def ground : Member :=
  { Member.property "Name" .string (.constant .null) with owner := ⟨1⟩ }

def tower : Catalog :=
  ⟨(List.range 66).map fun level =>
    { id := ⟨.ofNat (level + 1)⟩, name := "Level", namespaceName := "App", kind := .classType,
      base := if level = 0 then none else some ⟨.ofNat level⟩,
      members := if level = 0 then [ground] else [] }⟩

/-- The last class of the tower finds the first one's member, but cannot be used as the first one,
and it counts as deep as its own base; two classes below it, both come out. -/
theorem inherited_assignable_tower :
    tower.isAssignable (.plain ⟨1⟩) (.plain ⟨66⟩) = false ∧
      tower.depth (.plain ⟨66⟩) = tower.depth (.plain ⟨65⟩) ∧
      (∃ links, tower.ancestor? links (.plain ⟨66⟩) = some (.plain ⟨1⟩)) ∧
      tower.isAssignable (.plain ⟨1⟩) (.plain ⟨64⟩) = true ∧
      tower.depth (.plain ⟨1⟩) < tower.depth (.plain ⟨64⟩) := by
  have owned : tower.Owned := by
    constructor
    · decide +kernel
    · decide +kernel
  have provides : ∀ type ∈ [DataType.plain ⟨66⟩, .plain ⟨64⟩], tower.Provides type ⟨1⟩ := by
    intro type member
    have found : tower.members type "Name" false = [ground] := by
      simp only [List.mem_cons, List.not_mem_nil, or_false] at member
      rcases member with rfl | rfl
      · rfl
      · rfl
    exact .member (found ▸ List.mem_singleton_self ground) rfl
  obtain ⟨links, _⟩ := @inherited_assignable tower owned (.plain ⟨66⟩) _ rfl (provides _ (by simp))
  obtain ⟨_, _, _, ends⟩ :=
    @inherited_assignable tower owned (.plain ⟨64⟩) _ rfl (provides _ (by simp))
  obtain ⟨assignable, deeper⟩ := ends (by decide +kernel)
  exact ⟨by decide +kernel, by decide +kernel, links, assignable, deeper (by decide)⟩

end Formula.Catalog
