import Formula.Proofs.Catalog.Interfaces

/-!
Bases by their number of links. The chain of bases lists them in that order as far as its limit,
and the depth counts them as far as the same limit, so that it tells a type from its bases only
where their own chains end before.
-/

namespace Formula.Catalog

def ancestor? (catalog : Catalog) : Nat → DataType → Option DataType
  | 0, type => some type
  | links + 1, type => (catalog.base? type).bind (catalog.ancestor? links)

def Extends (catalog : Catalog) (child parent : TypeId) : Prop :=
  ∃ entry, catalog.find? child = some entry ∧ entry.base = some parent

/-- The ancestor is a proper base of the type: one or more links above it. -/
def Descends (catalog : Catalog) : TypeId → TypeId → Prop :=
  Relation.TransGen catalog.Extends

variable {catalog : Catalog} {source type : DataType} {limit links : Nat}

theorem ancestor?_add (links more : Nat) (type : DataType) :
    catalog.ancestor? (links + more) type =
      (catalog.ancestor? links type).bind (catalog.ancestor? more) := by
  induction links generalizing type with
  | zero => rw [Nat.zero_add, ancestor?, Option.bind_some]
  | succ links ih =>
      rw [Nat.succ_add, ancestor?, ancestor?, Option.bind_assoc]
      exact Option.bind_congr fun base _ => ih base

theorem isSome_ancestor?_of_le {fewer : Nat} (links : Nat) (within : fewer ≤ links)
    (isSome : (catalog.ancestor? links type).isSome = true) :
    (catalog.ancestor? fewer type).isSome = true := by
  rw [← Nat.add_sub_cancel' within, ancestor?_add] at isSome
  exact Option.isSome_of_isSome_bind isSome

theorem base?_plain_iff {child : TypeId} {base : DataType} :
    catalog.base? (.plain child) = some base ↔
      ∃ parent, catalog.Extends child parent ∧ base = .plain parent := by
  have isBase : catalog.base? (.plain child) =
      ((catalog.find? child).bind TypeEntry.base).map .plain := rfl
  rw [isBase, Option.map_eq_some_iff]
  constructor
  · rintro ⟨parent, declared, rfl⟩
    exact ⟨parent, Option.bind_eq_some_iff.mp declared, rfl⟩
  · rintro ⟨parent, extends_, rfl⟩
    exact ⟨parent, Option.bind_eq_some_iff.mpr extends_, rfl⟩

theorem Descends.exists_links {child parent : TypeId} (descends : catalog.Descends child parent) :
    ∃ links, 0 < links ∧ catalog.ancestor? links (.plain child) = some (.plain parent) := by
  have one : ∀ {lower upper : TypeId}, catalog.Extends lower upper →
      catalog.ancestor? 1 (.plain lower) = some (.plain upper) := by
    intro lower upper extends_
    rw [ancestor?, base?_plain_iff.mpr ⟨upper, extends_, rfl⟩]
    rfl
  induction descends with
  | single extends_ => exact ⟨1, Nat.zero_lt_one, one extends_⟩
  | tail _ extends_ ih =>
      obtain ⟨links, positive, isAncestor⟩ := ih
      refine ⟨links + 1, Nat.succ_pos links, ?_⟩
      rw [ancestor?_add, isAncestor]
      exact one extends_

theorem ancestor?_plain {child : TypeId}
    (isAncestor : catalog.ancestor? links (.plain child) = some type) :
    type = .plain type.id := by
  induction links generalizing child with
  | zero =>
      cases isAncestor
      rfl
  | succ links ih =>
      rw [ancestor?, Option.bind_eq_some_iff] at isAncestor
      obtain ⟨base, isBase, further⟩ := isAncestor
      obtain ⟨parent, _, rfl⟩ := base?_plain_iff.mp isBase
      exact ih further

theorem getElem?_baseChain (limit : Nat) (type : DataType) (links : Nat) :
    (catalog.baseChain limit type)[links]? =
      if links < limit then catalog.ancestor? links type else none := by
  induction limit generalizing type links with
  | zero => rfl
  | succ limit ih =>
      unfold baseChain
      cases above : catalog.base? type with
      | none =>
          cases links with
          | zero => rfl
          | succ links =>
              rw [ancestor?, above]
              exact (ite_self none).symm
      | some base =>
          cases links with
          | zero => rfl
          | succ links =>
              simp only [List.getElem?_cons_succ, ih, ancestor?, above, Option.bind_some,
                Nat.succ_lt_succ_iff]

theorem mem_baseChain_iff :
    type ∈ catalog.baseChain limit source ↔
      ∃ links < limit, catalog.ancestor? links source = some type := by
  rw [List.mem_iff_getElem?]
  refine exists_congr fun links => ?_
  rw [getElem?_baseChain]
  by_cases within : links < limit
  · rw [if_pos within]
    exact (and_iff_right within).symm
  · rw [if_neg within]
    exact iff_of_false nofun fun bounded => within bounded.1

theorem lt_length_baseChain_iff :
    links < (catalog.baseChain limit type).length ↔
      links < limit ∧ (catalog.ancestor? links type).isSome = true := by
  have inRange := isSome_getElem? (catalog.baseChain limit type) links
  rw [getElem?_baseChain] at inRange
  rw [← inRange]
  by_cases within : links < limit
  · rw [if_pos within]
    exact (and_iff_right within).symm
  · rw [if_neg within]
    exact iff_of_false Bool.false_ne_true fun bounded => within bounded.1

theorem le_depth_iff :
    links ≤ catalog.depth type ↔
      links ≤ chainLimit ∧ (catalog.ancestor? links type).isSome = true := by
  have nonempty : 0 < (catalog.baseChain (chainLimit + 1) type).length :=
    lt_length_baseChain_iff.mpr ⟨Nat.succ_pos _, rfl⟩
  have counted : links ≤ catalog.depth type ↔
      links < (catalog.baseChain (chainLimit + 1) type).length := by
    unfold depth
    omega
  rw [counted, lt_length_baseChain_iff, Nat.lt_succ_iff]

theorem depth_le (type : DataType) : catalog.depth type ≤ chainLimit :=
  (le_depth_iff.mp (Nat.le_refl _)).1

theorem le_depth_of_isSome (ends : catalog.depth type < chainLimit)
    (isSome : (catalog.ancestor? links type).isSome = true) : links ≤ catalog.depth type := by
  refine Nat.le_of_not_lt fun beyond => ?_
  have next : catalog.depth type + 1 ≤ catalog.depth type :=
    le_depth_iff.mpr ⟨ends, isSome_ancestor?_of_le links beyond isSome⟩
  exact Nat.not_succ_le_self _ next

theorem depth_lt_iff (proper : 0 < links)
    (isAncestor : catalog.ancestor? links source = some type) :
    catalog.depth type < catalog.depth source ↔ catalog.depth type < chainLimit := by
  constructor
  · intro deeper
    exact Nat.lt_of_lt_of_le deeper (depth_le source)
  · intro ends
    obtain ⟨_, isTop⟩ := le_depth_iff.mp (Nat.le_refl (catalog.depth type))
    refine le_depth_iff.mpr ⟨ends, ?_⟩
    refine isSome_ancestor?_of_le (links + catalog.depth type) (by omega) ?_
    rw [ancestor?_add, isAncestor]
    exact isTop

end Formula.Catalog
