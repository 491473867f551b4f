import Formula.Proofs.Catalog.Inheritance
import Formula.Proofs.Catalog.Rearrangement

/-!
Hiding along the bases. Of all that the entries of a lookup declare, it finds what no entry
further down declares under the same key: the exact name of a member, the exact name and the
parameter types of a method.
-/

namespace Formula

section Keys

variable {α κ : Type} [DecidableEq κ] {key : α → κ} {listed : TypeEntry → List α}

/-- What the entries list, from the bottom up, without what has a key that was met further down. -/
def unhidden (key : α → κ) (listed : TypeEntry → List α) : List κ → List TypeEntry → List α
  | _, [] => []
  | met, entry :: above =>
      ((listed entry).filter fun item => key item ∉ met) ++
        unhidden key listed (met ++ (listed entry).map key) above

theorem unhidden_append (met : List κ) (below above : List TypeEntry) :
    unhidden key listed met (below ++ above) =
      unhidden key listed met below ++
        unhidden key listed (met ++ (below.flatMap listed).map key) above := by
  induction below generalizing met with
  | nil =>
      rw [List.flatMap_nil, List.map_nil, List.append_nil]
      rfl
  | cons entry below ih =>
      rw [List.cons_append, unhidden, unhidden, ih, List.flatMap_cons, List.map_append,
        List.append_assoc, List.append_assoc]

theorem unhidden_sublist (met : List κ) (entries : List TypeEntry) :
    (unhidden key listed met entries).Sublist (entries.flatMap listed) := by
  induction entries generalizing met with
  | nil => exact .slnil
  | cons entry above ih =>
      rw [unhidden, List.flatMap_cons]
      exact List.filter_sublist.append (ih _)

theorem unhidden_eq_nil_iff {met : List κ} {entries : List TypeEntry} :
    unhidden key listed met entries = [] ↔
      ∀ entry ∈ entries, ∀ item ∈ listed entry, key item ∈ met := by
  induction entries generalizing met with
  | nil => exact iff_of_true rfl fun _ member => absurd member List.not_mem_nil
  | cons entry above ih =>
      rw [unhidden, List.append_eq_nil_iff, ih, List.forall_mem_cons, List.filter_eq_nil_iff]
      have here : (∀ item ∈ listed entry, ¬decide (key item ∉ met) = true) ↔
          ∀ item ∈ listed entry, key item ∈ met := by
        refine forall₂_congr fun item _ => ?_
        rw [decide_eq_true_iff, Decidable.not_not]
      rw [here]
      refine and_congr_right fun known => forall₂_congr fun upper _ =>
        forall₂_congr fun item _ => ?_
      rw [List.mem_append, or_iff_left_of_imp]
      intro below
      obtain ⟨other, member, same⟩ := List.mem_map.mp below
      exact same ▸ known other member

theorem unhidden_skip {met : List κ} {below : List TypeEntry} (above : List TypeEntry)
    (silent : ∀ entry ∈ below, listed entry = []) :
    unhidden key listed met (below ++ above) = unhidden key listed met above := by
  have nothing : below.flatMap listed = [] := List.flatMap_eq_nil_iff.mpr silent
  have missed : unhidden key listed met below = [] := by
    rw [unhidden_eq_nil_iff]
    intro entry member item isListed
    rw [silent entry member] at isListed
    cases isListed
  rw [unhidden_append, missed, nothing, List.map_nil, List.append_nil, List.nil_append]

theorem unhidden_cons (entry : TypeEntry) (above : List TypeEntry) :
    unhidden key listed [] (entry :: above) =
      listed entry ++ unhidden key listed ((listed entry).map key) above := by
  rw [unhidden, List.nil_append,
    List.filter_eq_self.mpr fun item _ => decide_eq_true List.not_mem_nil]

/-- In place of an item that is hidden there is one of its key from further down. -/
theorem exists_unhidden {met : List κ} {entries : List TypeEntry} {entry : TypeEntry} {item : α}
    (member : entry ∈ entries) (isListed : item ∈ listed entry) (isNew : key item ∉ met) :
    ∃ lower other, other ∈ unhidden key listed met entries ∧ other ∈ listed lower ∧
      key other = key item ∧ ((lower = entry ∧ other = item) ∨ [lower, entry].Sublist entries) := by
  induction entries generalizing met with
  | nil => cases member
  | cons first above ih =>
      rw [unhidden]
      have shown : ∀ other ∈ listed first, key other = key item →
          other ∈ (listed first).filter fun item => key item ∉ met := by
        intro other isOther same
        exact List.mem_filter.mpr ⟨isOther, decide_eq_true (same ▸ isNew)⟩
      rcases List.mem_cons.mp member with rfl | later
      · exact ⟨entry, item, List.mem_append_left _ (shown item isListed rfl), isListed, rfl,
          .inl ⟨rfl, rfl⟩⟩
      · by_cases metHere : key item ∈ (listed first).map key
        · obtain ⟨other, isOther, same⟩ := List.mem_map.mp metHere
          exact ⟨first, other, List.mem_append_left _ (shown other isOther same), isOther, same,
            .inr (List.cons_sublist_cons.mpr (List.singleton_sublist.mpr later))⟩
        · obtain ⟨lower, other, isFound, isOther, same, place⟩ :=
            ih later (fun known => (List.mem_append.mp known).elim isNew metHere)
          exact ⟨lower, other, List.mem_append_right _ isFound, isOther, same,
            place.imp_right (List.Sublist.cons first)⟩

theorem key_not_mem_of_unhidden {met : List κ} {entries : List TypeEntry} {item : α}
    (found : item ∈ unhidden key listed met entries) : key item ∉ met := by
  induction entries generalizing met with
  | nil => cases found
  | cons entry above ih =>
      rw [unhidden] at found
      rcases List.mem_append.mp found with here | later
      · exact of_decide_eq_true (List.mem_filter.mp here).2
      · exact fun known => ih later (List.mem_append_left _ known)

theorem owner_eq_of_unhidden {owner : α → TypeId} {met : List κ} {entries : List TypeEntry}
    (owned : ∀ entry ∈ entries, ∀ item ∈ listed entry, owner item = entry.id) {one other : α}
    (isOne : one ∈ unhidden key listed met entries)
    (isOther : other ∈ unhidden key listed met entries) (same : key one = key other) :
    owner one = owner other := by
  induction entries generalizing met with
  | nil => cases isOne
  | cons entry above ih =>
      obtain ⟨ownHere, ownAbove⟩ := List.forall_mem_cons.mp owned
      have apart : ∀ {here later : α},
          here ∈ (listed entry).filter (fun item => key item ∉ met) →
          later ∈ unhidden key listed (met ++ (listed entry).map key) above →
          key here ≠ key later := by
        intro here later isHere isLater same
        refine key_not_mem_of_unhidden isLater (List.mem_append_right _ ?_)
        exact same ▸ List.mem_map_of_mem (List.mem_filter.mp isHere).1
      rw [unhidden] at isOne isOther
      rcases List.mem_append.mp isOne with oneHere | oneLater <;>
        rcases List.mem_append.mp isOther with otherHere | otherLater
      · rw [ownHere one (List.mem_filter.mp oneHere).1,
          ownHere other (List.mem_filter.mp otherHere).1]
      · exact absurd same (apart oneHere otherLater)
      · exact absurd same.symm (apart otherHere oneLater)
      · exact ih ownAbove oneLater otherLater

/-- What an entry lists under a key that nothing further down has is found, item by item. -/
theorem filter_unhidden {owner : α → TypeId} {entries : List TypeEntry} {entry : TypeEntry}
    {one : κ} (owned : ∀ entry ∈ entries, ∀ item ∈ listed entry, owner item = entry.id)
    (apart : entries.Pairwise fun lower upper => lower.id ≠ upper.id) (member : entry ∈ entries)
    (isNew : ∀ lower, [lower, entry].Sublist entries → ∀ item ∈ listed lower, key item ≠ one) :
    ((unhidden key listed [] entries).filter fun item =>
        decide (owner item = entry.id ∧ key item = one)) =
      (listed entry).filter fun item => decide (key item = one) := by
  obtain ⟨below, above, rfl⟩ := List.append_of_mem member
  obtain ⟨_, restApart, across⟩ := List.pairwise_append.mp apart
  have foreign : ∀ {met : List κ} {entries : List TypeEntry},
      (∀ other ∈ entries, ∀ item ∈ listed other, owner item = other.id) →
      (∀ other ∈ entries, other.id ≠ entry.id) →
      ((unhidden key listed met entries).filter fun item =>
        decide (owner item = entry.id ∧ key item = one)) = [] := by
    intro met entries owned others
    rw [List.filter_eq_nil_iff]
    intro item found
    obtain ⟨other, isOther, isListed⟩ :=
      List.mem_flatMap.mp ((unhidden_sublist met entries).subset found)
    rw [decide_eq_true_iff, owned other isOther item isListed]
    exact fun same => others other isOther same.1
  have first : ((unhidden key listed [] below).filter fun item =>
      decide (owner item = entry.id ∧ key item = one)) = [] :=
    foreign (fun other isBelow => owned other (List.mem_append_left _ isBelow))
      fun other isBelow => across other isBelow entry (List.mem_cons_self ..)
  rw [unhidden_append, List.filter_append, first, List.nil_append, unhidden, List.filter_append,
    foreign (fun other isAbove =>
        owned other (List.mem_append_right _ (List.mem_cons_of_mem _ isAbove)))
      fun other isAbove => ((List.pairwise_cons.mp restApart).1 other isAbove).symm,
    List.append_nil, List.filter_filter]
  refine List.filter_congr fun item isListed => ?_
  rw [owned entry member item isListed, ← Bool.decide_and]
  refine decide_eq_decide.mpr ⟨fun holds => holds.1.2, fun same => ⟨⟨rfl, same⟩, fun met => ?_⟩⟩
  obtain ⟨other, isBelow, sameKey⟩ := List.mem_map.mp met
  obtain ⟨lower, isLower, isOther⟩ := List.mem_flatMap.mp isBelow
  have order : [lower, entry].Sublist (below ++ entry :: above) :=
    (List.singleton_sublist.mpr isLower).append
      (List.singleton_sublist.mpr (List.mem_cons_self ..))
  exact isNew lower order other isOther (sameKey.trans same)

/-- Adding items one by one, unless another type has listed their key before, leaves the unhidden
ones. -/
theorem foldl_addUnless_eq {owner : α → TypeId} {hides : α → α → Bool}
    (hides_iff : ∀ earlier item, hides earlier item = true ↔
      owner earlier ≠ owner item ∧ key earlier = key item)
    {entries : List TypeEntry}
    (owned : ∀ entry ∈ entries, ∀ item ∈ listed entry, owner item = entry.id)
    (apart : entries.Pairwise fun lower upper => lower.id ≠ upper.id) {met : List κ}
    {found : List α} (foreign : ∀ entry ∈ entries, ∀ item ∈ found, owner item ≠ entry.id)
    (known : ∀ one, one ∈ met ↔ one ∈ found.map key) :
    (entries.flatMap listed).foldl (addUnless hides) found =
      found ++ unhidden key listed met entries := by
  induction entries generalizing met found with
  | nil => exact (List.append_nil found).symm
  | cons entry above ih =>
      obtain ⟨ownHere, ownAbove⟩ := List.forall_mem_cons.mp owned
      obtain ⟨foreignHere, foreignAbove⟩ := List.forall_mem_cons.mp foreign
      obtain ⟨others, apart⟩ := List.pairwise_cons.mp apart
      have aside : ∀ one ∈ listed entry, ∀ other ∈ listed entry, hides one other = false := by
        intro one isOne other isOther
        rw [Bool.eq_false_iff, Ne, hides_iff, ownHere one isOne, ownHere other isOther]
        exact fun differs => differs.1 rfl
      have hidden_iff : ∀ item ∈ listed entry,
          (!found.any (hides · item)) = decide (key item ∉ met) := by
        intro item member
        have hidden : found.any (hides · item) = decide (key item ∈ met) := by
          rw [Bool.eq_iff_iff, List.any_eq_true, decide_eq_true_iff, known, List.mem_map]
          refine exists_congr fun earlier => and_congr_right fun isEarlier => ?_
          rw [hides_iff, ownHere item member]
          exact and_iff_right (foreignHere earlier isEarlier)
        rw [hidden, decide_not]
      rw [List.flatMap_cons, List.foldl_append, foldl_addUnless_block aside,
        List.filter_congr hidden_iff, unhidden, ← List.append_assoc]
      refine ih ownAbove apart ?_ ?_
      · intro upper isUpper item member
        rcases List.mem_append.mp member with before | here
        · exact foreignAbove upper isUpper item before
        · rw [ownHere item (List.mem_filter.mp here).1]
          exact others upper isUpper
      · intro one
        rw [List.mem_append, List.map_append, List.mem_append, ← known]
        constructor
        · rintro (before | here)
          · exact .inl before
          · by_cases before : one ∈ met
            · exact .inl before
            · obtain ⟨item, member, rfl⟩ := List.mem_map.mp here
              exact .inr (List.mem_map_of_mem
                (List.mem_filter.mpr ⟨member, decide_eq_true before⟩))
        · rintro (before | here)
          · exact .inl before
          · exact .inr (List.filter_sublist.map key |>.subset here)

end Keys

def TypeEntry.membersNamed (entry : TypeEntry) (name : String) (isStatic : Bool) : List Member :=
  entry.members.filter fun member =>
    member.isStatic == isStatic && !member.isIndexer && member.isNamed name

def TypeEntry.methodsNamed (entry : TypeEntry) (name : String) (isStatic : Bool) : List Method :=
  entry.methods.filter fun method => method.isStatic == isStatic && method.isNamed name

/-- What a method has in common with one that it overrides. -/
def Method.overrideKey (method : Method) : String × List DataType :=
  (method.name, method.types)

namespace Catalog

variable {catalog : Catalog}

theorem declaringEntries_apart (type : DataType) (isStatic : Bool) :
    (catalog.declaringEntries type isStatic).Pairwise fun lower upper => lower.id ≠ upper.id :=
  (declaringEntries_pairwise type isStatic).imp And.right

theorem members_eq_unhidden (owned : catalog.Owned) (type : DataType) (name : String)
    (isStatic : Bool) :
    catalog.members type name isStatic =
      unhidden Member.name (TypeEntry.membersNamed · name isStatic) []
        (catalog.declaringEntries type isStatic) := by
  unfold members
  rw [List.filter_flatMap]
  refine (@foldl_addUnless_eq _ _ _ Member.name _ Member.owner
    (fun earlier member => earlier.name == member.name && earlier.owner != member.owner) ?_ _ ?_
    (declaringEntries_apart type isStatic) _ _ ?_ ?_).trans (List.nil_append _)
  · intro earlier item
    rw [Bool.and_eq_true, beq_iff_eq, bne_iff_ne, and_comm]
  · intro entry declaring member listed
    exact owned.members entry (mem_entries_of_declaringEntries declaring) member
      (List.mem_filter.mp listed).1
  · exact fun _ _ _ impossible => absurd impossible List.not_mem_nil
  · exact fun _ => Iff.rfl

/-- What the entry furthest down declares is found, and what is above it as long as it is not
hidden. -/
theorem members_furthestDown (owned : catalog.Owned) {type : DataType} {name : String}
    {below above : List TypeEntry} {own : TypeEntry}
    (entries : catalog.declaringEntries type false = below ++ own :: above)
    (silent : ∀ entry ∈ below, entry.membersNamed name false = []) :
    catalog.members type name false = own.membersNamed name false ++
      unhidden Member.name (TypeEntry.membersNamed · name false)
        ((own.membersNamed name false).map Member.name) above := by
  rw [members_eq_unhidden owned, entries, unhidden_skip _ silent, unhidden_cons]

theorem methods_eq_unhidden (owned : catalog.Owned) (type : DataType) (name : String)
    (isStatic : Bool) :
    catalog.methods type name isStatic =
      unhidden Method.overrideKey (TypeEntry.methodsNamed · name isStatic) []
        (catalog.declaringEntries type isStatic) := by
  unfold methods
  rw [List.filter_flatMap]
  refine (@foldl_addUnless_eq _ _ _ Method.overrideKey _ Method.owner
    (fun earlier method => earlier.owner != method.owner && earlier.name == method.name &&
      earlier.types == method.types) ?_ _ ?_
    (declaringEntries_apart type isStatic) _ _ ?_ ?_).trans (List.nil_append _)
  · intro earlier item
    rw [Bool.and_eq_true, Bool.and_eq_true, beq_iff_eq, beq_iff_eq, bne_iff_ne, and_assoc,
      Method.overrideKey, Method.overrideKey, Prod.mk.injEq]
  · intro entry declaring method listed
    exact owned.methods entry (mem_entries_of_declaringEntries declaring) method
      (List.mem_filter.mp listed).1
  · exact fun _ _ _ impossible => absurd impossible List.not_mem_nil
  · exact fun _ => Iff.rfl

end Catalog

namespace Scope

variable {scope : Scope}

theorem bindMember_eq_members (owner : DataType) (name : String) (isStatic : Bool) :
    scope.bindMember (some owner) name isStatic =
      match scope.catalog.members owner name isStatic with
      | [] => .ok none
      | [member] => .ok (some member)
      | members => .error (.ambiguousAmong (members.map scope.catalog.memberLine)) := by
  unfold bindMember receiverType? memberOf owners
  rw [List.flatMap_singleton]
  rfl

def NamesSeveral (scope : Scope) (type : DataType) (name : String) : Prop :=
  scope.bindMember (some type) name false =
    .error (.ambiguousAmong
      ((scope.catalog.members type name false).map scope.catalog.memberLine))

theorem namesSeveral_of_two_le {type : DataType} {name : String}
    (several : 2 ≤ (scope.catalog.members type name false).length) :
    scope.NamesSeveral type name := by
  unfold NamesSeveral
  rw [bindMember_eq_members]
  split
  · rename_i nothing
    rw [nothing] at several
    cases several
  · rename_i single
    rw [single] at several
    exact absurd several (Nat.not_succ_le_self 1)
  · rfl

/-- A name that no entry declares is unknown. Otherwise the entry furthest down that declares it
decides: one member there is the result as long as no base spells the name another way, and is
ambiguous with those that do; several members there are ambiguous. -/
theorem bindMember_furthestDown (owned : scope.catalog.Owned) (type : DataType) (name : String) :
    ((∀ entry ∈ scope.catalog.declaringEntries type false, entry.membersNamed name false = []) →
      scope.bindMember (some type) name false = .ok none) ∧
    ∀ below own above, scope.catalog.declaringEntries type false = below ++ own :: above →
      (∀ entry ∈ below, entry.membersNamed name false = []) →
      (∀ member, own.membersNamed name false = [member] →
        ((∀ entry ∈ above, ∀ other ∈ entry.membersNamed name false, other.name = member.name) →
          scope.bindMember (some type) name false = .ok (some member)) ∧
        ((∃ entry ∈ above, ∃ other ∈ entry.membersNamed name false, other.name ≠ member.name) →
          scope.NamesSeveral type name)) ∧
      (2 ≤ (own.membersNamed name false).length → scope.NamesSeveral type name) := by
  refine ⟨fun silent => ?_, fun below own above entries silent => ?_⟩
  · have nothing := Catalog.members_eq_unhidden owned type name false
    rw [unhidden_eq_nil_iff.mpr] at nothing
    · rw [bindMember_eq_members, nothing]
    · intro entry declaring item isListed
      rw [silent entry declaring] at isListed
      cases isListed
  · have found := Catalog.members_furthestDown owned entries silent
    refine ⟨fun member single => ?_, fun many => namesSeveral_of_two_le ?_⟩
    · rw [single, List.map_singleton] at found
      refine ⟨fun spelled => ?_,
        fun ⟨entry, isAbove, other, isListed, differs⟩ => namesSeveral_of_two_le ?_⟩
      · have hidden : unhidden Member.name (TypeEntry.membersNamed · name false) [member.name]
            above = [] := by
          rw [unhidden_eq_nil_iff]
          exact fun entry isAbove other isListed =>
            List.mem_singleton.mpr (spelled entry isAbove other isListed)
        rw [bindMember_eq_members, found, hidden]
        rfl
      · have visible : unhidden Member.name (TypeEntry.membersNamed · name false) [member.name]
            above ≠ [] := by
          rw [Ne, unhidden_eq_nil_iff]
          exact fun known => differs (List.mem_singleton.mp (known entry isAbove other isListed))
        rw [found, List.singleton_append, List.length_cons]
        exact Nat.succ_le_succ (List.length_pos_iff.mpr visible)
    · rw [found, List.length_append]
      exact Nat.le_trans many (Nat.le_add_right _ _)

end Scope

def Catalog.respelled : Catalog :=
  let text (name : String) (owner : TypeId) : Member :=
    { Member.property name .string (.constant .null) with owner := owner }
  ⟨[ { id := ⟨1⟩, name := "Base", namespaceName := "App", kind := .classType, base := none,
       members := [text "Name" ⟨1⟩] },
     { id := ⟨2⟩, name := "Same", namespaceName := "App", kind := .classType, base := some ⟨1⟩,
       members := [text "Name" ⟨2⟩] },
     { id := ⟨3⟩, name := "Other", namespaceName := "App", kind := .classType, base := some ⟨1⟩,
       members := [text "name" ⟨3⟩] } ]⟩

/-- On the class that spells the name the same, its own member is meant, whichever way the name
is asked for; on the other one the name is ambiguous. -/
theorem Scope.bindMember_furthestDown_respelled :
    (∃ member, member.owner = ⟨2⟩ ∧
      (Scope.mk Catalog.respelled [] none).bindMember (some (.plain ⟨2⟩)) "NAME" false =
        .ok (some member)) ∧
    (Scope.mk Catalog.respelled [] none).NamesSeveral (.plain ⟨3⟩) "name" := by
  have owned : Catalog.respelled.Owned := by
    constructor
    · decide +kernel
    · decide +kernel
  have furthestDown := @Scope.bindMember_furthestDown (Scope.mk Catalog.respelled [] none) owned
  constructor
  · obtain ⟨single, _⟩ := (furthestDown (.plain ⟨2⟩) "NAME").2 [] _ _ rfl
      fun _ member => absurd member List.not_mem_nil
    obtain ⟨spelled, _⟩ := single _ rfl
    exact ⟨_, rfl, spelled (by decide +kernel)⟩
  · obtain ⟨single, _⟩ := (furthestDown (.plain ⟨3⟩) "name").2 [] _ _ rfl
      fun _ member => absurd member List.not_mem_nil
    obtain ⟨_, otherwise⟩ := single _ rfl
    exact otherwise (by decide +kernel)

end Formula
