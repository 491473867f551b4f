import Mathlib.Logic.Relation
import Formula.Proofs.Catalog.Primitives

/-!
The search for an interface, with what it has met on the bases before. It ends without a bound on
its depth, as an entry is met once, and passing over what has been met hides no path: the
interfaces of all that a search has met in vain have been met in vain, too.
-/

namespace Formula.Catalog

variable {catalog : Catalog} {interface : TypeId}

def Lists (catalog : Catalog) (id parent : TypeId) : Prop :=
  parent ∈ catalog.directInterfaces id

def Implements (catalog : Catalog) : TypeId → TypeId → Prop :=
  Relation.TransGen catalog.Lists

/-- How a search goes through interfaces from what has been met to what it has met then, with no
bound on its depth: `Searches pending met found later`. -/
inductive Searches (catalog : Catalog) (interface : TypeId) :
    List TypeId → List TypeId → Bool → List TypeId → Prop
  | done {met} : Searches catalog interface [] met false met
  | listed {rest met} : Searches catalog interface (interface :: rest) met true met
  | again {id rest met found later} (other : id ≠ interface) (isMet : id ∈ met)
      (next : Searches catalog interface rest met found later) :
      Searches catalog interface (id :: rest) met found later
  | inside {id rest met later} (other : id ≠ interface) (isNew : id ∉ met)
      (below : Searches catalog interface (catalog.directInterfaces id) (id :: met) true later) :
      Searches catalog interface (id :: rest) met true later
  | beyond {id rest met between found later} (other : id ≠ interface) (isNew : id ∉ met)
      (below : Searches catalog interface (catalog.directInterfaces id) (id :: met) false between)
      (next : Searches catalog interface rest between found later) :
      Searches catalog interface (id :: rest) met found later

/-- What has been met in vain: none of it lists the interface, and its interfaces have been met. -/
def InVain (catalog : Catalog) (interface : TypeId) (met : List TypeId) : Prop :=
  ∀ id ∈ met, ∀ parent, catalog.Lists id parent → parent ≠ interface ∧ parent ∈ met

def unmet (catalog : Catalog) (met : List TypeId) : List TypeEntry :=
  catalog.entries.filter fun entry => entry.id ∉ met

theorem Implements.of_lists {id parent target : TypeId} (lists : catalog.Lists id parent)
    (further : parent = target ∨ catalog.Implements parent target) :
    catalog.Implements id target := by
  rcases further with rfl | further
  · exact .single lists
  · exact .head lists further

theorem not_implements_of_none {id : TypeId} (none : catalog.directInterfaces id = [])
    (parent : TypeId) : ¬catalog.Implements id parent := by
  intro implements
  obtain ⟨first, lists, _⟩ := Relation.TransGen.head'_iff.mp implements
  unfold Lists at lists
  rw [none] at lists
  cases lists

namespace Searches

variable {pending met later : List TypeId}

theorem exists_implements (search : catalog.Searches interface pending met true later) :
    ∃ id ∈ pending, id = interface ∨ catalog.Implements id interface := by
  generalize isFound : true = found at search
  induction search with
  | done => cases isFound
  | listed => exact ⟨interface, List.mem_cons_self .., .inl rfl⟩
  | again _ _ _ ih =>
      obtain ⟨id, member, leads⟩ := ih isFound
      exact ⟨id, List.mem_cons_of_mem _ member, leads⟩
  | @inside id _ _ _ _ _ _ ih =>
      obtain ⟨parent, lists, leads⟩ := ih isFound
      exact ⟨id, List.mem_cons_self .., .inr (.of_lists lists leads)⟩
  | beyond _ _ _ _ _ ih =>
      obtain ⟨id, member, leads⟩ := ih isFound
      exact ⟨id, List.mem_cons_of_mem _ member, leads⟩

theorem subset {found : Bool} (search : catalog.Searches interface pending met found later) :
    met ⊆ later := by
  induction search with
  | done => exact List.Subset.refl _
  | listed => exact List.Subset.refl _
  | again _ _ _ ih => exact ih
  | inside _ _ _ ih => exact fun _ member => ih (List.mem_cons_of_mem _ member)
  | beyond _ _ _ _ ih next => exact fun _ member => next (ih (List.mem_cons_of_mem _ member))

/-- A search in vain meets all it is to go through, and what it meets for the first time lists
only what it meets. -/
theorem meets_all (search : catalog.Searches interface pending met false later) :
    (∀ id ∈ pending, id ≠ interface ∧ id ∈ later) ∧
      ∀ id ∈ later, id ∉ met → ∀ parent, catalog.Lists id parent →
        parent ≠ interface ∧ parent ∈ later := by
  generalize isFound : false = found at search
  induction search with
  | done => exact ⟨fun _ member => absurd member List.not_mem_nil, fun _ member isNew =>
      absurd member isNew⟩
  | listed => cases isFound
  | @again id _ _ _ _ other isMet next ih =>
      obtain ⟨all, closed⟩ := ih isFound
      refine ⟨fun item member => ?_, closed⟩
      rcases List.mem_cons.mp member with rfl | member
      · exact ⟨other, next.subset isMet⟩
      · exact all item member
  | inside => cases isFound
  | @beyond id _ met between _ later other _ below next ihBelow ihNext =>
      obtain ⟨listed, closedBelow⟩ := ihBelow rfl
      obtain ⟨all, closedNext⟩ := ihNext isFound
      have kept := next.subset
      constructor
      · intro item member
        rcases List.mem_cons.mp member with rfl | member
        · exact ⟨other, kept (below.subset (List.mem_cons_self ..))⟩
        · exact all item member
      · intro item member isNew parent lists
        by_cases isBetween : item ∈ between
        · by_cases isHead : item = id
          · subst isHead
            exact ⟨(listed parent lists).1, kept (listed parent lists).2⟩
          · have notMet : item ∉ id :: met := List.not_mem_cons_of_ne_of_not_mem isHead isNew
            obtain ⟨different, isMet⟩ := closedBelow item isBetween notMet parent lists
            exact ⟨different, kept isMet⟩
        · exact closedNext item member isBetween parent lists

theorem inVain {id : TypeId} (before : catalog.InVain interface met)
    (search : catalog.Searches interface (catalog.directInterfaces id) (id :: met) false later) :
    catalog.InVain interface later := by
  obtain ⟨listed, closed⟩ := search.meets_all
  intro item member parent lists
  by_cases isMet : item ∈ id :: met
  · rcases List.mem_cons.mp isMet with rfl | earlier
    · exact listed parent lists
    · obtain ⟨different, isParentMet⟩ := before item earlier parent lists
      exact ⟨different, search.subset (List.mem_cons_of_mem _ isParentMet)⟩
  · exact closed item member isMet parent lists

end Searches

theorem InVain.not_implements {met : List TypeId} (inVain : catalog.InVain interface met)
    {id : TypeId} (member : id ∈ met) : ¬catalog.Implements id interface := by
  intro implements
  induction implements using Relation.TransGen.head_induction_on with
  | single lists => exact (inVain _ member _ lists).1 rfl
  | head lists _ ih => exact ih (inVain _ member _ lists).2

theorem unmet_subset (catalog : Catalog) {met later : List TypeId} (kept : met ⊆ later) :
    (catalog.unmet later).length ≤ (catalog.unmet met).length := by
  unfold unmet
  rw [← List.countP_eq_length_filter, ← List.countP_eq_length_filter]
  refine List.countP_mono_left fun entry _ isUnmet => ?_
  rw [decide_eq_true_eq] at isUnmet ⊢
  exact fun member => isUnmet (kept member)

theorem unmet_cons {id : TypeId} {entry : TypeEntry} {met : List TypeId}
    (found : catalog.find? id = some entry) (isNew : id ∉ met) :
    (catalog.unmet (id :: met)).length < (catalog.unmet met).length := by
  have narrows : catalog.unmet (id :: met) =
      (catalog.unmet met).filter fun entry => entry.id ∉ id :: met := by
    unfold unmet
    rw [List.filter_filter]
    refine List.filter_congr fun entry _ => ?_
    rw [← Bool.decide_and, decide_eq_decide]
    exact ⟨fun isUnmet => ⟨isUnmet, fun member => isUnmet (List.mem_cons_of_mem _ member)⟩,
      And.left⟩
  obtain ⟨listed, isId⟩ := find?_mem found
  rw [narrows, List.length_filter_lt_length_iff_exists]
  refine ⟨entry, ?_, ?_⟩
  · unfold unmet
    rw [List.mem_filter, decide_eq_true_eq, isId]
    exact ⟨listed, isNew⟩
  · rw [decide_eq_true_eq, Decidable.not_not, isId]
    exact List.mem_cons_self ..

theorem implements_met {depth : Nat} {id : TypeId} {met : List TypeId} (isMet : id ∈ met) :
    catalog.implements interface depth id met = (false, met) := by
  cases depth with
  | zero => rfl
  | succ depth => rw [implements, if_pos isMet]

/-- If the searches below each interface end, so does the search through all of them. -/
theorem searches_anyInTurn {depth : Nat} {start : List TypeId}
    (below : ∀ id met, start ⊆ met → id ∉ met →
      catalog.Searches interface (catalog.directInterfaces id) (id :: met)
        (catalog.implements interface depth id met).1
        (catalog.implements interface depth id met).2)
    (pending : List TypeId) {met : List TypeId} (kept : start ⊆ met) :
    let ask := fun parent met =>
      if parent = interface then (true, met) else catalog.implements interface depth parent met
    catalog.Searches interface pending met (anyInTurn ask pending met).1
      (anyInTurn ask pending met).2 := by
  intro ask
  induction pending generalizing met with
  | nil => exact .done
  | cons id rest ih =>
      unfold anyInTurn
      by_cases same : id = interface
      · have asked : ask id met = (true, met) := if_pos same
        rw [asked, same]
        exact .listed
      · have asked : ask id met = catalog.implements interface depth id met := if_neg same
        rw [asked]
        by_cases isMet : id ∈ met
        · rw [implements_met isMet]
          exact .again same isMet (ih kept)
        · have search := below id met kept isMet
          generalize catalog.implements interface depth id met = outcome at search
          obtain ⟨found, between⟩ := outcome
          cases found with
          | true => exact .inside same isMet search
          | false =>
              have further : start ⊆ between := fun _ member =>
                search.subset (List.mem_cons_of_mem _ (kept member))
              exact .beyond same isMet search (ih further)

/-- Where the depth is that of all entries still to be met, the bound on it cuts nothing off. -/
theorem searches_implements (interface : TypeId) {depth : Nat} {id : TypeId} {met : List TypeId}
    (enough : (catalog.unmet met).length < depth) (isNew : id ∉ met) :
    catalog.Searches interface (catalog.directInterfaces id) (id :: met)
      (catalog.implements interface depth id met).1
      (catalog.implements interface depth id met).2 := by
  induction depth generalizing id met with
  | zero => exact absurd enough (Nat.not_lt_zero _)
  | succ depth ih =>
      rw [implements, if_neg isNew]
      cases found : catalog.find? id with
      | none =>
          have nothing : catalog.directInterfaces id = [] := by
            unfold directInterfaces
            rw [found]
          rw [nothing]
          exact .done
      | some entry =>
          have fewer := unmet_cons found isNew
          refine searches_anyInTurn (fun other later kept isLater => ?_) _ (List.Subset.refl _)
          have noMore := catalog.unmet_subset kept
          exact ih (by omega) isLater

theorem length_unmet_lt (catalog : Catalog) (met : List TypeId) :
    (catalog.unmet met).length < catalog.searchDepth :=
  Nat.lt_succ_of_le (List.length_filter_le _ _)

def Arrives (catalog : Catalog) (type target : DataType) : Prop :=
  type = target ∨ (type.isArray = false ∧ catalog.Implements type.id target.id)

theorem arrives_spec {target : DataType} (type : DataType) {met : List TypeId}
    (inVain : catalog.InVain target.id met) :
    ((catalog.arrives target type met).1 = true ↔ catalog.Arrives type target) ∧
      ((catalog.arrives target type met).1 = false →
        catalog.InVain target.id (catalog.arrives target type met).2) := by
  unfold arrives
  by_cases same : type = target
  · rw [if_pos same]
    exact ⟨iff_of_true rfl (.inl same), Bool.noConfusion⟩
  · rw [if_neg same]
    by_cases isArray : type.isArray = true
    · rw [if_pos isArray]
      refine ⟨iff_of_false Bool.false_ne_true ?_, fun _ => inVain⟩
      rintro (impossible | ⟨notArray, _⟩)
      · exact same impossible
      · rw [isArray] at notArray
        cases notArray
    · rw [if_neg isArray]
      by_cases isMet : type.id ∈ met
      · rw [implements_met isMet]
        refine ⟨iff_of_false Bool.false_ne_true ?_, fun _ => inVain⟩
        rintro (impossible | ⟨_, implements⟩)
        · exact same impossible
        · exact inVain.not_implements isMet implements
      · have search := searches_implements target.id (catalog.length_unmet_lt met) isMet
        generalize catalog.implements target.id catalog.searchDepth type.id met = outcome at search
        obtain ⟨found, later⟩ := outcome
        cases found with
        | true =>
            obtain ⟨parent, lists, leads⟩ := search.exists_implements
            have implements : catalog.Implements type.id target.id := .of_lists lists leads
            exact ⟨iff_of_true rfl (.inr ⟨Bool.eq_false_iff.mpr isArray, implements⟩),
              Bool.noConfusion⟩
        | false =>
            have after := search.inVain inVain
            refine ⟨iff_of_false Bool.false_ne_true ?_, fun _ => after⟩
            rintro (impossible | ⟨_, implements⟩)
            · exact same impossible
            · exact after.not_implements (search.subset (List.mem_cons_self ..)) implements

theorem anyInTurn_arrives {target : DataType} (types : List DataType) {met : List TypeId}
    (inVain : catalog.InVain target.id met) :
    (anyInTurn (catalog.arrives target) types met).1 = true ↔
      ∃ type ∈ types, catalog.Arrives type target := by
  induction types generalizing met with
  | nil => simp [anyInTurn]
  | cons type rest ih =>
      obtain ⟨finds, leaves⟩ := arrives_spec type inVain
      unfold anyInTurn
      simp only [List.mem_cons, exists_eq_or_imp]
      generalize catalog.arrives target type met = outcome at finds leaves
      obtain ⟨found, later⟩ := outcome
      cases found with
      | true => exact iff_of_true rfl (.inl (finds.mp rfl))
      | false =>
          have notHere : ¬catalog.Arrives type target := fun arrives =>
            Bool.false_ne_true (finds.mpr arrives)
          rw [or_iff_right notHere]
          exact ih (leaves rfl)

/-- What the bases have met in vain before hides nothing from those after them. -/
theorem reaches_iff {target source : DataType} :
    catalog.reaches target source = true ↔
      ∃ type ∈ catalog.baseChain chainLimit source, catalog.Arrives type target :=
  anyInTurn_arrives _ fun _ member => absurd member List.not_mem_nil

end Formula.Catalog
