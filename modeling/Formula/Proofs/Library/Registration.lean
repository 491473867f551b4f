import Formula.Proofs.Catalog.Rearrangement
import Formula.Proofs.Library.Installation

/-!
What a catalog holds after steps that all succeed: the types that the steps register, and for each
type what the steps attach to it, in the order of the steps. Steps in another order leave the same
catalog but for the order of what it lists.
-/

namespace Formula

def Member.ownedBy (member : Member) (owner : TypeId) : Member :=
  { member with owner := owner }

namespace TypeEntry

variable (entry : TypeEntry)

theorem members_addMembers (members : List Member) :
    (entry.addMembers members).members = entry.members ++ members.map (·.ownedBy entry.id) := by
  unfold addMembers
  induction members generalizing entry with
  | nil => rw [List.foldl_nil, List.map_nil, List.append_nil]
  | cons member members ih =>
      rw [List.foldl_cons, ih, List.map_cons]
      unfold addMember
      rw [List.append_assoc]
      rfl

theorem bare_addMembers (members : List Member) : (entry.addMembers members).bare = entry.bare :=
  reading_foldl TypeEntry.bare addMember (fun _ _ => rfl) members entry

theorem members_addMethods (methods : List Method) :
    (entry.addMethods methods).members = entry.members :=
  reading_foldl TypeEntry.members addMethod (fun _ _ => rfl) methods entry

theorem bare_addMethods (methods : List Method) : (entry.addMethods methods).bare = entry.bare :=
  reading_foldl TypeEntry.bare addMethod (fun _ _ => rfl) methods entry

theorem bare_extendIf (id : TypeId) (members : List Member) (methods : List Method) :
    (entry.extendIf id members methods).bare = entry.bare := by
  unfold extendIf
  split
  · have same := ((entry.addMembers members).bare_addMethods methods).trans
      (entry.bare_addMembers members)
    exact congrArg (fun bare : TypeEntry => { bare with id := entry.id }) same
  · rfl

end TypeEntry

namespace InstallationStep

def bare? : InstallationStep → Option TypeEntry
  | extend _ _ _ => none
  | register entry => some entry.bare

def members (id : TypeId) : InstallationStep → List Member
  | extend extended members _ => if id = extended then members.map (·.ownedBy id) else []
  | register entry => if id = entry.id then entry.members else []

def methods (id : TypeId) : InstallationStep → List Method
  | extend extended _ methods => if id = extended then methods.map (·.ownedBy id) else []
  | register entry => if id = entry.id then entry.methods else []

structure Attaches {β : Type} (listed : TypeEntry → List β)
    (attached : TypeId → InstallationStep → List β) : Prop where
  extend : ∀ (entry : TypeEntry) (members : List Member) (methods : List Method),
    listed (entry.extendIf entry.id members methods) =
      listed entry ++ attached entry.id (.extend entry.id members methods)
  other : ∀ {id extended : TypeId}, id ≠ extended → ∀ (members : List Member)
    (methods : List Method), attached id (.extend extended members methods) = []
  register : ∀ id entry, attached id (.register entry) = if id = entry.id then listed entry else []

theorem attaches_members : Attaches TypeEntry.members members where
  extend entry members methods := by
    unfold TypeEntry.extendIf
    rw [if_pos rfl, InstallationStep.members, if_pos rfl]
    exact (TypeEntry.members_addMethods _ methods).trans (entry.members_addMembers members)
  other differs _ _ := if_neg differs
  register _ _ := rfl

theorem attaches_methods : Attaches TypeEntry.methods methods where
  extend entry members methods := by
    unfold TypeEntry.extendIf
    rw [if_pos rfl, InstallationStep.methods, if_pos rfl]
    have added := TypeEntry.methods_addMethods (entry.addMembers members) methods
    rw [TypeEntry.methods_addMembers, (TypeEntry.grows_addMembers entry members).id] at added
    exact added
  other differs _ _ := if_neg differs
  register _ _ := rfl

/-- Steps that register the same types and attach the same members and methods to each type, in
any order and in any portions. -/
structure Reorders (steps others : List InstallationStep) : Prop where
  types : (steps.filterMap bare?).Perm (others.filterMap bare?)
  members : ∀ id, (steps.flatMap (members id)).Perm (others.flatMap (members id))
  methods : ∀ id, (steps.flatMap (methods id)).Perm (others.flatMap (methods id))

theorem reorders_of_perm {steps others : List InstallationStep} (perm : steps.Perm others) :
    Reorders steps others where
  types := perm.filterMap _
  members _ := perm.flatMap_right _
  methods _ := perm.flatMap_right _

end InstallationStep

namespace Catalog

variable {catalog extended : Catalog} {β : Type}

def listed (catalog : Catalog) (list : TypeEntry → List β) (id : TypeId) : List β :=
  match catalog.find? id with
  | some entry => list entry
  | none => []

theorem contains_eq_false {id : TypeId} :
    catalog.contains id = false ↔ catalog.find? id = none := by
  unfold contains
  rw [Option.isSome_eq_false_iff, Option.isNone_iff_eq_none]

theorem find?_bare (catalog : Catalog) (id : TypeId) :
    (catalog.find? id).map TypeEntry.bare =
      (catalog.entries.map TypeEntry.bare).find? fun entry => entry.id = id := by
  unfold find?
  rw [List.find?_map]
  rfl

theorem find?_append (catalog : Catalog) (added : TypeEntry) (id : TypeId) :
    (Catalog.mk (catalog.entries ++ [added])).find? id =
      (catalog.find? id).or (if id = added.id then some added else none) := by
  unfold find?
  rw [List.find?_append, List.find?_singleton]
  congr 1
  by_cases isAdded : id = added.id
  · rw [if_pos isAdded, if_pos (decide_eq_true isAdded.symm)]
  · rw [if_neg isAdded, if_neg fun same => isAdded (of_decide_eq_true same).symm]

theorem install_cons_ok {step : InstallationStep} {steps : List InstallationStep}
    (installed : catalog.install (step :: steps) = (extended, none)) :
    ∃ next, catalog.perform step = .ok next ∧ next.install steps = (extended, none) := by
  cases performed : catalog.perform step with
  | ok next => exact ⟨next, rfl, (install_cons performed steps).symm.trans installed⟩
  | error cause =>
      simp only [install, performed] at installed
      cases installed

theorem perform_bare {step : InstallationStep} (performed : catalog.perform step = .ok extended) :
    extended.entries.map TypeEntry.bare =
      catalog.entries.map TypeEntry.bare ++ step.bare?.toList := by
  rcases perform_cases performed with
    ⟨changed, members, methods, rfl, _, rfl⟩ | ⟨added, rfl, _, rfl⟩
  · rw [List.map_map, InstallationStep.bare?, Option.toList_none, List.append_nil]
    exact List.map_congr_left fun entry _ => entry.bare_extendIf changed members methods
  · rw [List.map_append]
    rfl

theorem install_bare {steps : List InstallationStep}
    (installed : catalog.install steps = (extended, none)) :
    extended.entries.map TypeEntry.bare =
      catalog.entries.map TypeEntry.bare ++ steps.filterMap InstallationStep.bare? := by
  induction steps generalizing catalog with
  | nil =>
      cases installed
      rw [List.filterMap_nil, List.append_nil]
  | cons step steps ih =>
      obtain ⟨next, performed, rest⟩ := install_cons_ok installed
      rw [ih rest, perform_bare performed, List.append_assoc]
      cases step <;> rfl

theorem perform_contains {step : InstallationStep}
    (performed : catalog.perform step = .ok extended) {id : TypeId}
    (absent : extended.contains id = false) : catalog.contains id = false := by
  rw [contains_eq_false] at absent ⊢
  cases found : catalog.find? id with
  | none => rfl
  | some entry =>
      obtain ⟨grown, isGrown, _⟩ := perform_find? performed found
      rw [isGrown] at absent
      cases absent

theorem install_new {steps : List InstallationStep}
    (installed : catalog.install steps = (extended, none)) :
    (∀ entry ∈ steps.filterMap InstallationStep.bare?, catalog.contains entry.id = false) ∧
      ((steps.filterMap InstallationStep.bare?).map TypeEntry.id).Nodup := by
  induction steps generalizing catalog with
  | nil => exact ⟨fun _ impossible => (List.not_mem_nil impossible).elim, List.nodup_nil⟩
  | cons step steps ih =>
      obtain ⟨next, performed, rest⟩ := install_cons_ok installed
      obtain ⟨new, apart⟩ := ih rest
      have newBefore : ∀ entry ∈ steps.filterMap InstallationStep.bare?,
          catalog.contains entry.id = false :=
        fun entry member => perform_contains performed (new entry member)
      rcases perform_cases performed with
        ⟨changed, members, methods, rfl, _, rfl⟩ | ⟨added, rfl, absent, rfl⟩
      · exact ⟨newBefore, apart⟩
      · have bare : InstallationStep.bare? (.register added) = some added.bare := rfl
        rw [List.filterMap_cons_some bare]
        refine ⟨List.forall_mem_cons.mpr ⟨absent, newBefore⟩, ?_⟩
        rw [List.map_cons, List.nodup_cons]
        refine ⟨?_, apart⟩
        intro again
        obtain ⟨entry, member, isId⟩ := List.mem_map.mp again
        have here := contains_eq_false.mp (new entry member)
        unfold find? at here
        rw [List.find?_eq_none] at here
        exact here added (List.mem_append_right _ (List.mem_singleton.mpr rfl))
          (decide_eq_true isId.symm)

theorem perform_listed {list : TypeEntry → List β} {attached : TypeId → InstallationStep → List β}
    (attaches : InstallationStep.Attaches list attached) {step : InstallationStep}
    (performed : catalog.perform step = .ok extended) (id : TypeId) :
    extended.listed list id = catalog.listed list id ++ attached id step := by
  rcases perform_cases performed with
    ⟨changed, members, methods, rfl, known, rfl⟩ | ⟨added, rfl, absent, rfl⟩
  · unfold listed
    rw [find?_map fun entry => (TypeEntry.grows_extendIf changed members methods entry).id]
    by_cases isChanged : id = changed
    · rw [isChanged]
      obtain ⟨entry, found⟩ := Option.isSome_iff_exists.mp known
      obtain rfl := (find?_mem found).2
      rw [found, Option.map_some]
      exact attaches.extend entry members methods
    · rw [attaches.other isChanged, List.append_nil]
      cases found : catalog.find? id with
      | none => rfl
      | some entry =>
          have other : entry.id ≠ changed := (find?_mem found).2 ▸ isChanged
          rw [Option.map_some, TypeEntry.extendIf_other other]
  · unfold listed
    rw [attaches.register, find?_append]
    by_cases isAdded : id = added.id
    · rw [if_pos isAdded, if_pos isAdded]
      rw [← isAdded, contains_eq_false] at absent
      rw [absent]
      rfl
    · rw [if_neg isAdded, if_neg isAdded, Option.or_none, List.append_nil]

theorem install_listed {list : TypeEntry → List β} {attached : TypeId → InstallationStep → List β}
    (attaches : InstallationStep.Attaches list attached) {steps : List InstallationStep}
    (installed : catalog.install steps = (extended, none)) (id : TypeId) :
    extended.listed list id = catalog.listed list id ++ steps.flatMap (attached id) := by
  induction steps generalizing catalog with
  | nil =>
      cases installed
      rw [List.flatMap_nil, List.append_nil]
  | cons step steps ih =>
      obtain ⟨next, performed, rest⟩ := install_cons_ok installed
      rw [ih rest, perform_listed attaches performed, List.append_assoc, List.flatMap_cons]

theorem install_register {before later : List InstallationStep} {entry : TypeEntry}
    (succeeds : (catalog.install before).2 = none)
    (absent : (catalog.install before).1.contains entry.id = false)
    (sparedLater : later.all (·.spares entry.id) = true) :
    (catalog.install (before ++ .register entry :: later)).1.find? entry.id = some entry := by
  have performed : (catalog.install before).1.perform (.register entry) =
      .ok ⟨(catalog.install before).1.entries ++ [entry]⟩ :=
    if_neg (ne_true_of_eq_false absent)
  have added := find?_append (catalog.install before).1 entry entry.id
  rw [contains_eq_false.mp absent, Option.none_or, if_pos rfl] at added
  obtain ⟨last, isLast, _, unchanged⟩ := install_find? later added
  rw [install_append succeeds, install_cons performed, isLast, unchanged sparedLater]

/-- The entry of a type, without what it lists, is found in any order of the steps. -/
theorem install_find?_bare {start first second : Catalog} {steps others : List InstallationStep}
    (types : (steps.filterMap InstallationStep.bare?).Perm
      (others.filterMap InstallationStep.bare?))
    (installed : start.install steps = (first, none))
    (installedOther : start.install others = (second, none)) (id : TypeId) :
    (first.find? id).map TypeEntry.bare = (second.find? id).map TypeEntry.bare := by
  rw [find?_bare, find?_bare, install_bare installed, install_bare installedOther,
    List.find?_append, List.find?_append]
  refine congrArg _ (find?_of_perm types fun one isOne other isOther named same => ?_)
  have ids := (of_decide_eq_true named).trans (of_decide_eq_true same).symm
  exact List.inj_on_of_nodup_map (install_new installed).2 isOne isOther ids

theorem rel_of_listed {first second : Catalog} {id : TypeId}
    (bare : (first.find? id).map TypeEntry.bare = (second.find? id).map TypeEntry.bare)
    (members : (first.listed TypeEntry.members id).Perm (second.listed TypeEntry.members id))
    (methods : (first.listed TypeEntry.methods id).Perm (second.listed TypeEntry.methods id)) :
    Option.Rel TypeEntry.Rearranges (first.find? id) (second.find? id) := by
  unfold listed at members methods
  cases found : first.find? id with
  | none =>
      rw [found, Option.map_none, eq_comm, Option.map_eq_none_iff] at bare
      rw [bare]
      exact .none
  | some entry =>
      rw [found, Option.map_some, eq_comm, Option.map_eq_some_iff] at bare
      obtain ⟨other, foundOther, same⟩ := bare
      rw [found, foundOther] at members methods
      rw [foundOther]
      exact .some ⟨same.symm, members, methods⟩

/-- The order of the steps is only the order of what the catalog lists. -/
theorem install_rearranges {start first second : Catalog} {steps others : List InstallationStep}
    (reorders : InstallationStep.Reorders steps others)
    (installed : start.install steps = (first, none))
    (installedOther : start.install others = (second, none))
    (declares : ∀ entry ∈ first.entries, entry.Declares) : first.Rearranges second where
  size := by
    have lengths := (reorders.types.append_left (start.entries.map TypeEntry.bare)).length_eq
    rw [← install_bare installed, ← install_bare installedOther, List.length_map,
      List.length_map] at lengths
    exact lengths
  entries id := by
    have members := (reorders.members id).append_left (start.listed TypeEntry.members id)
    have methods := (reorders.methods id).append_left (start.listed TypeEntry.methods id)
    rw [← install_listed InstallationStep.attaches_members installed,
      ← install_listed InstallationStep.attaches_members installedOther] at members
    rw [← install_listed InstallationStep.attaches_methods installed,
      ← install_listed InstallationStep.attaches_methods installedOther] at methods
    exact rel_of_listed (install_find?_bare reorders.types installed installedOther id) members
      methods
  declared _ entry found := declares entry (find?_mem found).1

end Catalog

end Formula
