import Formula.Proofs.Library.Objects
import Formula.Proofs.Library.Registration

/-!
What the library makes of a call on a text. The type of texts has its members and methods from one
step of the installation, and what it inherits from the root goes by other names.
-/

namespace Formula

namespace Catalog

open Library

theorem standard_declaringEntries_string (surroundings : Surroundings) :
    ∃ entry root, (standard surroundings).declaringEntries .string false = [entry, root] ∧
      entry.members = textMembers.map (·.ownedBy .string) ∧
      entry.methods = concatMethods ++ textMethods.map (·.ownedBy .string) ∧
      root.members = [] ∧ root.methods = objectMethods := by
  obtain ⟨bare, found, base, noMembers, noMethods, isGrown⟩ :=
    standard_extendIf_string surroundings
  obtain ⟨bareRoot, own, foundRoot, noBase, noMembersRoot, noMethodsRoot, isObject, isGrownRoot⟩ :=
    standard_extendIf_object surroundings
  have isString := (find?_mem found).2
  have isRoot := (find?_mem foundRoot).2
  generalize isEntry : bare.extendIf .string textMembers (concats ++ textMethods) = entry at isGrown
  generalize isRootEntry : bareRoot.extendIf .object [] own = root at isGrownRoot
  have entryBase : entry.base = some .object := by
    rw [← isEntry, (TypeEntry.grows_extendIf _ _ _ bare).base, base]
  have rootBase : root.base = none := by
    rw [← isRootEntry, (TypeEntry.grows_extendIf _ _ _ bareRoot).base, noBase]
  refine ⟨entry, root, ?_, ?_, ?_, ?_, ?_⟩
  · have isFound : (standard surroundings).entryFor? .string = some entry := isGrown
    obtain ⟨size, isSize⟩ : ∃ size, (standard surroundings).size = size + 1 := by
      refine Nat.exists_eq_add_one.mpr (List.length_pos_of_mem (find?_mem isGrown).1)
    have apart : root.id ∉ [entry.id] := by
      rw [(find?_mem isGrown).2, (find?_mem isGrownRoot).2]
      decide
    unfold declaringEntries
    rw [isFound, isSize]
    simp only [Bool.false_eq_true, if_false, entryBases, entryBase, Option.bind_some, isGrownRoot,
      if_neg apart, entryBases_of_noBase _ rootBase]
  · rw [← isEntry, ← isString, InstallationStep.attaches_members.extend, noMembers,
      List.nil_append]
    exact if_pos rfl
  · rw [← isEntry, TypeEntry.methods_extendIf isString, noMethods, List.nil_append,
      List.map_append]
    rfl
  · rw [← isRootEntry, ← isRoot, InstallationStep.attaches_members.extend, noMembersRoot,
      List.nil_append]
    exact if_pos rfl
  · rw [← isRootEntry, TypeEntry.methods_extendIf isRoot, noMethodsRoot, isObject,
      List.nil_append]

def textResponses (catalog : Catalog) (name : String) (isStatic : Bool) (types : List DataType)
    (call : Invocation) : List (Outcome Value) :=
  ((catalog.methods .string name isStatic).filter fun method => method.types == types).map
    (·.body call)

def textProperty (catalog : Catalog) (name : String) (call : Invocation) : List (Outcome Value) :=
  (catalog.members .string name false).map (·.body call)

def textItem (catalog : Catalog) (call : Invocation) : List (Outcome Value) :=
  (catalog.indexers .string).map (·.body call)

variable (surroundings : Surroundings) {name : String} (types : List DataType) (call : Invocation)

theorem standard_methods_string
    (foreign : objectMethods.all (fun method => method.isStatic || !method.isNamed name) = true) :
    (standard surroundings).methods .string name false =
      (textMethods.filter fun method => !method.isStatic && method.isNamed name).map
        (·.ownedBy .string) := by
  obtain ⟨entry, root, entries, _, methods, _, rootMethods⟩ :=
    standard_declaringEntries_string surroundings
  have noConcats : concatMethods.filter (fun method =>
      method.isStatic == false && method.isNamed name) = [] := by
    have static : concatMethods.all Method.isStatic = true := rfl
    refine List.filter_eq_nil_iff.mpr fun method member => ?_
    rw [List.all_eq_true.mp static method member]
    exact Bool.false_ne_true
  have noObjects : objectMethods.filter (fun method =>
      method.isStatic == false && method.isNamed name) = [] := by
    refine List.filter_eq_nil_iff.mpr fun method member => ?_
    have other := List.all_eq_true.mp foreign method member
    rw [Bool.or_eq_true, Bool.not_eq_true'] at other
    rcases other with isStatic | isOther
    · rw [isStatic]
      exact Bool.false_ne_true
    · rw [isOther, Bool.and_false]
      exact Bool.false_ne_true
  unfold Catalog.methods
  rw [entries, List.flatMap_cons, List.flatMap_singleton, methods, rootMethods, List.filter_append,
    List.filter_append, noConcats, noObjects, List.nil_append, List.append_nil]
  have own : ∀ method ∈ (textMethods.map (·.ownedBy .string)).filter fun method =>
      method.isStatic == false && method.isNamed name, method.owner = .string := by
    intro method member
    obtain ⟨declared, _, rfl⟩ := List.mem_map.mp (List.mem_filter.mp member).1
    rfl
  have none : ∀ method ∈ ([] : List Method), method.owner = .string := by
    intro method impossible
    cases impossible
  rw [foldl_addUnlessOverridden_own own none, List.nil_append, List.filter_map]
  refine congrArg (List.map _) (List.filter_congr fun method _ => ?_)
  change (method.isStatic == false && method.isNamed name) = _
  rw [beq_false]

theorem textResponses_standard
    (foreign : objectMethods.all (fun method => method.isStatic || !method.isNamed name) = true) :
    (standard surroundings).textResponses name false types call =
      (textMethods.filter fun method =>
        !method.isStatic && method.isNamed name && method.types == types).map (·.body call) := by
  unfold textResponses
  rw [standard_methods_string surroundings foreign, List.filter_map, List.map_map,
    List.filter_filter]
  refine congrArg (List.map _) (List.filter_congr fun method _ => ?_)
  exact Bool.and_comm ..

theorem textResponses_static :
    (standard surroundings).textResponses name true types call =
      ((concatMethods ++ textMethods.map (·.ownedBy .string)).filter fun method =>
        method.isStatic && method.isNamed name && method.types == types).map (·.body call) := by
  obtain ⟨entry, found, methods⟩ := standard_find?_string surroundings
  have isEntry : (standard surroundings).entryFor? .string = some entry := found
  unfold textResponses
  rw [methods_static (standard_ownsMethods surroundings) isEntry, methods, List.filter_filter]
  refine congrArg (List.map _) (List.filter_congr fun method _ => ?_)
  exact Bool.and_comm ..

theorem textProperty_standard :
    (standard surroundings).textProperty name call =
      (((textMembers.map (·.ownedBy .string)).filter fun member =>
        member.isStatic == false && !member.isIndexer && member.isNamed name).foldl
          addUnlessHidden []).map (·.body call) := by
  obtain ⟨entry, root, entries, members, _, rootMembers, _⟩ :=
    standard_declaringEntries_string surroundings
  unfold textProperty Catalog.members
  rw [entries, List.flatMap_cons, List.flatMap_singleton, members, rootMembers, List.append_nil]

theorem textItem_standard :
    (standard surroundings).textItem call =
      ((textMembers.map (·.ownedBy .string)).filter fun member =>
        !member.isStatic && member.isIndexer).map (·.body call) := by
  obtain ⟨entry, root, entries, members, _, rootMembers, _⟩ :=
    standard_declaringEntries_string surroundings
  unfold textItem indexers
  rw [entries, List.flatMap_cons, List.flatMap_singleton, members, rootMembers, List.append_nil]

end Catalog

end Formula
