import Formula.Proofs.Library.Concatenations
import Formula.Proofs.Value.HashCodes

/-!
The methods that the root of the hierarchy declares, and that every value therefore has: equality
and hash codes.
-/

namespace Formula

namespace Library

def objectMethods : List Method :=
  objects.flatMap fun
    | .extend _ _ methods => methods.map (·.ownedBy .object)
    | .register _ => []

end Library

namespace Catalog

open Library

variable {catalog : Catalog}

theorem entryBases_of_noBase (catalog : Catalog) {entry : TypeEntry} (noBase : entry.base = none)
    (limit : Nat) (seen : List TypeId) : catalog.entryBases limit seen entry = [entry] := by
  cases limit with
  | zero => rfl
  | succ limit =>
      unfold entryBases
      rw [noBase]
      rfl

theorem declaringEntries_of_root {type : DataType} {entry : TypeEntry}
    (found : catalog.entryFor? type = some entry) (noBase : entry.base = none) (isStatic : Bool) :
    catalog.declaringEntries type isStatic = [entry] := by
  unfold declaringEntries
  rw [found]
  cases isStatic
  · exact entryBases_of_noBase catalog noBase _ _
  · rfl

theorem standard_extendIf_object (surroundings : Surroundings) :
    ∃ bare methods, primitives.find? .object = some bare ∧ bare.base = none ∧
      bare.members = [] ∧ bare.methods = [] ∧ objectMethods = methods.map (·.ownedBy .object) ∧
      (standard surroundings).find? .object = some (bare.extendIf .object [] methods) := by
  have bare : (primitives.find? .object).map (fun entry =>
      (entry.base, entry.members.isEmpty, entry.methods.isEmpty)) =
        some (none, true, true) := by decide +kernel
  obtain ⟨root, found, isBare⟩ := Option.map_eq_some_iff.mp bare
  simp only [Prod.mk.injEq, List.isEmpty_iff] at isBare
  obtain ⟨noBase, noMembers, noMethods⟩ := isBare
  let later := scalars ++ texts ++ arrays ++ enumerations ++ mathematics ++ conversions ++
    times surroundings.zone surroundings.now ++ guids surroundings.fresh ++ patterns
  have order : steps surroundings = objects ++ later := by
    simp [steps, later, Part.all, Part.steps]
  have succeeds : (primitives.install []).2 = none := rfl
  have sparedLater : later.all (·.spares .object) = true := rfl
  obtain ⟨methods, step⟩ : ∃ methods, objects = [.extend .object [] methods] := ⟨_, rfl⟩
  refine ⟨root, methods, found, noBase, noMembers, noMethods, ?_, ?_⟩
  · rw [objectMethods, step, List.flatMap_singleton]
  · unfold standard
    rw [order, step]
    exact install_extend found succeeds rfl sparedLater [] methods

theorem standard_find?_object (surroundings : Surroundings) :
    ∃ entry, (standard surroundings).find? .object = some entry ∧ entry.base = none ∧
      entry.methods = objectMethods := by
  obtain ⟨bare, methods, found, noBase, _, noMethods, isObject, isGrown⟩ :=
    standard_extendIf_object surroundings
  refine ⟨_, isGrown, (TypeEntry.grows_extendIf _ _ _ bare).base.trans noBase, ?_⟩
  rw [TypeEntry.methods_extendIf (find?_mem found).2, noMethods, isObject, List.nil_append]

end Catalog

end Formula
