import Formula.Proofs.Catalog.Inheritance
import Formula.Proofs.Library.Concatenations
import Formula.Proofs.Library.Registration

/-!
Ownership along installations. What is added to an entry is declared by it, so members and methods
know where they are declared in the library, and in every catalog that steps of this kind lead to.
-/

namespace Formula

namespace TypeEntry

variable {entry : TypeEntry}

def OwnsMembers (entry : TypeEntry) : Prop :=
  ∀ member ∈ entry.members, member.owner = entry.id

theorem ownsMembers_declare (namespaceName name : String) (kind : TypeKind) :
    (declare namespaceName name kind).OwnsMembers := by
  intro member impossible
  cases impossible

theorem OwnsMembers.addMembers (owns : entry.OwnsMembers) (members : List Member) :
    (entry.addMembers members).OwnsMembers := by
  intro member listed
  rw [(grows_addMembers entry members).id]
  rw [members_addMembers, List.mem_append, List.mem_map] at listed
  rcases listed with earlier | ⟨_, _, rfl⟩
  · exact owns member earlier
  · rfl

theorem OwnsMembers.addMethods (owns : entry.OwnsMembers) (methods : List Method) :
    (entry.addMethods methods).OwnsMembers := by
  intro member listed
  rw [members_addMethods] at listed
  rw [(grows_addMethods entry methods).id]
  exact owns member listed

theorem OwnsMembers.extendIf (owns : entry.OwnsMembers) (id : TypeId) (members : List Member)
    (methods : List Method) : (entry.extendIf id members methods).OwnsMembers := by
  unfold TypeEntry.extendIf
  split
  · have added := (owns.addMembers members).addMethods methods
    have same := ((grows_addMembers entry members).trans (grows_addMethods _ methods)).id
    exact fun member listed => (added member listed).trans same
  · exact owns

theorem Built.ownsMembers (built : entry.Built) : entry.OwnsMembers := by
  cases built with
  | added namespaceName name kind members methods =>
      exact ((ownsMembers_declare namespaceName name kind).addMembers members).addMethods methods
  | enumeration namespaceName name underlying values =>
      unfold TypeEntry.enumeration
      have start := ownsMembers_declare namespaceName name (.enumType underlying)
      generalize declare namespaceName name (.enumType underlying) = entry at start ⊢
      induction values generalizing entry with
      | nil => exact start
      | cons value values ih => exact ih _ (start.addMembers [_])

end TypeEntry

def InstallationStep.OwnsMembers : InstallationStep → Prop
  | extend _ _ _ => True
  | register entry => entry.OwnsMembers

namespace Catalog

variable {catalog extended : Catalog}

theorem Owned.perform {step : InstallationStep} (owned : catalog.Owned)
    (performed : catalog.perform step = .ok extended) (ownsMembers : step.OwnsMembers)
    (ownsMethods : step.OwnsMethods) : extended.Owned := by
  refine ⟨fun grown listed => ?_, perform_ownsMethods performed ownsMethods owned.methods⟩
  rcases perform_cases performed with
    ⟨changed, members, methods, rfl, _, rfl⟩ | ⟨added, rfl, _, rfl⟩
  · obtain ⟨entry, known, rfl⟩ := List.mem_map.mp listed
    exact TypeEntry.OwnsMembers.extendIf (owned.members entry known) changed members methods
  · rcases List.mem_append.mp listed with earlier | new
    · exact owned.members grown earlier
    · rw [List.mem_singleton.mp new]
      exact ownsMembers

/-- Installations keep ownership, also those that stop at a step that fails. -/
theorem Owned.install {steps : List InstallationStep} (owned : catalog.Owned)
    (own : ∀ step ∈ steps, step.OwnsMembers ∧ step.OwnsMethods) :
    (catalog.install steps).1.Owned := by
  induction steps generalizing catalog with
  | nil => exact owned
  | cons step steps ih =>
      obtain ⟨ownFirst, ownRest⟩ := List.forall_mem_cons.mp own
      unfold Catalog.install
      split
      · rename_i next performed
        exact ih (owned.perform performed ownFirst.1 ownFirst.2) ownRest
      · exact owned

theorem owned_primitives : primitives.Owned :=
  ⟨by decide +kernel, by decide +kernel⟩

theorem owned_standard (surroundings : Surroundings) : (standard surroundings).Owned := by
  refine owned_primitives.install fun step member => ?_
  refine ⟨?_, Library.steps_ownMethods surroundings member⟩
  rcases Library.steps_built surroundings member with extension | ⟨entry, rfl, built⟩
  · cases step with
    | extend => trivial
    | register => cases extension
  · exact built.ownsMembers

end Catalog

end Formula
