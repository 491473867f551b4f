import Formula.Proofs.Soundness.Expressions

/-!
Every tree that the builder makes fits together, whatever its literals and the defaults of
parameters are. The test of a conditional is a truth value, or a reference that can be used as
one; where no entry has a value type above it there is no such reference.
-/

namespace Formula

/-- A test is a truth value itself, not only something that can be used as one. -/
def Term.testsTruth : Term → Bool
  | .conditional test _ _ => test.type.isBoolean
  | _ => true

namespace Catalog

variable {catalog : Catalog}

/-- Every node of the tree fits next to the terms right below it, with nothing asked of
constants and receivers themselves. -/
def Assembles (catalog : Catalog) (tree : Term) : Prop :=
  catalog.WellFormed (fun _ _ => True) (fun _ _ => True) tree

theorem constants_any : catalog.Constants fun _ _ => True where
  ofNull _ _ := trivial
  ofLeast _ := trivial
  ofDefault _ _ _ _ _ _ := by
    split <;> trivial

theorem Serves.eq_ofScalar (holds : catalog.HoldsPrimitives)
    (references : catalog.ReferencesAbove) {source : DataType} {kind : Scalar}
    (serves : catalog.Serves source (.ofScalar kind)) : source = .ofScalar kind := by
  rcases serves with same | step
  · exact same
  · rcases step.target_cases holds references.noValuesAbove with isReference | ⟨marked, _⟩
    · rw [isReferenceType_ofScalar] at isReference
      cases isReference
    · cases marked

theorem testsTruth_of_nodeFits (holds : catalog.HoldsPrimitives)
    (references : catalog.ReferencesAbove) {constant : Value → DataType → Prop}
    {receiver : String → DataType → Prop} {node : Term}
    (fits : catalog.NodeFits constant receiver node) : node.testsTruth = true := by
  cases node with
  | conditional test whenTrue whenFalse =>
      have serves : catalog.Serves test.type (.ofScalar .boolean) := fits.1
      exact beq_iff_eq.mpr (serves.eq_ofScalar holds references)
  | _ => rfl

/-- A class of objects that pass for truth values. -/
def flagged : Catalog :=
  let flag : TypeEntry :=
    { id := ⟨1⟩, name := "Flag", namespaceName := "App", kind := .classType,
      base := some .boolean }
  ⟨primitives.entries ++ [flag.addMember (.property "Size" .int32 (.constant (.int32 0)))]⟩

theorem holdsPrimitives_flagged : flagged.HoldsPrimitives := by
  unfold HoldsPrimitives
  decide +kernel

theorem enumeratesIntegers_flagged : flagged.EnumeratesIntegers :=
  .of_entries (by decide +kernel)

end Catalog

namespace Scope

variable {scope : Scope}

/-- What the builder makes of an expression fits together, on top of a receiver that does. -/
theorem term_assembles (enumerates : scope.catalog.EnumeratesIntegers)
    (receiverAssembles : ∀ target, scope.receiver = some target →
      scope.catalog.Assembles target)
    {expr : Expr} {tree : Term} (built : scope.term expr = .ok tree) :
    scope.catalog.Assembles tree ∧
      (scope.catalog.HoldsPrimitives → scope.catalog.ReferencesAbove →
        tree.Every fun node => node.testsTruth = true) := by
  have literals : expr.LiteralsFit fun _ _ => True := fun _ _ => trivial
  have assembles : scope.catalog.Assembles tree :=
    term_wellFormed Catalog.constants_any enumerates receiverAssembles expr literals built
  refine ⟨assembles, fun holds references => ?_⟩
  exact assembles.mono fun _ => Catalog.testsTruth_of_nodeFits holds references

def onText : Scope :=
  ⟨.primitives, [], some (.parameter "it" .string)⟩

def chosenText : Expr :=
  .conditional (.binary "<" (.literal (.character 'a')) (.literal (.int64 98)))
    (.cast "string" (.literal .null)) (.literal (.text (.given 1) "b"))

theorem term_assembles_chosenText :
    ∃ tree, onText.term chosenText = .ok tree ∧ onText.catalog.Assembles tree ∧
      tree.Every fun node => node.testsTruth = true := by
  have enumerates : onText.catalog.EnumeratesIntegers :=
    Catalog.EnumeratesIntegers.of_entries (by decide +kernel)
  have receiverAssembles : ∀ target, onText.receiver = some target →
      onText.catalog.Assembles target := by
    rintro target same
    cases same
    exact .intro trivial fun _ impossible => absurd impossible List.not_mem_nil
  have references : onText.catalog.ReferencesAbove :=
    Catalog.flat_primitives.referencesAbove Catalog.holdsPrimitives_primitives
  have checked : (onText.term chosenText).toOption.any (fun tree => tree.type = .string) =
      true := by
    decide +kernel
  obtain ⟨tree, built, _⟩ := ok_of_any checked
  obtain ⟨assembles, testsTruth⟩ := term_assembles enumerates receiverAssembles built
  exact ⟨tree, built, assembles, testsTruth Catalog.holdsPrimitives_primitives references⟩

def misconverts (catalog : Catalog) : Term → Bool
  | .convert operand target => (catalog.explicitConversion? operand.type target).isNone
  | _ => false

theorem not_assembles_of_misconverts {catalog : Catalog} {tree : Term}
    (misfit : tree.children.any (misconverts catalog) = true) : ¬catalog.Assembles tree := by
  intro assembles
  obtain ⟨child, member, misfit⟩ := List.any_eq_true.mp misfit
  have fits := (assembles.child member).node
  cases child with
  | convert operand target =>
      have converts : (catalog.explicitConversion? operand.type target).isSome = true := fits
      rw [misconverts, ← Option.not_isSome, converts] at misfit
      cases misfit
  | _ => cases misfit

def onMisfit : Scope :=
  ⟨.flagged, [], some (.convert (.ofValue (.int32 1)) (.plain ⟨1⟩))⟩

def flagTest : Expr :=
  .conditional (.literal (.object (.given 1) ⟨1⟩ (.fields []))) (.literal (.int32 1))
    (.literal (.int32 2))

/-- An object under the truth values is a test as it is, and a receiver is taken over as it is,
whether or not it fits together. -/
theorem unfit_flagged :
    Catalog.flagged.HoldsPrimitives ∧ Catalog.flagged.EnumeratesIntegers ∧
      (∃ tree, (Scope.mk .flagged [] none).term flagTest = .ok tree ∧
        ¬tree.Every fun node => node.testsTruth = true) ∧
      ∃ tree, onMisfit.term (.reference "Size") = .ok tree ∧ ¬Catalog.flagged.Assembles tree := by
  refine ⟨Catalog.holdsPrimitives_flagged, Catalog.enumeratesIntegers_flagged, ?_, ?_⟩
  · have checked : ((Scope.mk .flagged [] none).term flagTest).toOption.any
        (fun tree => !tree.testsTruth) = true := by
      decide +kernel
    obtain ⟨tree, built, untrue⟩ := ok_of_any checked
    refine ⟨tree, built, fun every => ?_⟩
    rw [every.node] at untrue
    cases untrue
  · have checked : (onMisfit.term (.reference "Size")).toOption.any
        (fun tree => tree.children.any (misconverts .flagged)) = true := by
      decide +kernel
    obtain ⟨tree, built, misfit⟩ := ok_of_any checked
    exact ⟨tree, built, not_assembles_of_misconverts misfit⟩

end Scope

end Formula
