import Formula.Proofs.Typing.Preparation

/-!
What an expression takes from the imports of its scope: the meanings of the names that stand in it
on their own. Everything else that building looks up has an owner. So a type can be imported without
any effect on expressions that mention neither the type nor one of its static members or methods.
-/

namespace Formula

namespace Expr

mutual

/-- The names looked up without an owner: references that are no members of a target, and the
types of casts. -/
def bareNames : Expr → List String
  | reference name => [name]
  | literal _ => []
  | binary _ left right => bareNames left ++ bareNames right
  | unary _ _ operand => bareNames operand
  | cast typeName operand => typeName :: bareNames operand
  | call callee arguments => bareNames callee ++ bareNamesAll arguments
  | index target arguments => bareNames target ++ bareNamesAll arguments
  | member target _ => bareNames target
  | conditional test whenTrue whenFalse =>
      bareNames test ++ (bareNames whenTrue ++ bareNames whenFalse)
  | parenthesized inner => bareNames inner

def bareNamesAll : List Expr → List String
  | [] => []
  | expr :: exprs => bareNames expr ++ bareNamesAll exprs

end

end Expr

/-- The name is that of the type or of a static member or method of it, when case is ignored. -/
def TypeEntry.GoesBy (entry : TypeEntry) (name : String) : Prop :=
  Text.lower name = Text.lower entry.name ∨
    (∃ member ∈ entry.members, member.isStatic = true ∧ member.isNamed name = true) ∨
    ∃ method ∈ entry.methods, method.isStatic = true ∧ method.isNamed name = true

instance (entry : TypeEntry) (name : String) : Decidable (entry.GoesBy name) :=
  inferInstanceAs (Decidable (_ ∨ _ ∨ _))

namespace Catalog

variable {catalog : Catalog} {id : TypeId} {entry : TypeEntry}

theorem declaringEntries_static (found : catalog.find? id = some entry) :
    catalog.declaringEntries entry.type true = [entry] := by
  have own : catalog.entryFor? entry.type = some entry := find?_id found
  unfold declaringEntries
  rw [own]
  rfl

theorem members_unnamed (found : catalog.find? id = some entry) {name : String}
    (unnamed : ¬entry.GoesBy name) : catalog.members entry.type name true = [] := by
  unfold members
  rw [declaringEntries_static found, List.flatMap_singleton, List.filter_eq_nil_iff.mpr]
  · rfl
  · intro member declared answers
    simp only [Bool.and_eq_true, beq_iff_eq] at answers
    exact unnamed (.inr (.inl ⟨member, declared, answers.1.1, answers.2⟩))

theorem methods_unnamed (found : catalog.find? id = some entry) {name : String}
    (unnamed : ¬entry.GoesBy name) : catalog.methods entry.type name true = [] := by
  unfold methods
  rw [declaringEntries_static found, List.flatMap_singleton, List.filter_eq_nil_iff.mpr]
  · rfl
  · intro method declared answers
    simp only [Bool.and_eq_true, beq_iff_eq] at answers
    exact unnamed (.inr (.inr ⟨method, declared, answers.1, answers.2⟩))

end Catalog

namespace Scope

def importing (scope : Scope) (imports : List Import) : Scope :=
  { scope with imports }

/-- Other imports give a name that stands on its own the same meaning. -/
structure Keeps (scope : Scope) (imports : List Import) (name : String) : Prop where
  type : (scope.importing imports).typeNamed? name = scope.typeNamed? name
  member : (scope.importing imports).memberOf none name true = scope.memberOf none name true
  method : ∀ arguments, (scope.importing imports).methodOf none name arguments true =
    scope.methodOf none name arguments true

variable {scope : Scope} {imports : List Import}

section Lookups

variable {name : String} (keeps : scope.Keeps imports name)

include keeps

theorem symbol?_importing : (scope.importing imports).symbol? name = scope.symbol? name := by
  have bound : (scope.importing imports).bindMember none name true =
      scope.bindMember none name true := by
    unfold bindMember
    rw [keeps.member]
    rfl
  unfold symbol?
  rw [keeps.type, bound]
  rfl

theorem symbol_importing : (scope.importing imports).symbol name = scope.symbol name := by
  unfold symbol
  rw [symbol?_importing keeps]

theorem callNamed_importing (arguments : List Term) :
    (scope.importing imports).callNamed name arguments = scope.callNamed name arguments := by
  have bound : (scope.importing imports).bindMethod none name (arguments.map Term.type) true =
      scope.bindMethod none name (arguments.map Term.type) true := by
    unfold bindMethod
    rw [keeps.method]
    rfl
  unfold callNamed
  rw [symbol?_importing keeps, bound]
  rfl

end Lookups

theorem targetSymbol_importing (target : Expr)
    (keeps : ∀ name ∈ target.bareNames, scope.Keeps imports name)
    (same : (scope.importing imports).term target = scope.term target) :
    (scope.importing imports).targetSymbol target = scope.targetSymbol target := by
  unfold targetSymbol
  cases target with
  | reference name => exact symbol_importing (keeps name (List.mem_singleton.mpr rfl))
  | _ =>
      dsimp only
      rw [same]

mutual

theorem term_importing : (expr : Expr) →
    (∀ name ∈ expr.bareNames, scope.Keeps imports name) →
      (scope.importing imports).term expr = scope.term expr
  | .reference name, keeps => by
      unfold term referenceTerm
      rw [symbol_importing (keeps name (List.mem_singleton.mpr rfl))]
  | .literal value, _ => by
      unfold term
      rfl
  | .binary token left right, keeps => by
      obtain ⟨keepsLeft, keepsRight⟩ := List.forall_mem_append.mp keeps
      unfold term
      rw [term_importing left keepsLeft, term_importing right keepsRight]
      rfl
  | .unary operator token operand, keeps => by
      unfold term
      rw [term_importing operand keeps]
      rfl
  | .cast typeName operand, keeps => by
      obtain ⟨keepsType, keepsOperand⟩ := List.forall_mem_cons.mp keeps
      unfold term
      rw [term_importing operand keepsOperand, keepsType.type]
      rfl
  | .call callee arguments, keeps => by
      obtain ⟨keepsCallee, keepsArguments⟩ := List.forall_mem_append.mp keeps
      have sameArguments := terms_importing arguments keepsArguments
      cases callee with
      | reference name =>
          have sameCall := callNamed_importing (keepsCallee name (List.mem_singleton.mpr rfl))
          unfold term
          simp only [sameArguments, sameCall]
      | member target member =>
          have sameTarget :=
            targetSymbol_importing target keepsCallee (term_importing target keepsCallee)
          rw [term_call_member, term_call_member, sameArguments, sameTarget]
          rfl
      | _ =>
          unfold term
          rw [sameArguments]
  | .index target arguments, keeps => by
      obtain ⟨keepsTarget, keepsArguments⟩ := List.forall_mem_append.mp keeps
      unfold term
      rw [term_importing target keepsTarget, terms_importing arguments keepsArguments]
      rfl
  | .member target member, keeps => by
      have sameTarget := targetSymbol_importing target keeps (term_importing target keeps)
      rw [term_member, term_member, sameTarget]
      rfl
  | .conditional test whenTrue whenFalse, keeps => by
      obtain ⟨keepsTest, keepsBranches⟩ := List.forall_mem_append.mp keeps
      obtain ⟨keepsTrue, keepsFalse⟩ := List.forall_mem_append.mp keepsBranches
      unfold term
      rw [term_importing test keepsTest, term_importing whenTrue keepsTrue,
        term_importing whenFalse keepsFalse]
      rfl
  | .parenthesized inner, keeps => by
      unfold term
      exact term_importing inner keeps

theorem terms_importing : (exprs : List Expr) →
    (∀ name ∈ Expr.bareNamesAll exprs, scope.Keeps imports name) →
      (scope.importing imports).terms exprs = scope.terms exprs
  | [], _ => by
      unfold terms
      rfl
  | expr :: exprs, keeps => by
      obtain ⟨keepsFirst, keepsRest⟩ := List.forall_mem_append.mp keeps
      unfold terms
      rw [term_importing expr keepsFirst, terms_importing exprs keepsRest]

end

theorem openTypes_added (scope : Scope) (added : Import) :
    (scope.importing (scope.imports ++ [added])).openTypes = scope.openTypes ∨
      (scope.importing (scope.imports ++ [added])).openTypes = scope.openTypes ++ [added.type] := by
  unfold openTypes importing
  dsimp only
  rw [← List.append_assoc, List.filter_append, List.map_append, List.filter_append]
  cases isOpen : added.isOpen with
  | false =>
      left
      simp [isOpen]
  | true =>
      cases known : scope.catalog.contains added.type.id with
      | false =>
          left
          simp [isOpen, known]
      | true =>
          right
          simp [isOpen, known]

/-- A lookup that finds nothing on the added type finds what it found before. -/
theorem flatMap_openTypes_added {α : Type} (scope : Scope) (added : Import)
    (find : DataType → List α) (nothing : find added.type = []) :
    (scope.importing (scope.imports ++ [added])).openTypes.flatMap find =
      scope.openTypes.flatMap find := by
  rcases openTypes_added scope added with same | more
  · rw [same]
  · rw [more, List.flatMap_append, List.flatMap_singleton, nothing, List.append_nil]

theorem keeps_added {id : TypeId} {entry : TypeEntry}
    (found : scope.catalog.find? id = some entry) (isOpen : Bool) {name : String}
    (unnamed : ¬entry.GoesBy name) :
    scope.Keeps (scope.imports ++ [⟨Text.lower entry.name, entry.type, isOpen⟩]) name := by
  constructor
  · have other : (Text.lower entry.name == Text.lower name) = false :=
      beq_eq_false_iff_ne.mpr fun same => unnamed (.inl same.symm)
    unfold typeNamed? importing
    dsimp only
    rw [← List.append_assoc, List.find?_append, List.find?_singleton, other,
      if_neg Bool.false_ne_true, Option.or_none]
  · have same := flatMap_openTypes_added scope ⟨Text.lower entry.name, entry.type, isOpen⟩
      (fun owner => scope.catalog.members owner name true)
      (Catalog.members_unnamed found unnamed)
    unfold memberOf owners
    dsimp only
    exact same ▸ rfl
  · intro arguments
    have same := flatMap_openTypes_added scope ⟨Text.lower entry.name, entry.type, isOpen⟩
      (fun owner => scope.catalog.methods owner name true)
      (Catalog.methods_unnamed found unnamed)
    exact congrArg (scope.catalog.selectMethod · arguments) same

/-- A registered type can be imported under a new name, open or not, and every expression that does
not mention it has the same tree as before, or the same error. -/
theorem term_importType {id : TypeId} {entry : TypeEntry}
    (registered : scope.catalog.find? id = some entry)
    (new : ∀ earlier ∈ scope.imports, earlier.key ≠ Text.lower entry.name) {expr : Expr}
    (unmentioned : ∀ name ∈ expr.bareNames, ¬entry.GoesBy name) (isOpen : Bool) :
    ∃ extended, scope.importType id isOpen = .ok extended ∧
      extended.term expr = scope.term expr := by
  unfold importType
  rw [registered]
  dsimp only
  by_cases builtin : isBuiltin (Text.lower entry.name) = true
  · exact ⟨scope, if_pos builtin, rfl⟩
  · refine ⟨_, if_neg builtin, ?_⟩
    rw [place_new new]
    exact term_importing expr fun name bare => keeps_added registered isOpen (unmentioned name bare)

/-- Two classes with static members: one is open and has a radius and a width, and the other has a
width and a way to grow. -/
def diskAndBox : Scope :=
  let disk : TypeEntry :=
    { id := ⟨1⟩, name := "Disk", namespaceName := "App", kind := .classType, base := some .object }
  let box : TypeEntry :=
    { id := ⟨2⟩, name := "Box", namespaceName := "App", kind := .classType, base := some .object }
  let measure (name : String) : Member := .staticProperty name .int32 (.constant (.int32 3))
  let grow : Method := .onType "Grow" [.of "amount" .int32] .int32 (.constant (.int32 4))
  { catalog := ⟨Catalog.primitives.entries ++
      [ disk.addMembers [measure "Radius", measure "Width"],
        (box.addMember (measure "Width")).addMethod grow ]⟩
    imports := [.opened "disk" ⟨1⟩] }

/-- A width that has a target is no mention of the other type that has one. -/
def radiusAndWidth : Expr :=
  .binary "+" (.reference "radius") (.member (.reference "disk") (.reference "width"))

theorem term_importType_radiusAndWidth :
    ∃ box extended, diskAndBox.catalog.find? ⟨2⟩ = some box ∧
      (∀ earlier ∈ diskAndBox.imports, earlier.key ≠ Text.lower box.name) ∧
      (∀ name ∈ radiusAndWidth.bareNames, ¬box.GoesBy name) ∧
      diskAndBox.importType ⟨2⟩ true = .ok extended ∧
      extended.term radiusAndWidth = diskAndBox.term radiusAndWidth ∧
      (diskAndBox.term radiusAndWidth).isOk = true := by
  have known : (diskAndBox.catalog.find? ⟨2⟩).any (fun box =>
      (∀ earlier ∈ diskAndBox.imports, earlier.key ≠ Text.lower box.name) ∧
        ∀ name ∈ radiusAndWidth.bareNames, ¬box.GoesBy name) = true := by
    decide +kernel
  obtain ⟨box, registered, facts⟩ := (Option.any_eq_true _ _).mp known
  obtain ⟨new, unmentioned⟩ := of_decide_eq_true facts
  obtain ⟨extended, imported, same⟩ := term_importType registered new unmentioned true
  exact ⟨box, extended, registered, new, unmentioned, imported, same, by decide +kernel⟩

end Scope

end Formula
