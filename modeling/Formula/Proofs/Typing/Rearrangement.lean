import Mathlib.Data.List.Perm.Basic
import Formula.Proofs.Catalog.Rearrangement
import Formula.Proofs.Overload.Reordering
import Formula.Proofs.Typing.Trees

/-!
Trees do not depend on the order in which a catalog holds its types, members and methods, nor on
the order of imports under different names. Whatever the builder asks for is answered alike, and
candidates are only ever looked at together.
-/

namespace Formula

namespace Catalog

/-- Calls the best of a list of static methods for arguments passed as some types. -/
def callAmong (catalog : Catalog) (methods : List Method) (arguments : List Term)
    (types : List DataType) (unresolved : TypingError) : Typing Term :=
  match catalog.resolve (methods.map Method.signature) types with
  | .chosen index _ =>
      match methods[index]? with
      | some method => do
          return .staticCall method (← catalog.adaptArguments method.parameters arguments)
      | none => throw unresolved
  | _ => throw unresolved

theorem callAmong_perm (catalog : Catalog) {methods others : List Method}
    (perm : methods.Perm others) (arguments : List Term) (types : List DataType)
    (unresolved : TypingError) :
    catalog.callAmong methods arguments types unresolved =
      catalog.callAmong others arguments types unresolved := by
  have alike := catalog.resolve_perm perm Method.signature types
  unfold callAmong
  revert alike
  generalize catalog.resolve (methods.map Method.signature) types = outcome
  generalize catalog.resolve (others.map Method.signature) types = other
  intro alike
  cases alike with
  | chosen found => simp only [found]
  | noMatch => rfl
  | ambiguous tied => rfl

end Catalog

namespace Catalog.Rearranges

variable {first second : Catalog} (same : first.Rearranges second)

include same

theorem isCompatible : first.isCompatible = second.isCompatible := by
  funext parameter argument
  unfold Catalog.isCompatible
  rw [same.isAssignable]

theorem areCompatible : first.areCompatible = second.areCompatible := by
  funext parameters arguments
  unfold Catalog.areCompatible
  rw [same.isCompatible]

theorem applicableForm? : first.applicableForm? = second.applicableForm? := by
  funext parameters arguments
  unfold Catalog.applicableForm? Catalog.formByShape?
  rw [same.areCompatible, same.isCompatible, same.isAssignable]

theorem vote? : first.vote? = second.vote? := by
  funext one other position argument
  unfold Catalog.vote? Catalog.nearerType
  rw [same.isAssignable]

theorem compareCandidates : first.compareCandidates = second.compareCandidates := by
  funext one other arguments
  unfold Catalog.compareCandidates Catalog.compareParameters
  rw [same.vote?, same.depth]

theorem beats : first.beats = second.beats := by
  funext arguments one other
  unfold Catalog.beats
  rw [same.compareCandidates]

theorem resolve : first.resolve = second.resolve := by
  funext candidates arguments
  unfold Catalog.resolve Catalog.applicable Catalog.champion Catalog.tied
  rw [same.applicableForm?, same.beats]

theorem selectMethod {methods others : List Method} (perm : methods.Perm others)
    (arguments : List DataType) :
    first.selectMethod methods arguments = second.selectMethod others arguments := by
  have alike := second.resolve_perm perm Method.signature arguments
  unfold Catalog.selectMethod
  rw [same.resolve, same.methodLine]
  revert alike
  generalize second.resolve (methods.map Method.signature) arguments = outcome
  generalize second.resolve (others.map Method.signature) arguments = other
  intro alike
  cases alike with
  | chosen found => exact congrArg Except.ok found
  | noMatch => rfl
  | ambiguous tied =>
      have lines := tied.map second.methodLine
      rw [List.map_filterMap, List.map_filterMap] at lines
      exact congrArg Except.error (TypingError.ambiguousAmong_perm lines)

theorem operatorOwners : first.operatorOwners = second.operatorOwners := by
  funext operands
  unfold Catalog.operatorOwners
  simp only [same.entryFor?_id]

theorem declaredOperator : first.declaredOperator = second.declaredOperator := by
  funext name operands
  unfold Catalog.declaredOperator
  rw [same.operatorOwners]
  refine same.selectMethod ?_ operands
  exact List.Perm.flatMap_left _ fun owner _ => (same.methods owner name true).filter _

theorem resolveBinary : first.resolveBinary = second.resolveBinary := by
  funext operator left right
  unfold Catalog.resolveBinary Catalog.builtinBinary? Catalog.areComparable
  rw [same.declaredOperator, same.isReferenceType, same.isAssignable]

theorem resolveUnary : first.resolveUnary = second.resolveUnary := by
  funext operator operand
  unfold Catalog.resolveUnary
  rw [same.declaredOperator]

theorem implicitly? : first.implicitly? = second.implicitly? := by
  funext term target
  unfold Catalog.implicitly?
  rw [same.acceptsNull, same.implicitConversion?]

theorem noConversion : first.noConversion = second.noConversion := by
  funext source target
  unfold Catalog.noConversion
  rw [same.qualifiedName]

theorem requireImplicit : first.requireImplicit = second.requireImplicit := by
  funext term target
  unfold Catalog.requireImplicit
  rw [same.implicitly?, same.noConversion]

theorem passArgument : first.passArgument = second.passArgument := by
  funext target term
  unfold Catalog.passArgument
  rw [same.implicitly?, same.explicitConversion?, same.noConversion]

theorem omittedArgument : first.omittedArgument = second.omittedArgument := by
  funext parameter
  unfold Catalog.omittedArgument
  rw [same.passArgument]

theorem passAll : first.passAll = second.passAll := by
  funext parameters
  induction parameters with
  | nil =>
      funext arguments
      cases arguments with
      | nil => rfl
      | cons argument arguments => rfl
  | cons parameter parameters ih =>
      funext arguments
      cases arguments with
      | nil =>
          unfold Catalog.passAll
          rw [same.omittedArgument, ih]
      | cons argument arguments =>
          unfold Catalog.passAll
          rw [same.passArgument, ih]

theorem adaptArguments : first.adaptArguments = second.adaptArguments := by
  funext parameters arguments
  unfold Catalog.adaptArguments
  rw [same.applicableForm?, same.passAll, same.passArgument]

theorem applyUnary : first.applyUnary = second.applyUnary := by
  funext operator token operand
  unfold Catalog.applyUnary
  rw [same.qualifiedName, same.resolveUnary, same.adaptArguments]

theorem unaryTerm : first.unaryTerm = second.unaryTerm := by
  funext operator token operand
  unfold Catalog.unaryTerm
  rw [same.underlying?, same.applyUnary]

theorem castTerm : first.castTerm = second.castTerm := by
  funext name target operand
  unfold Catalog.castTerm
  rw [same.isReferenceType, same.isAssignable, same.acceptsNull, same.explicitConversion?,
    same.qualifiedName]

theorem applyBinary : first.applyBinary = second.applyBinary := by
  funext refusal operator left right
  unfold Catalog.applyBinary
  rw [same.resolveBinary, same.adaptArguments]

theorem shiftTerm : first.shiftTerm = second.shiftTerm := by
  funext refusal operator left right
  unfold Catalog.shiftTerm
  rw [same.applyBinary]

theorem promotedTerm : first.promotedTerm = second.promotedTerm := by
  funext refusal operator left right
  unfold Catalog.promotedTerm
  rw [same.applyBinary]

theorem operatorTerm : first.operatorTerm = second.operatorTerm := by
  funext refusal operator left right
  unfold Catalog.operatorTerm Catalog.retypeNulls Catalog.enumeration? Catalog.enumerationTerm
  rw [same.acceptsNull, same.underlying?, same.shiftTerm, same.promotedTerm]

theorem coalesceTerm : first.coalesceTerm = second.coalesceTerm := by
  funext refusal left right
  unfold Catalog.coalesceTerm
  rw [same.isValueType, same.implicitly?]

theorem concatTerm : first.concatTerm = second.concatTerm := by
  funext left right
  unfold Catalog.concatTerm
  rw [same.isValueType, same.resolve, same.adaptArguments]
  exact second.callAmong_perm (same.methods .string Catalog.concatName true) _ _ _

theorem binaryTerm : first.binaryTerm = second.binaryTerm := by
  funext operator left right
  unfold Catalog.binaryTerm
  rw [same.qualifiedName, same.requireImplicit, same.applyBinary, same.coalesceTerm,
    same.concatTerm, same.operatorTerm]

theorem arrayElement : first.arrayElement = second.arrayElement := by
  funext array arguments
  unfold Catalog.arrayElement
  rw [same.implicitOperator?, same.noConversion]

theorem indexTerm : first.indexTerm = second.indexTerm := by
  funext target arguments
  unfold Catalog.indexTerm
  rw [same.arrayElement, same.qualifiedName, same.resolve, same.adaptArguments, same.memberLine]
  have perm := same.indexers target.type
  have alike := second.resolve_perm perm Member.signature (arguments.map Term.type)
  have empty : (first.indexers target.type).isEmpty = (second.indexers target.type).isEmpty := by
    rw [Bool.eq_iff_iff, List.isEmpty_iff, List.isEmpty_iff]
    exact ⟨fun none => (none ▸ perm).nil_eq.symm, fun none => (none ▸ perm).eq_nil⟩
  dsimp only
  rw [empty]
  revert alike
  generalize second.resolve ((first.indexers target.type).map Member.signature) _ = outcome
  generalize second.resolve ((second.indexers target.type).map Member.signature) _ = other
  intro alike
  cases alike with
  | chosen found => simp only [found]
  | noMatch => rw [TypingError.ambiguousAmong_perm (perm.map second.memberLine)]
  | ambiguous tied =>
      have lines := tied.map second.memberLine
      rw [List.map_filterMap, List.map_filterMap] at lines
      dsimp only
      rw [TypingError.ambiguousAmong_perm lines]

theorem conditionalTerm : first.conditionalTerm = second.conditionalTerm := by
  funext test whenTrue whenFalse
  unfold Catalog.conditionalTerm
  rw [same.requireImplicit, same.qualifiedName]

end Catalog.Rearranges

namespace Scope

/-- Scopes over catalogs with the same types, with the same imports under different names. -/
structure Rearranges (first second : Scope) : Prop where
  catalog : first.catalog.Rearranges second.catalog
  imports : first.imports.Perm second.imports
  apart : (first.imports.map Import.key).Nodup
  receiver : first.receiver = second.receiver

namespace Rearranges

variable {first second : Scope} (same : first.Rearranges second)

include same

theorem openTypes : first.openTypes.Perm second.openTypes := by
  unfold Scope.openTypes
  rw [same.catalog.contains]
  exact (((same.imports.append_left _).filter _).map _).filter _

theorem typeNamed? : first.typeNamed? = second.typeNamed? := by
  funext name
  unfold Scope.typeNamed?
  rw [same.catalog.contains]
  dsimp only
  have found : first.imports.find? (fun known => known.key == Text.lower name) =
      second.imports.find? fun known => known.key == Text.lower name := by
    refine find?_of_perm same.imports fun one isOne other isOther named namedOther => ?_
    rw [beq_iff_eq] at named namedOther
    exact List.inj_on_of_nodup_map same.apart isOne isOther (named.trans namedOther.symm)
  rw [List.find?_append, List.find?_append, found]

theorem owners (owner : Option DataType) : (first.owners owner).Perm (second.owners owner) := by
  cases owner with
  | none => exact same.openTypes
  | some owner => exact .refl [owner]

theorem memberOf : first.memberOf = second.memberOf := by
  funext owner name isStatic
  have perm : ((first.owners owner).flatMap fun owner =>
        first.catalog.members owner name isStatic).Perm
      ((second.owners owner).flatMap fun owner =>
        second.catalog.members owner name isStatic) :=
    ((same.owners owner).flatMap_right _).trans
      (List.Perm.flatMap_left _ fun owner _ => same.catalog.members owner name isStatic)
  unfold Scope.memberOf
  rw [same.catalog.memberLine]
  revert perm
  generalize (first.owners owner).flatMap _ = found
  generalize (second.owners owner).flatMap _ = others
  intro perm
  rcases found with _ | ⟨one, _ | ⟨two, rest⟩⟩
  · rw [← perm.nil_eq]
  · rw [← List.singleton_perm.mp perm]
  · have lengths := perm.length_eq
    rcases others with _ | ⟨other, _ | ⟨another, others⟩⟩
    · cases lengths
    · cases lengths
    · exact congrArg Except.error (TypingError.ambiguousAmong_perm (perm.map _))

theorem methodOf : first.methodOf = second.methodOf := by
  funext owner name arguments isStatic
  unfold Scope.methodOf
  refine same.catalog.selectMethod ?_ arguments
  refine ((same.owners owner).flatMap_right _).trans ?_
  exact List.Perm.flatMap_left _ fun owner _ => same.catalog.methods owner name isStatic

theorem bindMember : first.bindMember = second.bindMember := by
  funext owner name isStatic
  unfold Scope.bindMember Scope.receiverType?
  rw [same.memberOf, same.receiver]

theorem bindMethod : first.bindMethod = second.bindMethod := by
  funext owner name arguments isStatic
  unfold Scope.bindMethod Scope.receiverType?
  rw [same.methodOf, same.receiver]

theorem receiverFor : first.receiverFor = second.receiverFor := by
  funext isStatic name
  unfold Scope.receiverFor
  rw [same.receiver]

theorem symbol? : first.symbol? = second.symbol? := by
  funext name
  unfold Scope.symbol?
  rw [same.typeNamed?, same.bindMember, same.receiverFor]

theorem symbol : first.symbol = second.symbol := by
  funext name
  unfold Scope.symbol
  rw [same.symbol?]

theorem referenceTerm : first.referenceTerm = second.referenceTerm := by
  funext name
  unfold Scope.referenceTerm
  rw [same.symbol]

theorem memberTerm : first.memberTerm = second.memberTerm := by
  funext target name
  unfold Scope.memberTerm
  rw [same.bindMember]

theorem targetSymbol {target : Expr} (sameTerm : first.term target = second.term target) :
    first.targetSymbol target = second.targetSymbol target := by
  unfold Scope.targetSymbol
  cases target with
  | reference name => exact congrFun same.symbol name
  | _ =>
      dsimp only
      rw [sameTerm]

theorem finishCall : first.finishCall = second.finishCall := by
  funext receiver method arguments
  unfold Scope.finishCall
  rw [same.catalog.adaptArguments]

theorem invoke : first.invoke = second.invoke := by
  funext callee function arguments
  unfold Scope.invoke
  rw [same.bindMethod, same.finishCall]

theorem callOn : first.callOn = second.callOn := by
  funext callee target name arguments
  unfold Scope.callOn
  rw [same.bindMember, same.catalog.isDelegate, same.invoke, same.bindMethod, same.finishCall]

theorem callNamed : first.callNamed = second.callNamed := by
  funext name arguments
  unfold Scope.callNamed
  rw [same.symbol?, same.catalog.isDelegate, same.invoke, same.bindMethod, same.finishCall,
    same.receiverFor]

end Rearranges

variable {first second : Scope}

mutual

/-- The builder makes the same tree, or fails for the same reason. -/
theorem term_rearranged (same : first.Rearranges second) :
    (expr : Expr) → first.term expr = second.term expr
  | .reference name => by
      unfold term
      rw [same.referenceTerm]
  | .literal value => rfl
  | .binary token left right => by
      unfold term
      rw [term_rearranged same left, term_rearranged same right, same.catalog.binaryTerm]
  | .unary operator token operand => by
      unfold term
      rw [term_rearranged same operand, same.catalog.unaryTerm]
  | .cast typeName operand => by
      unfold term
      rw [term_rearranged same operand, same.typeNamed?, same.catalog.castTerm]
  | .call callee arguments => by
      have sameArguments := terms_rearranged same arguments
      cases callee with
      | reference name =>
          unfold term
          rw [sameArguments, same.callNamed]
      | member target member =>
          have sameTarget := same.targetSymbol (term_rearranged same target)
          rw [term_call_member, term_call_member, sameArguments, sameTarget, same.callOn]
      | _ =>
          unfold term
          rw [sameArguments]
  | .index target arguments => by
      unfold term
      rw [term_rearranged same target, terms_rearranged same arguments, same.catalog.indexTerm]
  | .member target member => by
      have sameTarget := same.targetSymbol (term_rearranged same target)
      rw [term_member, term_member, sameTarget, same.memberTerm]
  | .conditional test whenTrue whenFalse => by
      unfold term
      rw [term_rearranged same test, term_rearranged same whenTrue, term_rearranged same whenFalse,
        same.catalog.conditionalTerm]
  | .parenthesized inner => by
      unfold term
      exact term_rearranged same inner

theorem terms_rearranged (same : first.Rearranges second) :
    (exprs : List Expr) → first.terms exprs = second.terms exprs
  | [] => rfl
  | expr :: exprs => by
      unfold terms
      rw [term_rearranged same expr, terms_rearranged same exprs]

end

end Scope

end Formula
