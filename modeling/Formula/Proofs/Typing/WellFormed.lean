import Formula.Operators.Resolution
import Formula.Proofs.Catalog.Hierarchy
import Formula.Proofs.Outcome
import Formula.Term.Basic

/-!
Well-formed trees. Every member and method is one that its receiver or some type declares, it is
given a term for each parameter, and what stands where a type is expected has this type or is of
a reference type that can be used as it.
-/

namespace Formula

namespace Term

def children : Term → List Term
  | constant _ _ | parameter _ _ | staticMember _ => []
  | instanceMember operand _ | convert operand _ | convertBy _ operand _ | unary _ operand _
  | unaryBy _ _ operand | lengthOf operand => [operand]
  | index receiver _ arguments | instanceCall receiver _ arguments => receiver :: arguments
  | staticCall _ arguments | newArray _ arguments => arguments
  | binary _ left right _ | binaryBy _ _ left right | coalesce left right
  | elementAt left right => [left, right]
  | conditional test whenTrue whenFalse => [test, whenTrue, whenFalse]

inductive Every (condition : Term → Prop) : Term → Prop
  | intro {term : Term} (node : condition term)
      (inside : ∀ child ∈ term.children, Every condition child) : Every condition term

inductive Any (condition : Term → Prop) : Term → Prop
  | here {term : Term} (node : condition term) : Any condition term
  | inside {term child : Term} (member : child ∈ term.children) (found : Any condition child) :
      Any condition term

theorem Every.node {condition : Term → Prop} {term : Term} (every : Every condition term) :
    condition term := by
  cases every with
  | intro node _ => exact node

theorem Every.child {condition : Term → Prop} {term child : Term} (every : Every condition term)
    (member : child ∈ term.children) : Every condition child := by
  cases every with
  | intro _ inside => exact inside child member

theorem Every.mono {condition weaker : Term → Prop} {term : Term}
    (every : Every condition term) (implies : ∀ node, condition node → weaker node) :
    Every weaker term := by
  induction every with
  | intro node _ ih => exact .intro (implies _ node) ih

end Term

namespace Catalog

variable (catalog : Catalog)

/-- Whether what has one type may stand where another is expected. -/
def Serves (source target : DataType) : Prop :=
  source = target ∨ catalog.StepsUp source target

/-- One term for every parameter, of a type that serves. -/
def Passes (parameters : List Parameter) (arguments : List Term) : Prop :=
  List.Forall₂ (fun argument parameter => catalog.Serves argument.type parameter.type) arguments
    parameters

def DeclaresMember (type : DataType) (isStatic : Bool) (member : Member) : Prop :=
  member.isStatic = isStatic ∧
    ∃ entry ∈ catalog.declaringEntries type isStatic, member ∈ entry.members

def DeclaresMethod (type : DataType) (isStatic : Bool) (method : Method) : Prop :=
  method.isStatic = isStatic ∧
    ∃ entry ∈ catalog.declaringEntries type isStatic, method ∈ entry.methods

/-- What a node has to be next to the terms right below it. What constants and receivers may be
is left open. -/
def NodeFits (constant : Value → DataType → Prop) (receiver : String → DataType → Prop) :
    Term → Prop
  | .constant value type => constant value type
  | .parameter name type => receiver name type
  | .staticMember member =>
      (∃ owner, catalog.DeclaresMember owner true member) ∧ member.parameters = []
  | .instanceMember target member =>
      catalog.DeclaresMember target.type false member ∧ member.parameters = []
  | .index target indexer arguments =>
      catalog.DeclaresMember target.type false indexer ∧
        catalog.Passes indexer.parameters arguments
  | .staticCall method arguments =>
      (∃ owner, catalog.DeclaresMethod owner true method) ∧
        catalog.Passes method.parameters arguments
  | .instanceCall target method arguments =>
      catalog.DeclaresMethod target.type false method ∧
        catalog.Passes method.parameters arguments
  | .convert operand target => (catalog.explicitConversion? operand.type target).isSome = true
  | .convertBy method operand target =>
      (∃ owner, catalog.DeclaresMethod owner true method) ∧
        catalog.Passes method.parameters [operand] ∧ method.result = target
  | .unary operator operand type =>
      catalog.resolveUnary operator operand.type = .ok (some (.builtin type))
  | .unaryBy method _ operand =>
      (∃ owner, catalog.DeclaresMethod owner true method) ∧
        catalog.Passes method.parameters [operand]
  | .binary operator left right type =>
      catalog.resolveBinary operator left.type right.type = .ok (some (.builtin type))
  | .binaryBy method _ left right =>
      (∃ owner, catalog.DeclaresMethod owner true method) ∧
        catalog.Passes method.parameters [left, right]
  | .coalesce left right => catalog.Serves right.type left.type
  | .conditional test whenTrue whenFalse =>
      catalog.Serves test.type .boolean ∧ whenTrue.type = whenFalse.type
  | .elementAt array position => array.type.isArray = true ∧ position.type = .int32
  | .lengthOf array =>
      ∃ member, catalog.DeclaresMember array.type false member ∧ member.owner = .array
  | .newArray itemType items => ∀ item ∈ items, catalog.Serves item.type itemType

def WellFormed (constant : Value → DataType → Prop) (receiver : String → DataType → Prop)
    (term : Term) : Prop :=
  term.Every (catalog.NodeFits constant receiver)

variable {catalog}

theorem Serves.refl (type : DataType) : catalog.Serves type type :=
  .inl rfl

end Catalog

end Formula
