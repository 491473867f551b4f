import Formula.Scope
import Formula.Typing.Arguments

/-!
Names, members, calls and indexing on typed terms. A name is that of a type before it is that
of a member. A member of a function type is called through the method `Invoke`.
-/

namespace Formula

inductive Symbol where
  | type (type : DataType)
  | value (term : Term)

namespace Symbol

def split : Symbol → DataType × Bool × Option Term
  | type owner => (owner, true, none)
  | value term => (term.type, false, some term)

end Symbol

namespace Scope

def symbol? (scope : Scope) (name : String) : Typing (Option Symbol) := do
  match scope.typeNamed? name with
  | some type => return some (.type type)
  | none =>
      match ← scope.bindMember none name true with
      | none => return none
      | some member =>
          let receiver ← scope.receiverFor member.isStatic name
          return some (.value (.readMember receiver member))

def symbol (scope : Scope) (name : String) : Typing Symbol := do
  match ← scope.symbol? name with
  | some symbol => return symbol
  | none => throw (.unresolvedSymbol name)

def referenceTerm (scope : Scope) (name : String) : Typing Term := do
  match ← scope.symbol name with
  | .value term => return term
  | .type _ => throw (.typeNotValue name)

def memberTerm (scope : Scope) (target : Symbol) (name : String) : Typing Term := do
  let (owner, isStatic, receiver) := target.split
  match ← scope.bindMember (some owner) name isStatic with
  | some member => return .readMember receiver member
  | none => throw (.unresolvedSymbol name)

def finishCall (scope : Scope) (receiver : Option Term) (method : Method)
    (arguments : List Term) : Typing Term := do
  return .callMethod receiver method
    (← scope.catalog.adaptArguments method.parameters arguments)

def invoke (scope : Scope) (callee : String) (function : Term)
    (arguments : List Term) : Typing Term := do
  match ← scope.bindMethod (some function.type) "Invoke" (arguments.map Term.type) false with
  | some method => scope.finishCall (some function) method arguments
  | none => throw (.methodUnresolved callee)

def callOn (scope : Scope) (callee : String) (target : Symbol) (name : String)
    (arguments : List Term) : Typing Term := do
  let (owner, isStatic, receiver) := target.split
  match ← scope.bindMember (some owner) name isStatic with
  | some member =>
      if scope.catalog.isDelegate member.type then
        scope.invoke callee (.readMember receiver member) arguments
      else throw (.notInvocable name)
  | none =>
      match ← scope.bindMethod (some owner) name (arguments.map Term.type) isStatic with
      | some method => scope.finishCall receiver method arguments
      | none => throw (.unresolvedSymbol name)

def callNamed (scope : Scope) (name : String) (arguments : List Term) : Typing Term := do
  match ← scope.symbol? name with
  | some (.value term) =>
      if scope.catalog.isDelegate term.type then scope.invoke name term arguments
      else throw (.notInvocable name)
  | some (.type _) => throw (.notInvocable name)
  | none =>
      match ← scope.bindMethod none name (arguments.map Term.type) true with
      | some method =>
          scope.finishCall (← scope.receiverFor method.isStatic name) method arguments
      | none => throw (.unresolvedSymbol name)

end Scope

namespace Catalog

/-- An array takes one index, as a plain integer. -/
def arrayElement (catalog : Catalog) (array : Term) : List Term → Typing Term
  | [position] =>
      let source := position.type
      if source == .int32 then .ok (.elementAt array position)
      else if source.widensTo .int32 then .ok (.elementAt array (.convert position .int32))
      else
        match catalog.implicitOperator? source .int32 with
        | some method => .ok (.elementAt array (.convertBy method position .int32))
        | none => .error (catalog.noConversion source .int32)
  | _ => .error .indexCount

def indexTerm (catalog : Catalog) (target : Term) (arguments : List Term) : Typing Term :=
  if target.type.isArray then catalog.arrayElement target arguments
  else
    let indexers := catalog.indexers target.type
    if indexers.isEmpty then .error (.notIndexable (catalog.qualifiedName target.type))
    else
      match catalog.resolve (indexers.map Member.signature) (arguments.map Term.type) with
      | .chosen index _ =>
          match indexers[index]? with
          | some indexer => do
              return .index target indexer
                (← catalog.adaptArguments indexer.parameters arguments)
          | none => .error .argumentMismatch
      | .noMatch => .error (.ambiguousAmong (indexers.map catalog.memberLine))
      | .ambiguous tied =>
          .error (.ambiguousAmong (tied.filterMap fun index =>
            indexers[index]?.map catalog.memberLine))

/-- Both branches must have one type; only the test is converted. -/
def conditionalTerm (catalog : Catalog) (test whenTrue whenFalse : Term) : Typing Term := do
  let test ← catalog.requireImplicit test .boolean
  if whenTrue.type == whenFalse.type then return .conditional test whenTrue whenFalse
  else
    throw (.branchTypes (catalog.qualifiedName whenTrue.type)
      (catalog.qualifiedName whenFalse.type))

end Catalog

end Formula
