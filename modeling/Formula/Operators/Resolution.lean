import Formula.Catalog.Lookup
import Formula.Catalog.Names
import Formula.Operators.Builtin
import Formula.Overload.Ranking
import Formula.TypingError

/-!
What carries out an operator on operands of given types: a method that one of the types
declares for it, or else the operation built in for scalars, for references, or for scalars
with null added.
-/

namespace Formula

inductive OperatorMeaning where
  | builtin (result : DataType)
  | method (method : Method)

namespace OperatorMeaning

def result : OperatorMeaning → DataType
  | builtin type => type
  | method declared => declared.result

end OperatorMeaning

namespace Catalog

def selectMethod (catalog : Catalog) (methods : List Method) (arguments : List DataType) :
    Except TypingError (Option Method) :=
  match catalog.resolve (methods.map Method.signature) arguments with
  | .chosen index _ => .ok methods[index]?
  | .noMatch => .ok none
  | .ambiguous tied =>
      .error (.ambiguousAmong (tied.filterMap fun index =>
        methods[index]?.map catalog.methodLine))

/-- The types among the operands whose entries may declare operators, one for each entry. -/
def operatorOwners (catalog : Catalog) (operands : List DataType) : List DataType :=
  operands.foldl (fun owners operand =>
    let entryId := (catalog.entryFor? operand).map TypeEntry.id
    if operand.scalar?.isSome ||
        owners.any fun owner => (catalog.entryFor? owner).map TypeEntry.id == entryId then
      owners
    else owners ++ [operand]) []

def declaredOperator (catalog : Catalog) (name : String) (operands : List DataType) :
    Except TypingError (Option Method) :=
  let methods := (catalog.operatorOwners operands).flatMap fun owner =>
    (catalog.methods owner name true).filter fun method =>
      method.parameters.length == operands.length
  catalog.selectMethod methods operands

def areComparable (catalog : Catalog) (left right : DataType) : Bool :=
  catalog.isReferenceType left && catalog.isReferenceType right &&
    (catalog.isAssignable left right || catalog.isAssignable right left)

def builtinBinary? (catalog : Catalog) (operator : BinaryOperator)
    (left right : DataType) : Option DataType :=
  match operator.builtin? left right with
  | some result => some result
  | none =>
      if operator.isEquality && catalog.areComparable left right then some .boolean
      else if left.isNullable && left == right then
        (operator.builtin? left.underlying left.underlying).map fun result =>
          if operator.isComparison then result else .orNull result.id
      else none

def resolveBinary (catalog : Catalog) (operator : BinaryOperator) (left right : DataType) :
    Except TypingError (Option OperatorMeaning) := do
  let declared ← match operator.methodName? with
    | some name => catalog.declaredOperator name [left, right]
    | none => pure none
  match declared with
  | some method => return some (.method method)
  | none => return (catalog.builtinBinary? operator left right).map .builtin

def builtinUnary? (operator : UnaryOperator) (operand : DataType) : Option DataType :=
  match operator.builtin? operand with
  | some result => some result
  | none =>
      if operand.isNullable then
        (operator.builtin? operand.underlying).map fun result => .orNull result.id
      else none

def resolveUnary (catalog : Catalog) (operator : UnaryOperator) (operand : DataType) :
    Except TypingError (Option OperatorMeaning) := do
  match ← catalog.declaredOperator operator.methodName [operand] with
  | some method => return some (.method method)
  | none => return (builtinUnary? operator operand).map .builtin

end Catalog

end Formula
