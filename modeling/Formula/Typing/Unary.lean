import Formula.Operators.Resolution
import Formula.Typing.Arguments

/-!
Unary operators and casts on typed terms. Enumeration values count as their integers, and
integers narrower than 32 bits are widened first.
-/

namespace Formula.Catalog

/-- The least signed integers are written as a minus before an unsigned literal. -/
def negatedLiteral? : Term → Option Term
  | .constant (.integer value) _ =>
      if value.kind = .uint32 ∧ value.value = -IntegerKind.int32.least then
        some (.ofValue (.integer (.least .int32)))
      else if value.kind = .uint64 ∧ value.value = -IntegerKind.int64.least then
        some (.ofValue (.integer (.least .int64)))
      else none
  | _ => none

def widenOperand (operator : UnaryOperator) (underlying : DataType) (operand : Term) :
    Term :=
  match underlying.scalar? with
  | some kind =>
      if operator = .negate ∧ kind = .integer .uint32 then
        .convert operand (.ofScalar (.integer .int64))
      else if kind.isSmallInteger then .convert operand .int32
      else operand
  | none => operand

def applyUnary (catalog : Catalog) (operator : UnaryOperator) (token : String)
    (operand : Term) : Typing Term := do
  let refusal := TypingError.unaryOperator token (catalog.qualifiedName operand.type)
  match ← catalog.resolveUnary operator operand.type with
  | some (.builtin result) => return .unary operator operand result
  | some (.method method) =>
      match (← catalog.adaptArguments method.parameters [operand]).getLast? with
      | some operand => return .unaryBy method operator operand
      | none => throw refusal
  | none => throw refusal

def unaryTerm (catalog : Catalog) (operator : UnaryOperator) (token : String)
    (operand : Term) : Typing Term := do
  let type := operand.type
  let enumKind := catalog.underlying? type
  let underlying := (enumKind.map DataType.ofScalar).getD type
  let plain := operand.convertTo underlying
  let literal := if operator = .negate then negatedLiteral? plain else none
  match literal with
  | some literal => return literal
  | none =>
      let result ← catalog.applyUnary operator token (widenOperand operator underlying plain)
      if enumKind.isSome && operator == .complement then return .convert result type
      else return result

def castTerm (catalog : Catalog) (name : String) (target : DataType) (operand : Term) :
    Typing Term :=
  let source := operand.type
  if source == target ||
      (catalog.isReferenceType source && catalog.isAssignable target source) then
    .ok operand
  else if operand.isNull && catalog.acceptsNull target then .ok (.nullOf target)
  else
    match catalog.explicitConversion? source target with
    | some conversion => .ok (conversion.apply operand target)
    | none => .error (.unaryOperator name (catalog.qualifiedName source))

end Formula.Catalog
