import Formula.DataType
import Formula.Operator

/-!
The operators that scalar types have of themselves, by the types of their operands.
-/

namespace Formula

namespace BinaryOperator

def onBooleans : BinaryOperator → Bool
  | bitAnd | bitOr | bitXor | equal | notEqual | andAlso | orElse => true
  | _ => false

def isArithmetic : BinaryOperator → Bool
  | add | subtract | multiply | divide | remainder => true
  | _ => false

/-- The type of the result on two plain operands. Both have one numeric type, but for a shift,
whose count is a plain integer. -/
def builtin? (operator : BinaryOperator) (left right : DataType) : Option DataType :=
  if left.isBoolean && right.isBoolean then
    if operator.onBooleans then some .boolean else none
  else
    match left.scalar?, right.scalar? with
    | some leftKind, some rightKind =>
        if operator.isShift then
          if leftKind.isInteger && rightKind == .int32 then some left else none
        else if leftKind != rightKind || !leftKind.isNumeric then none
        else if operator.isComparison then some .boolean
        else if operator.isArithmetic && leftKind != .character then some left
        else if operator.isBitwise && leftKind.isInteger then some left
        else none
    | _, _ => none

end BinaryOperator

namespace UnaryOperator

def builtin? (operator : UnaryOperator) (operand : DataType) : Option DataType :=
  operand.scalar?.bind fun kind =>
    let applies : Bool := match operator with
      | negate => kind.isNumeric && kind != .character && kind != .integer .uint64
      | plus => kind.isNumeric && kind != .character
      | not => kind == .boolean || kind.isInteger
      | complement => kind.isInteger
    if applies then some operand else none

end UnaryOperator

end Formula
