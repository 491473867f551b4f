import Formula.Decimal.Arithmetic
import Formula.Value.Basic

/-!
The built-in operators on values. Both operands are of one kind, but for the count of a shift.
Integers wrap, but for a quotient that does not fit; shift counts are taken modulo the width;
decimal results either fit or overflow.
-/

namespace Formula

namespace Integer

def bitwise (operation : Nat → Nat → Nat) (left right : Integer) : Integer :=
  .wrap left.kind (operation left.bits right.bits)

def shiftCount (integer : Integer) (count : Int) : Nat :=
  (count % integer.kind.width).toNat

end Integer

namespace BinaryOperator

def undefined (operator : BinaryOperator) (operands : String) : Outcome Value :=
  .error (.invalidTree (.binary operator operands))

/-- A comparison; where there is no order, only inequality holds. -/
def onOrder (operator : BinaryOperator) (order : Option Ordering) : Outcome Value :=
  match operator, order with
  | operator, none => .ok (.boolean (operator == .notEqual))
  | equal, some order => .ok (.boolean (order == .eq))
  | notEqual, some order => .ok (.boolean (order != .eq))
  | less, some order => .ok (.boolean (order == .lt))
  | lessEqual, some order => .ok (.boolean (order != .gt))
  | greater, some order => .ok (.boolean (order == .gt))
  | greaterEqual, some order => .ok (.boolean (order != .lt))
  | operator, some _ => undefined operator "comparison"

def onIntegers (operator : BinaryOperator) (left right : Integer) : Outcome Value :=
  let wrapped (value : Int) : Outcome Value := .ok (.integer (.wrap left.kind value))
  let divided (result : Int) : Outcome Value :=
    if right.value = 0 then .error .divideByZero
    else if left.kind.Holds (left.value.tdiv right.value) then wrapped result
    else .error .overflow
  match operator with
  | add => wrapped (left.value + right.value)
  | subtract => wrapped (left.value - right.value)
  | multiply => wrapped (left.value * right.value)
  | divide => divided (left.value.tdiv right.value)
  | remainder => divided (left.value.tmod right.value)
  | bitAnd => .ok (.integer (left.bitwise (· &&& ·) right))
  | bitOr => .ok (.integer (left.bitwise (· ||| ·) right))
  | bitXor => .ok (.integer (left.bitwise (· ^^^ ·) right))
  | operator => operator.onOrder (some (compare left.value right.value))

def onShift (operator : BinaryOperator) (left : Integer) (count : Int) :
    Outcome Value :=
  let power : Nat := 1 <<< left.shiftCount count
  match operator with
  | shiftLeft => .ok (.integer (.wrap left.kind (left.value * power)))
  | shiftRight => .ok (.integer (.wrap left.kind (left.value / power)))
  | operator => undefined operator "shift"

def onDoubles (operator : BinaryOperator) (left right : Float) : Outcome Value :=
  match operator with
  | add => .ok (.double (left + right))
  | subtract => .ok (.double (left - right))
  | multiply => .ok (.double (left * right))
  | divide => .ok (.double (left / right))
  | remainder => .ok (.double (Number.doubleRemainder left right))
  | operator => operator.onOrder (Number.doubleOrder left right)

def onSingles (operator : BinaryOperator) (left right : Float32) : Outcome Value :=
  match operator with
  | add => .ok (.single (left + right))
  | subtract => .ok (.single (left - right))
  | multiply => .ok (.single (left * right))
  | divide => .ok (.single (left / right))
  | remainder => .ok (.single (Number.singleRemainder left right))
  | operator => operator.onOrder (Number.singleOrder left right)

def onDecimals (operator : BinaryOperator) (left right : Decimal) : Outcome Value :=
  let fitted (result : Option Decimal) : Outcome Value :=
    match result with
    | some result => .ok (.decimal result)
    | none => .error .overflow
  match operator with
  | add => fitted (left.add? right)
  | subtract => fitted (left.subtract? right)
  | multiply => fitted (left.multiply? right)
  | divide => if right.isZero then .error .divideByZero else fitted (left.divide? right)
  | remainder => if right.isZero then .error .divideByZero else fitted (left.remainder? right)
  | operator => operator.onOrder (some (left.order right))

def onTruthValues (operator : BinaryOperator) (left right : Bool) : Outcome Value :=
  match operator with
  | bitAnd | andAlso => .ok (.boolean (left && right))
  | bitOr | orElse => .ok (.boolean (left || right))
  | bitXor => .ok (.boolean (left != right))
  | equal => .ok (.boolean (left == right))
  | notEqual => .ok (.boolean (left != right))
  | operator => undefined operator "Boolean"

def onReferences (operator : BinaryOperator) (left right : Value) : Outcome Value :=
  if operator.isEquality then .ok (.boolean (left.same right == (operator == equal)))
  else undefined operator left.kindName

def onScalars (operator : BinaryOperator) (left right : Value) : Outcome Value :=
  match left, right with
  | .integer leftInteger, .integer rightInteger =>
      if leftInteger.kind = rightInteger.kind then operator.onIntegers leftInteger rightInteger
      else operator.onReferences left right
  | .single left, .single right => operator.onSingles left right
  | .double left, .double right => operator.onDoubles left right
  | .decimal left, .decimal right => operator.onDecimals left right
  | .boolean left, .boolean right => operator.onTruthValues left right
  | .character left, .character right =>
      operator.onOrder (some (compare left.toNat right.toNat))
  | .enumeration _ leftBits, .enumeration _ rightBits =>
      if operator.isComparison then
        operator.onOrder (some (compare leftBits.toInt rightBits.toInt))
      else operator.onReferences left right
  | left, right => operator.onReferences left right

def apply (operator : BinaryOperator) (left right : Value) : Outcome Value :=
  if operator.isShift then
    match left, right with
    | .integer integer, .integer count =>
        if count.kind = .int32 then operator.onShift integer count.value
        else undefined operator right.kindName
    | left, .integer count =>
        if count.kind = .int32 then undefined operator left.kindName
        else undefined operator right.kindName
    | _, right => undefined operator right.kindName
  else operator.onScalars left right

/-- A built-in operator with null on some side: equality asks whether both are null, an order
does not hold, and any other result is null. -/
def applyNull (operator : BinaryOperator) (left right : Value) : Value :=
  match operator with
  | equal => .boolean (left.isNull && right.isNull)
  | notEqual => .boolean (left.isNull != right.isNull)
  | operator => if operator.isRelational then .boolean false else .null

end BinaryOperator

namespace UnaryOperator

def onInteger (operator : UnaryOperator) (operand : Integer) : Integer :=
  match operator with
  | negate => .wrap operand.kind (-operand.value)
  | plus => operand
  | not | complement => .wrap operand.kind (-operand.value - 1)

def apply (operator : UnaryOperator) (operand : Value) : Outcome Value :=
  match operator, operand with
  | operator, .integer value => .ok (.integer (operator.onInteger value))
  | negate, .single value => .ok (.single (-value))
  | negate, .double value => .ok (.double (-value))
  | negate, .decimal value => .ok (.decimal value.negate)
  | plus, .single value => .ok (.single value)
  | plus, .double value => .ok (.double value)
  | plus, .decimal value => .ok (.decimal value)
  | not, .boolean value => .ok (.boolean !value)
  | operator, operand => .error (.invalidTree (.unary operator operand.kindName))

end UnaryOperator

end Formula
