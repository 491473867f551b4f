/-!
The operators of the language, their tokens, and the names of the methods that carry them out
on declared types.
-/

namespace Formula

inductive BinaryOperator where
  | add
  | subtract
  | multiply
  | divide
  | remainder
  | bitAnd
  | bitOr
  | bitXor
  | shiftLeft
  | shiftRight
  | shiftRightZero
  | equal
  | notEqual
  | less
  | lessEqual
  | greater
  | greaterEqual
  | andAlso
  | orElse
  | coalesce
deriving DecidableEq, Repr

namespace BinaryOperator

def all : List BinaryOperator :=
  [ add, subtract, multiply, divide, remainder, bitAnd, bitOr, bitXor, shiftLeft, shiftRight,
    shiftRightZero, equal, notEqual, less, lessEqual, greater, greaterEqual, andAlso, orElse,
    coalesce ]

def token : BinaryOperator → String
  | add => "+"
  | subtract => "-"
  | multiply => "*"
  | divide => "/"
  | remainder => "%"
  | bitAnd => "&"
  | bitOr => "|"
  | bitXor => "^"
  | shiftLeft => "<<"
  | shiftRight => ">>"
  | shiftRightZero => ">>>"
  | equal => "=="
  | notEqual => "!="
  | less => "<"
  | lessEqual => "<="
  | greater => ">"
  | greaterEqual => ">="
  | andAlso => "&&"
  | orElse => "||"
  | coalesce => "??"

def ofToken? (token : String) : Option BinaryOperator :=
  all.find? fun operator => operator.token = token

theorem ofToken?_token (operator : BinaryOperator) :
    ofToken? operator.token = some operator := by
  cases operator <;> decide

def label : BinaryOperator → String
  | andAlso => "AndAlso"
  | orElse => "OrElse"
  | operator => operator.token

def isEquality : BinaryOperator → Bool
  | equal | notEqual => true
  | _ => false

def isRelational : BinaryOperator → Bool
  | less | lessEqual | greater | greaterEqual => true
  | _ => false

def isComparison (operator : BinaryOperator) : Bool :=
  operator.isEquality || operator.isRelational

def isShift : BinaryOperator → Bool
  | shiftLeft | shiftRight | shiftRightZero => true
  | _ => false

def isBitwise : BinaryOperator → Bool
  | bitAnd | bitOr | bitXor => true
  | _ => false

def methodName? : BinaryOperator → Option String
  | add => some "op_Addition"
  | subtract => some "op_Subtraction"
  | multiply => some "op_Multiply"
  | divide => some "op_Division"
  | remainder => some "op_Modulus"
  | bitAnd => some "op_BitwiseAnd"
  | bitOr => some "op_BitwiseOr"
  | bitXor => some "op_ExclusiveOr"
  | shiftLeft => some "op_LeftShift"
  | shiftRight => some "op_RightShift"
  | shiftRightZero => some "op_UnsignedRightShift"
  | equal => some "op_Equality"
  | notEqual => some "op_Inequality"
  | less => some "op_LessThan"
  | lessEqual => some "op_LessThanOrEqual"
  | greater => some "op_GreaterThan"
  | greaterEqual => some "op_GreaterThanOrEqual"
  | andAlso | orElse | coalesce => none

end BinaryOperator

inductive UnaryOperator where
  | negate
  | plus
  | not
  | complement
deriving DecidableEq, Repr

namespace UnaryOperator

def all : List UnaryOperator :=
  [negate, plus, not, complement]

def token : UnaryOperator → String
  | negate => "-"
  | plus => "+"
  | not => "!"
  | complement => "~"

def ofToken? (token : String) : Option UnaryOperator :=
  all.find? fun operator => operator.token = token

def methodName : UnaryOperator → String
  | negate => "op_UnaryNegation"
  | plus => "op_UnaryPlus"
  | not => "op_LogicalNot"
  | complement => "op_OnesComplement"

end UnaryOperator

end Formula
