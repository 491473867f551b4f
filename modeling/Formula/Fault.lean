import Formula.Operator

/-!
What can go wrong while an expression is evaluated, as causes, and the wording of each.
-/

namespace Formula

inductive Malformed where
  | numeral (text : String)
  | truthValue (text : String)
  | template
  | argumentRange (parameter : String)
  | characterCount
  | signOfNotANumber
  | spanTooLong
  | spanOfNotANumber
  | spanNegation
  | spanText
  | dateOutOfRange
  | dateText (text : String)
  | dateParts
  | year
  | guidText
  | guidLayout (layout : String)
  | pattern (text : String)
  | patternSize (text : String)
deriving DecidableEq

namespace Malformed

def message : Malformed → String
  | numeral text => "The input string '" ++ text ++ "' was not in a correct format."
  | truthValue text => "String '" ++ text ++ "' was not recognized as a valid Boolean."
  | template => "Input string was not in a correct format."
  | argumentRange parameter =>
      "Specified argument was out of the range of valid values. (Parameter '" ++ parameter ++
        "')"
  | characterCount => "String must be exactly one character long."
  | signOfNotANumber => "Function does not accept floating point Not-a-Number values."
  | spanTooLong => "TimeSpan overflowed because the duration is too long."
  | spanOfNotANumber => "TimeSpan does not accept floating point Not-a-Number values."
  | spanNegation => "Negating the minimum value of a twos complement number is invalid."
  | spanText => "String was not recognized as a valid TimeSpan."
  | dateOutOfRange =>
      "The added or subtracted value results in an un-representable DateTime."
  | dateText text => "String '" ++ text ++ "' was not recognized as a valid DateTime."
  | dateParts => "Year, Month, and Day parameters describe an un-representable DateTime."
  | year => "Year must be between 1 and 9999."
  | guidText => "Unrecognized Guid format."
  | guidLayout layout => "Unsupported Guid format '" ++ layout ++ "'."
  | pattern text => "Invalid pattern '" ++ text ++ "'."
  | patternSize text =>
      "Invalid pattern '" ++ text ++ "'. Compiled regex exceeds size limit of 10485760 bytes."

end Malformed

inductive TreeDefect where
  | binary (operator : BinaryOperator) (operands : String)
  | unary (operator : UnaryOperator) (operand : String)
  | unboundReceiver (name : String)
  | indexKind
  | truthValueExpected (found : String)
  | arrayExpected (found : String)
deriving DecidableEq

namespace TreeDefect

def message : TreeDefect → String
  | binary operator operands =>
      "operator '" ++ operator.token ++ "' is not defined for " ++ operands ++ " operands"
  | unary operator operand =>
      "operator '" ++ operator.token ++ "' is not defined for " ++ operand
  | unboundReceiver name => "no value bound for '" ++ name ++ "'"
  | indexKind => "array index is not an integer"
  | truthValueExpected found => "expected Boolean, found " ++ found
  | arrayExpected found => "expected an array, found " ++ found

end TreeDefect

inductive Fault where
  | divideByZero
  | overflow
  | indexOutOfRange
  | nullReference
  | nullWithoutValue
  | invalidCast (source target : String)
  | argumentType (index : Nat) (expected found : String)
  | malformed (cause : Malformed)
  | invalidTree (defect : TreeDefect)
  | host (text : String)
  | panic (text : String)
deriving DecidableEq

namespace Fault

def message : Fault → String
  | divideByZero => "Attempted to divide by zero."
  | overflow => "Arithmetic operation resulted in an overflow."
  | indexOutOfRange => "Index was outside the bounds of the array."
  | nullReference => "Object reference not set to an instance of an object."
  | nullWithoutValue => "Nullable object must have a value."
  | invalidCast source target =>
      "Unable to cast object of type '" ++ source ++ "' to type '" ++ target ++ "'."
  | argumentType index expected found =>
      "argument " ++ toString index ++ ": expected " ++ expected ++ ", found " ++ found
  | malformed cause => cause.message
  | invalidTree defect => "invalid expression tree: " ++ defect.message
  | host text => text
  | panic text => text

end Fault

abbrev Outcome (α : Type) := Except Fault α

end Formula
