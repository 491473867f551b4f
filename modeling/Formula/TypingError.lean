/-!
Why an expression has no meaning, as causes, and the wording of each. Names of types and
expressions are already spelled out, so an error tells its story by itself.
-/

namespace Formula

inductive TypingError where
  | unresolvedSymbol (name : String)
  | identifierExpected (expression : String)
  | methodNameExpected (expression : String)
  | notInvocable (expression : String)
  | unaryOperator (token operand : String)
  | binaryOperator (token left right : String)
  | noImplicitConversion (source target : String)
  | notIndexable (type : String)
  /-- The candidates in the order of their lines. -/
  | ambiguous (candidates : List String)
  | receiverRequired (name : String)
  | argumentMismatch
  | argumentMissing (parameter : String)
  | typeNotValue (name : String)
  | methodUnresolved (callee : String)
  | indexCount
  | unknownOperator (token : String)
  | branchTypes (whenTrue whenFalse : String)
deriving DecidableEq

namespace TypingError

def ambiguousAmong (lines : List String) : TypingError :=
  .ambiguous (lines.mergeSort fun left right => decide (left ≤ right))

def message : TypingError → String
  | unresolvedSymbol name => "Cannot resolve symbol '" ++ name ++ "'."
  | identifierExpected expression => "Identifier expected (expression: " ++ expression ++ ")."
  | methodNameExpected expression => "Method name expected (expression: " ++ expression ++ ")."
  | notInvocable expression =>
      "Non-invocable member '" ++ expression ++ "' cannot be used like a method."
  | unaryOperator token operand =>
      "Operator '" ++ token ++ "' cannot be applied to operand of type '" ++ operand ++ "'."
  | binaryOperator token left right =>
      "Operator '" ++ token ++ "' cannot be applied to operands of type '" ++ left ++
        "' and '" ++ right ++ "'."
  | noImplicitConversion source target =>
      "Cannot implicitly convert type '" ++ source ++ "' to '" ++ target ++ "'."
  | notIndexable type =>
      "Cannot apply indexing with [] to an expression of type '" ++ type ++ "'."
  | ambiguous candidates =>
      "Ambiguous match found:" ++ String.join (candidates.map fun line => "\n    " ++ line)
  | receiverRequired name =>
      "An object reference is required for the non-static member '" ++ name ++ "'."
  | argumentMismatch => "Argument types do not match the selected overload."
  | argumentMissing parameter => "No argument given for parameter '" ++ parameter ++ "'."
  | typeNotValue name =>
      "'" ++ name ++ "' is a type, which is not valid in the given context."
  | methodUnresolved callee => "Unable to resolve a method: " ++ callee ++ "."
  | indexCount => "Incorrect number of indexes."
  | unknownOperator token => "Operator '" ++ token ++ "' is not supported."
  | branchTypes whenTrue whenFalse =>
      "Type of conditional expression cannot be determined because there is no implicit "
        ++ "conversion between '" ++ whenTrue ++ "' and '" ++ whenFalse ++ "'."

end TypingError

end Formula
