import Formula.Operator
import Formula.Value.Text

/-!
Expressions as they are written, before names and types mean anything, and their text in
diagnostics.
-/

namespace Formula

inductive Expr where
  | reference (name : String)
  | literal (value : Value)
  /-- The token need not be that of an operator. -/
  | binary (token : String) (left right : Expr)
  | unary (operator : UnaryOperator) (token : String) (operand : Expr)
  | cast (typeName : String) (operand : Expr)
  | call (callee : Expr) (arguments : List Expr)
  | index (target : Expr) (arguments : List Expr)
  /-- The member should be a reference. -/
  | member (target member : Expr)
  | conditional (test whenTrue whenFalse : Expr)
  | parenthesized (inner : Expr)

namespace Expr

private def literalText : Value → String
  | .null => "null"
  | .boolean value => if value then "true" else "false"
  | .text _ value => "\"" ++ value ++ "\""
  | .character value => "'" ++ value.toString ++ "'"
  | value => value.toText

mutual

def toText : Expr → String
  | reference name => name
  | literal value => literalText value
  | binary token left right => "(" ++ left.toText ++ " " ++ token ++ " " ++ right.toText ++ ")"
  | unary _ token operand => token ++ "(" ++ operand.toText ++ ")"
  | cast typeName operand => operand.toText ++ ":" ++ typeName
  | call callee arguments => callee.toText ++ "(" ++ ", ".intercalate (toTexts arguments) ++ ")"
  | index target arguments => target.toText ++ "[" ++ ", ".intercalate (toTexts arguments) ++ "]"
  | member target name => target.toText ++ "." ++ name.toText
  | conditional test whenTrue whenFalse =>
      test.toText ++ " ? " ++ whenTrue.toText ++ " : " ++ whenFalse.toText
  | parenthesized inner => "(" ++ inner.toText ++ ")"

def toTexts : List Expr → List String
  | [] => []
  | expr :: exprs => expr.toText :: toTexts exprs

end

end Expr

end Formula
