import Formula.Expr
import Formula.Typing.Access
import Formula.Typing.Binary
import Formula.Typing.Unary

/-!
From an expression to its typed tree, from the inside out. The first error is the answer: the
arguments of a call come before its callee, and the left operand before the right one.
-/

namespace Formula.Scope

mutual

def term (scope : Scope) : Expr → Typing Term
  | .reference name => scope.referenceTerm name
  | .literal value => .ok (.ofValue value)
  | .binary token left right => do
      let left ← term scope left
      let right ← term scope right
      match BinaryOperator.ofToken? token with
      | some operator => scope.catalog.binaryTerm operator left right
      | none => throw (.unknownOperator token)
  | .unary operator token operand => do
      scope.catalog.unaryTerm operator token (← term scope operand)
  | .cast typeName operand => do
      let operand ← term scope operand
      match scope.typeNamed? typeName with
      | some target => scope.catalog.castTerm typeName target operand
      | none => throw (.unresolvedSymbol typeName)
  | .call callee arguments => do
      let arguments ← terms scope arguments
      match callee with
      | .reference name => scope.callNamed name arguments
      | .member target member => do
          let symbol ← match target with
            | .reference name => scope.symbol name
            | target => Symbol.value <$> term scope target
          match member with
          | .reference name =>
              scope.callOn (Expr.member target member).toText symbol name arguments
          | _ => throw (.methodNameExpected (Expr.member target member).toText)
      | callee => throw (.methodNameExpected callee.toText)
  | .index target arguments => do
      let target ← term scope target
      scope.catalog.indexTerm target (← terms scope arguments)
  | .member target member => do
      let symbol ← match target with
        | .reference name => scope.symbol name
        | target => Symbol.value <$> term scope target
      match member with
      | .reference name => scope.memberTerm symbol name
      | member => throw (.identifierExpected member.toText)
  | .conditional test whenTrue whenFalse => do
      let test ← term scope test
      let whenTrue ← term scope whenTrue
      let whenFalse ← term scope whenFalse
      scope.catalog.conditionalTerm test whenTrue whenFalse
  | .parenthesized inner => term scope inner

def terms (scope : Scope) : List Expr → Typing (List Term)
  | [] => .ok []
  | expr :: exprs => do
      let first ← term scope expr
      return first :: (← terms scope exprs)

end

end Formula.Scope
