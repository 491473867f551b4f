import Formula.Evaluation.Basic
import Formula.Typing.Expression

/-!
From an expression to its value: typing first, and then evaluation of the typed tree.
-/

namespace Formula

inductive Failure where
  | typing (error : TypingError)
  | evaluation (fault : Fault)
  | registration (error : RegistrationError)
deriving DecidableEq

namespace Failure

def message : Failure → String
  | typing error => error.message
  | evaluation fault => fault.message
  | registration error => error.message

end Failure

namespace Scope

def value (scope : Scope) (receiver : Option Value) (term : Term) : Except Failure Value :=
  (Setting.evaluate { catalog := scope.catalog, receiver } [] term).mapError .evaluation

def evaluate (scope : Scope) (receiver : Option Value) (expr : Expr) : Except Failure Value := do
  scope.value receiver (← (scope.term expr).mapError .typing)

end Scope

namespace Catalog

/-- The name of the receiver of an expression that is evaluated on a value. -/
def contextName : String := "it"

def evaluateOn (catalog : Catalog) (context : Value) (expr : Expr) : Except Failure Value := do
  let receiver : Term := .parameter contextName context.type
  let scope ← (Scope.withReceiver ⟨catalog, [], none⟩ receiver).mapError .registration
  scope.evaluate (some context) expr

end Catalog

end Formula
