import Formula.Catalog.Names
import Formula.Overload.Applicability
import Formula.Term.Basic
import Formula.TypingError

/-!
Fitting terms to types: conversions that happen by themselves, and the arguments of a call made
to match its parameters one for one.
-/

namespace Formula

abbrev Typing (α : Type) := Except TypingError α

namespace Catalog

/-- The term as the target type, if that needs no cast; null takes on any type that has it. -/
def implicitly? (catalog : Catalog) (term : Term) (target : DataType) : Option Term :=
  if term.isNull && catalog.acceptsNull target then some (.nullOf target)
  else
    (catalog.implicitConversion? term.type target).map fun conversion =>
      conversion.apply term target

def noConversion (catalog : Catalog) (source target : DataType) : TypingError :=
  .noImplicitConversion (catalog.qualifiedName source) (catalog.qualifiedName target)

def requireImplicit (catalog : Catalog) (term : Term) (target : DataType) : Typing Term :=
  match catalog.implicitly? term target with
  | some converted => .ok converted
  | none => .error (catalog.noConversion term.type target)

/-- Passes a term for a parameter of a type, by a cast where nothing less will do. -/
def passArgument (catalog : Catalog) (target : DataType) (term : Term) : Typing Term :=
  match catalog.implicitly? term target with
  | some converted => .ok converted
  | none =>
      match catalog.explicitConversion? term.type target with
      | some conversion => .ok (conversion.apply term target)
      | none => .error (catalog.noConversion term.type target)

/-- What a parameter is given where no argument is: its default, or an empty array. -/
def omittedArgument (catalog : Catalog) (parameter : Parameter) : Typing Term :=
  match parameter.default with
  | some .null => .ok (.nullOf parameter.type)
  | some value => catalog.passArgument parameter.type (.ofValue value)
  | none =>
      if parameter.isVariadic then .ok (.newArray (parameter.type.element?.getD .object) [])
      else .error (.argumentMissing parameter.name)

def passAll (catalog : Catalog) : List Parameter → List Term → Typing (List Term)
  | [], _ => .ok []
  | parameter :: parameters, [] => do
      let first ← catalog.omittedArgument parameter
      return first :: (← passAll catalog parameters [])
  | parameter :: parameters, argument :: arguments => do
      let first ← catalog.passArgument parameter.type argument
      return first :: (← passAll catalog parameters arguments)

/-- One term for every parameter; in the expanded form the last is an array of all arguments
from its place on. -/
def adaptArguments (catalog : Catalog) (parameters : List Parameter) (arguments : List Term) :
    Typing (List Term) :=
  match catalog.applicableForm? parameters (arguments.map Term.type) with
  | none => .error .argumentMismatch
  | some .normal => catalog.passAll parameters arguments
  | some (.expanded element) => do
      let fixed := parameters.take (parameters.length - 1)
      let passed ← catalog.passAll fixed (arguments.take fixed.length)
      let items ← (arguments.drop fixed.length).mapM (catalog.passArgument element)
      return passed ++ [.newArray element items]

end Catalog

end Formula
