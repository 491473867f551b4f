import Formula.Catalog.Hierarchy
import Formula.Widening

/-!
Whether a list of parameters takes a list of argument types. A call has its normal form, in
which parameters left over have defaults, or its expanded form, in which the last parameter
collects all remaining arguments, or none, as elements of an array.
-/

namespace Formula

inductive CallForm where
  | normal
  | expanded (element : DataType)
deriving DecidableEq

namespace CallForm

def isExpanded : CallForm → Bool
  | normal => false
  | expanded _ => true

end CallForm

namespace Catalog

def isCompatible (catalog : Catalog) (parameter argument : DataType) : Bool :=
  parameter == argument || parameter.isObject ||
    if parameter.scalar?.isSome then argument.widensTo parameter
    else catalog.isAssignable parameter argument

def areCompatible (catalog : Catalog) (parameters : List Parameter)
    (arguments : List DataType) : Bool :=
  (parameters.zip arguments).all fun (parameter, argument) =>
    catalog.isCompatible parameter.type argument

def expandedForm? (last : Parameter) : Option CallForm :=
  if last.isVariadic then last.type.element?.map .expanded else none

/-- The form that the number of arguments calls for, and the type of the last one where there
are as many arguments as parameters. -/
def formByShape? (catalog : Catalog) (parameters : List Parameter) (last : Parameter)
    (arguments : List DataType) : Option CallForm :=
  if arguments.length < parameters.length then
    let omitted := (parameters.take (parameters.length - 1)).drop arguments.length
    if !omitted.all (·.default.isSome) then none
    else if last.default.isSome then some .normal
    else expandedForm? last
  else if parameters.length < arguments.length then expandedForm? last
  else if last.isVariadic &&
      !(arguments.getLast?.any fun argument => catalog.isAssignable last.type argument) then
    expandedForm? last
  else some .normal

def applicableForm? (catalog : Catalog) (parameters : List Parameter)
    (arguments : List DataType) : Option CallForm :=
  match parameters.getLast? with
  | none => if arguments.isEmpty then some .normal else none
  | some last =>
      match catalog.formByShape? parameters last arguments with
      | none => none
      | some .normal =>
          if catalog.areCompatible parameters arguments then some .normal else none
      | some (.expanded element) =>
          let fixed := parameters.take (parameters.length - 1)
          let rest := arguments.drop fixed.length
          if catalog.areCompatible fixed arguments &&
              rest.all (catalog.isCompatible element) then
            some (.expanded element)
          else none

end Catalog

end Formula
