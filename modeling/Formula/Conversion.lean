import Formula.Catalog.Hierarchy
import Formula.Widening

/-!
Conversions between types: those that happen by themselves and those that a cast asks for. A
type may declare conversions of its own as static methods from it or to it.
-/

namespace Formula

inductive Conversion where
  | identity
  | reference
  | widening
  | boxing
  | lifting
  | explicit
  | operator (method : Method)

namespace Catalog

def implicitName : String := "op_Implicit"
def explicitName : String := "op_Explicit"

/-- A conversion that `owner` declares under a name, from exactly one type to another. -/
def conversionOn? (catalog : Catalog) (owner : DataType) (name : String)
    (source target : DataType) : Option Method :=
  if owner.isArray || owner.isNullable then none
  else
    (catalog.find? owner.id).bind fun entry =>
      entry.methods.find? fun method =>
        method.isStatic && method.name == name && method.result == target &&
          method.types == [source]

/-- Conversions without a cast are declared by the source. -/
def implicitOperator? (catalog : Catalog) (source target : DataType) : Option Method :=
  catalog.conversionOn? source implicitName source target

/-- What a cast may use: conversions without a cast first, the source before the target. -/
def castOperator? (catalog : Catalog) (source target : DataType) : Option Method :=
  [(implicitName, source), (implicitName, target), (explicitName, source),
    (explicitName, target)].findSome? fun (name, owner) =>
      catalog.conversionOn? owner name source target

def implicitConversion? (catalog : Catalog) (source target : DataType) : Option Conversion :=
  if source == target then some .identity
  else if catalog.isReferenceType source && catalog.isAssignable target source then
    some .reference
  else if source.widensTo target then some .widening
  else
    match catalog.implicitOperator? source target with
    | some method => some (.operator method)
    | none =>
        if target.isNullable then
          if source == target.underlying || source.widensTo target.underlying then some .lifting
          else none
        else if catalog.isValueType source && catalog.isAssignable target source then
          some .boxing
        else none

def isNumberLike (catalog : Catalog) (type : DataType) : Bool :=
  type.isNumeric || catalog.isEnumeration type

def explicitConversion? (catalog : Catalog) (source target : DataType) : Option Conversion :=
  match catalog.implicitConversion? source target with
  | some conversion => some conversion
  | none =>
      let inner := source.underlying
      let outer := target.underlying
      if catalog.isNumberLike inner && catalog.isNumberLike outer then some .explicit
      else if (source.isNullable || target.isNullable) && inner == outer then some .explicit
      else if catalog.isAssignable source target then some .explicit
      else if catalog.isInterface target && catalog.isReferenceType source &&
          !source.isArray then
        some .explicit
      else (catalog.castOperator? source target).map .operator

end Catalog

end Formula
