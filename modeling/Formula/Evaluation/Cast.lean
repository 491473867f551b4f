import Formula.Catalog.Hierarchy
import Formula.Catalog.Names
import Formula.Decimal.Binary

/-!
Conversions of values at run time. Casts between numbers wrap, but for casts out of decimal
numbers, and from floating point numbers into them, which overflow. References are checked and
left alone; what was boxed must have exactly the type it is unboxed to.
-/

namespace Formula

namespace Value

def characterOfUnit (unit : Nat) : Char :=
  if unit.isValidChar then Char.ofNat unit else Char.ofNat 0xfffd

def wrapInt? (number : Int) : Scalar → Option Value
  | .integer kind => some (.integer (.wrap kind number))
  | .character => some (.character (characterOfUnit (number % 65536).toNat))
  | _ => none

def castFailure (source : String) (kind : Scalar) : Outcome Value :=
  .error (.invalidCast source kind.name)

def orOverflow {α : Type} (make : α → Value) : Option α → Outcome Value
  | some result => .ok (make result)
  | none => .error .overflow

def castInt (number : Int) (kind : Scalar) : Outcome Value :=
  match kind with
  | .single => .ok (.single (Number.singleOfInt number))
  | .double => .ok (.double (Number.doubleOfInt number))
  | .decimal => orOverflow .decimal (Decimal.ofInt? number)
  | .boolean => castFailure (Scalar.integer .int64).name kind
  | .integer _ | .character => orOverflow id (wrapInt? number kind)

/-- A floating point number cut off to an integer, and to the nearest one that the kind has. -/
def clampDouble (kind : IntegerKind) (number : Float) : Integer :=
  match Number.doubleDatum number with
  | .notANumber => .clamp kind 0
  | .infinite negative => if negative then .least kind else .greatest kind
  | datum => .clamp kind (datum.truncate?.getD 0)

/-- All integers but the widest unsigned ones go through the widest signed ones. -/
def castDouble (number : Float) (kind : Scalar) : Outcome Value :=
  match kind with
  | .single => .ok (.single number.toFloat32)
  | .double => .ok (.double number)
  | .decimal => orOverflow .decimal (Decimal.ofDouble? number)
  | .integer .uint64 => .ok (.integer (clampDouble .uint64 number))
  | .boolean => castFailure Scalar.double.name kind
  | kind => castInt (clampDouble .int64 number).value kind

def castDecimal (number : Decimal) (kind : Scalar) : Outcome Value :=
  match kind with
  | .single => .ok (.single number.toSingle)
  | .double => .ok (.double number.toDouble)
  | .boolean => castFailure Scalar.decimal.name kind
  | kind => do
      let result ← castInt number.toInt kind
      if result.toInt? = some number.toInt then return result else throw .overflow

def toKind (value : Value) (kind : Scalar) : Outcome Value :=
  if value.scalar? = some kind then .ok value
  else
    match value.toInt? with
    | some number => castInt number kind
    | none =>
        match value with
        | .single number => castDouble number.toFloat kind
        | .double number => castDouble number kind
        | .decimal number => castDecimal number kind
        | value => castFailure value.kindName kind

end Value

namespace Catalog

def castError (catalog : Catalog) (value : Value) (target : DataType) : Fault :=
  .invalidCast (catalog.qualifiedName value.type) (catalog.qualifiedName target)

def castNull (catalog : Catalog) (source target : DataType) : Outcome Value :=
  if catalog.acceptsNull target then .ok .null
  else if source.nullable then .error .nullWithoutValue
  else .error .nullReference

def castToEnumeration (catalog : Catalog) (value : Value) (target : DataType)
    (underlying : Scalar) : Outcome Value := do
  match (← value.toKind underlying).toInt? with
  | some bits => return .enumeration target.id (.ofInt bits)
  | none => throw (catalog.castError value target)

def castToScalar (catalog : Catalog) (value : Value) (target : DataType)
    (kind : Scalar) : Outcome Value :=
  match value.toKind kind with
  | .error (.invalidCast _ _) => .error (catalog.castError value target)
  | outcome => outcome

def cast (catalog : Catalog) (value : Value) (source target : DataType) : Outcome Value :=
  if value.isNull then catalog.castNull source target
  else
    let target := target.underlying
    if catalog.isReferenceType target then
      if catalog.isAssignable target value.type then .ok value
      else .error (catalog.castError value target)
    else if catalog.isReferenceType source && value.type != target then
      .error (catalog.castError value target)
    else
      match catalog.underlying? target with
      | some underlying => catalog.castToEnumeration value target underlying
      | none =>
          match target.scalar? with
          | some kind => catalog.castToScalar value target kind
          | none =>
              if value.type == target then .ok value
              else .error (catalog.castError value target)

end Catalog

end Formula
