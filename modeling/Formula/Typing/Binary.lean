import Formula.Operators.Resolution
import Formula.Typing.Arguments

/-!
Binary operators on typed terms. Two numbers meet in a common type; enumeration values count as
their integers and the result is cast back; a shift that fills with zeros is done on the
unsigned type; and an addition of texts is one flat concatenation.
-/

namespace Formula

namespace Scalar

def isSignedInteger (kind : Scalar) : Bool :=
  kind.integerKind?.any IntegerKind.isSigned

/-- The kind in which two numbers meet. Decimal numbers do not mix with floating point ones,
nor the widest unsigned integers with signed ones. -/
def promoted? (left right : Scalar) : Option Scalar :=
  let either (kind : Scalar) := left == kind || right == kind
  let anySigned := left.isSignedInteger || right.isSignedInteger
  if either .decimal then
    if left.isFloating || right.isFloating then none else some .decimal
  else if either .double then some .double
  else if either .single then some .single
  else if either (.integer .uint64) then
    if anySigned then none else some (.integer .uint64)
  else if either (.integer .int64) then some (.integer .int64)
  else if either (.integer .uint32) then
    some (if anySigned then .integer .int64 else .integer .uint32)
  else some .int32

end Scalar

namespace Catalog

def isSmallInteger (type : DataType) : Bool :=
  type.scalar?.any Scalar.isSmallInteger

def applyBinary (catalog : Catalog) (refusal : TypingError)
    (operator : BinaryOperator) (left right : Term) : Typing Term := do
  match ← catalog.resolveBinary operator left.type right.type with
  | some (.builtin result) => return .binary operator left right result
  | some (.method method) =>
      match ← catalog.adaptArguments method.parameters [left, right] with
      | left :: right :: _ => return .binaryBy method operator left right
      | _ => throw refusal
  | none => throw refusal

def shiftTerm (catalog : Catalog) (refusal : TypingError) (operator : BinaryOperator)
    (left right : Term) : Typing Term := do
  let count := if isSmallInteger right.type then .convert right .int32 else right
  if !left.type.isInteger || count.type != .int32 then throw refusal
  let operand := if isSmallInteger left.type then .convert left .int32 else left
  let unsigned? : Option IntegerKind := match operand.type.scalar? with
    | some (.integer .int32) => some .uint32
    | some (.integer .int64) => some .uint64
    | _ => none
  match operator, unsigned? with
  | .shiftRightZero, some kind =>
      let unsigned := Term.convert operand (.ofScalar (.integer kind))
      let shifted ← catalog.applyBinary refusal .shiftRight unsigned count
      return .convert shifted operand.type
  | .shiftRightZero, none => catalog.applyBinary refusal .shiftRight operand count
  | operator, _ => catalog.applyBinary refusal operator operand count

def promoteBoth (refusal : TypingError) (left right : Term) : Typing (Term × Term) :=
  match left.type.scalar?, right.type.scalar? with
  | some leftKind, some rightKind =>
      if leftKind.isNumeric && rightKind.isNumeric then
        match leftKind.promoted? rightKind with
        | some kind => .ok (left.convertTo (.ofScalar kind), right.convertTo (.ofScalar kind))
        | none => .error refusal
      else .ok (left, right)
  | _, _ => .ok (left, right)

/-- Null next to another operand takes on that one's type. -/
def retypeNulls (catalog : Catalog) (left right : Term) : Term × Term :=
  if left.isNull && !right.isNull && catalog.acceptsNull right.type then
    (.nullOf right.type, right)
  else if right.isNull && !left.isNull && catalog.acceptsNull left.type then
    (left, .nullOf left.type)
  else (left, right)

def promotedTerm (catalog : Catalog) (refusal : TypingError)
    (operator : BinaryOperator) (left right : Term) : Typing Term := do
  let (left, right) ← promoteBoth refusal left right
  catalog.applyBinary refusal operator left right

def enumeration? (catalog : Catalog) (left right : DataType) :
    Option (DataType × DataType) :=
  [left, right].findSome? fun type =>
    (catalog.underlying? type).map fun kind => (type, .ofScalar kind)

def enumerationTerm (catalog : Catalog) (refusal : TypingError)
    (operator : BinaryOperator) (type underlying leftType rightType : DataType)
    (left right : Term) : Typing Term := do
  let other := if type == leftType then rightType else leftType
  if leftType != rightType && other != underlying then throw refusal
  let result ← catalog.promotedTerm refusal operator (left.convertTo underlying)
    (right.convertTo underlying)
  if operator.isComparison then return result else return .convert result type

def operatorTerm (catalog : Catalog) (refusal : TypingError)
    (operator : BinaryOperator) (left right : Term) : Typing Term :=
  let (newLeft, newRight) := catalog.retypeNulls left right
  match catalog.enumeration? left.type right.type with
  | some (type, underlying) =>
      catalog.enumerationTerm refusal operator type underlying left.type right.type newLeft
        newRight
  | none =>
      if operator.isShift && newLeft.type.scalar?.isSome then
        catalog.shiftTerm refusal operator newLeft newRight
      else catalog.promotedTerm refusal operator newLeft newRight

def coalesceTerm (catalog : Catalog) (refusal : TypingError) (left right : Term) :
    Typing Term :=
  if catalog.isValueType left.type && !left.type.isNullable then .error refusal
  else
    match catalog.implicitly? right left.type with
    | some right => .ok (.coalesce left right)
    | none => .error refusal

def concatName : String := "Concat"

def concatOperands : Term → List Term
  | .staticCall method arguments =>
      if method.owner = .string ∧ method.name = concatName then
        match arguments with
        | [.newArray _ items] => items
        | arguments => arguments
      else [.staticCall method arguments]
  | term => [term]

/-- Objects take the place of value types once an operand is not a text. -/
def concatTerm (catalog : Catalog) (left right : Term) : Typing Term := do
  let operands := concatOperands left ++ concatOperands right
  let allTexts := operands.all (·.type.isString)
  let boxed :=
    if allTexts then operands
    else operands.map fun operand =>
      if catalog.isValueType operand.type then .convert operand .object else operand
  let types := boxed.map fun operand => if allTexts then operand.type else .object
  let overloads := catalog.methods .string concatName true
  let unresolved := TypingError.methodUnresolved ("String." ++ concatName)
  match catalog.resolve (overloads.map Method.signature) types with
  | .chosen index _ =>
      match overloads[index]? with
      | some method =>
          return .staticCall method (← catalog.adaptArguments method.parameters boxed)
      | none => throw unresolved
  | _ => throw unresolved

def binaryTerm (catalog : Catalog) (operator : BinaryOperator) (left right : Term) :
    Typing Term :=
  let refusal := TypingError.binaryOperator operator.token (catalog.qualifiedName left.type)
    (catalog.qualifiedName right.type)
  match operator with
  | .andAlso | .orElse => do
      let left ← catalog.requireImplicit left .boolean
      let right ← catalog.requireImplicit right .boolean
      catalog.applyBinary refusal operator left right
  | .coalesce => catalog.coalesceTerm refusal left right
  | .add =>
      if left.type.isString || right.type.isString then catalog.concatTerm left right
      else catalog.operatorTerm refusal operator left right
  | operator => catalog.operatorTerm refusal operator left right

end Catalog

end Formula
