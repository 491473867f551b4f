import Formula.Conversion
import Formula.Operator

/-!
Typed trees. Every node has a static type, every call is tied to one method with an argument
for each parameter, and every conversion is a node.
-/

namespace Formula

inductive Term where
  | constant (value : Value) (type : DataType)
  | parameter (name : String) (type : DataType)
  | staticMember (member : Member)
  | instanceMember (receiver : Term) (member : Member)
  | index (receiver : Term) (indexer : Member) (arguments : List Term)
  | staticCall (method : Method) (arguments : List Term)
  | instanceCall (receiver : Term) (method : Method) (arguments : List Term)
  | convert (operand : Term) (target : DataType)
  | convertBy (method : Method) (operand : Term) (target : DataType)
  | unary (operator : UnaryOperator) (operand : Term) (type : DataType)
  | unaryBy (method : Method) (operator : UnaryOperator) (operand : Term)
  | binary (operator : BinaryOperator) (left right : Term) (type : DataType)
  | binaryBy (method : Method) (operator : BinaryOperator) (left right : Term)
  | coalesce (left right : Term)
  | conditional (test whenTrue whenFalse : Term)
  | elementAt (array position : Term)
  | lengthOf (array : Term)
  | newArray (itemType : DataType) (items : List Term)

namespace Term

def type : Term → DataType
  | constant _ type => type
  | parameter _ type => type
  | staticMember member => member.type
  | instanceMember _ member => member.type
  | index _ indexer _ => indexer.type
  | staticCall method _ => method.result
  | instanceCall _ method _ => method.result
  | convert _ target => target
  | convertBy _ _ target => target
  | unary _ _ type => type
  | unaryBy method _ _ => method.result
  | binary _ _ _ type => type
  | binaryBy method _ _ _ => method.result
  | coalesce left _ => left.type
  | conditional _ whenTrue _ => whenTrue.type
  | elementAt array _ => array.type.element?.getD .object
  | lengthOf _ => .int32
  | newArray itemType _ => itemType.arrayOf

def ofValue (value : Value) : Term :=
  .constant value value.type

def nullOf (type : DataType) : Term :=
  .constant .null type

def isNull : Term → Bool
  | constant .null _ => true
  | _ => false

/-- Reads a member; the length of an array has a node of its own. -/
def readMember (receiver : Option Term) (member : Member) : Term :=
  match receiver with
  | none => .staticMember member
  | some receiver =>
      if member.owner = .array ∧ member.name = "Length" then .lengthOf receiver
      else .instanceMember receiver member

def callMethod (receiver : Option Term) (method : Method) (arguments : List Term) : Term :=
  match receiver with
  | none => .staticCall method arguments
  | some receiver => .instanceCall receiver method arguments

def convertTo (term : Term) (target : DataType) : Term :=
  if term.type = target then term else .convert term target

end Term

namespace Conversion

def apply (conversion : Conversion) (term : Term) (target : DataType) : Term :=
  match conversion with
  | identity | reference => term
  | operator method => .convertBy method term target
  | widening | boxing | lifting | explicit => .convert term target

end Conversion

end Formula
