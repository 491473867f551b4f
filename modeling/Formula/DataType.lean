import Formula.TypeId

/-!
Data types: a declared type with a mark for null and a number of array dimensions around it.
The mark on an array type belongs to the elements.
-/

namespace Formula

structure DataType where
  id : TypeId
  nullable : Bool := false
  rank : Nat := 0
deriving DecidableEq

namespace DataType

def void : DataType := ⟨.void, false, 0⟩
def object : DataType := ⟨.object, false, 0⟩
def string : DataType := ⟨.string, false, 0⟩
def boolean : DataType := ⟨.boolean, false, 0⟩
def int32 : DataType := ⟨.int32, false, 0⟩

def plain (id : TypeId) : DataType := ⟨id, false, 0⟩

def ofScalar (kind : Scalar) : DataType := plain (.ofScalar kind)

def orNull (id : TypeId) : DataType := ⟨id, true, 0⟩

def arrayOf (type : DataType) : DataType :=
  { type with rank := type.rank + 1 }

def isArray (type : DataType) : Bool :=
  0 < type.rank

/-- True of a value type with null added, not of an array of such. -/
def isNullable (type : DataType) : Bool :=
  type.rank == 0 && type.nullable

def element? (type : DataType) : Option DataType :=
  match type.rank with
  | 0 => none
  | rank + 1 => some { type with rank := rank }

def underlying (type : DataType) : DataType :=
  if type.isNullable then plain type.id else type

def scalar? (type : DataType) : Option Scalar :=
  if type.rank = 0 ∧ !type.nullable then type.id.scalar? else none

def isScalar (kind : Scalar) (type : DataType) : Bool :=
  type.scalar? == some kind

def isNumeric (type : DataType) : Bool :=
  type.scalar?.any Scalar.isNumeric

def isInteger (type : DataType) : Bool :=
  type.scalar?.any Scalar.isInteger

def isBoolean (type : DataType) : Bool := type == boolean
def isString (type : DataType) : Bool := type == string
def isObject (type : DataType) : Bool := type == object
def isVoid (type : DataType) : Bool := type == void

end DataType

end Formula
